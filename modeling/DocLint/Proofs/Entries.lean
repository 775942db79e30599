import DocLint.Entries
import Mathlib.Data.List.Nodup

/-!
DocLint.Proofs.Entries: what dictionaries hold after `put` and `ofPairs`.

`put` changes what is held for one key and nothing else. A dictionary made of pairs holds a key if some
pair has it, and, if no two pairs have the same key, it holds the value of that pair. Where a key decides its
value, the order in which keys are set has no influence.
-/

namespace DocLint.Entries

variable {κ α β : Type} [BEq κ] [LawfulBEq κ]

/-! ## §1. Looking keys up. -/

omit [LawfulBEq κ] in
theorem get?_cons (k k' : κ) (v : α) (d : Entries κ α) :
    get? ((k', v) :: d) k = if k == k' then some v else get? d k := by
  unfold get?
  rw [List.lookup_cons]
  cases k == k' <;> rfl

/-- A key is held exactly if it has a value. -/
theorem has_eq_isSome_get? (d : Entries κ α) (k : κ) : d.has k = (d.get? k).isSome := by
  induction d with
  | nil => rfl
  | cons e d ih =>
    obtain ⟨k', v⟩ := e
    rw [get?_cons]
    by_cases h : k = k'
    · simp [has, h]
    · have hk : (k == k') = false := beq_false_of_ne h
      have hk' : (k' == k) = false := beq_false_of_ne (Ne.symm h)
      rw [hk, if_neg (by simp), ← ih]
      simp [has, hk']

theorem mem_keys {d : Entries κ α} {k : κ} : k ∈ d.keys ↔ d.has k = true := by
  simp [keys, has]

theorem mem_of_get? {d : Entries κ α} {k : κ} {v : α} (h : d.get? k = some v) : (k, v) ∈ d := by
  induction d with
  | nil => cases h
  | cons e d ih =>
    obtain ⟨k', v'⟩ := e
    rw [get?_cons] at h
    by_cases hk : k = k'
    · subst hk
      rw [if_pos (by simp)] at h
      cases h
      exact List.mem_cons_self
    · rw [if_neg (by simpa using hk)] at h
      exact List.mem_cons_of_mem _ (ih h)

/-- **If no two entries have the same key, a dictionary holds the value of each.** -/
theorem get?_of_mem {d : Entries κ α} (hn : (d.map (·.1)).Nodup) {k : κ} {v : α} (h : (k, v) ∈ d) :
    d.get? k = some v := by
  have hsome : (d.get? k).isSome = true := by
    rw [← has_eq_isSome_get?, has, List.any_eq_true]
    exact ⟨(k, v), h, beq_self_eq_true k⟩
  obtain ⟨v', hv'⟩ := Option.isSome_iff_exists.mp hsome
  have heq : (k, v') = (k, v) := List.inj_on_of_nodup_map hn (mem_of_get? hv') h rfl
  rw [hv', (Prod.mk.inj heq).2]

omit [LawfulBEq κ] in
/-- Changing every value keeps which keys are held. -/
theorem get?_map (f : α → β) (d : Entries κ α) (k : κ) :
    get? (d.map fun e => (e.1, f e.2)) k = (d.get? k).map f := by
  induction d with
  | nil => rfl
  | cons e d ih =>
    obtain ⟨k', v⟩ := e
    rw [List.map_cons, get?_cons, get?_cons, ih]
    cases k == k' <;> rfl

/-! ## §2. Setting a key. -/

/-- **A key that is set has its new value, and every other key keeps its value.** -/
theorem get?_put (d : Entries κ α) (k k' : κ) (v : α) :
    (d.put k' v).get? k = if k == k' then some v else d.get? k := by
  induction d with
  | nil => rw [put, get?_cons]
  | cons e d ih =>
    obtain ⟨k₀, v₀⟩ := e
    rw [put]
    by_cases h₀ : k₀ = k'
    · subst h₀
      rw [if_pos (by simp), get?_cons, get?_cons]
      cases k == k₀ <;> rfl
    · rw [if_neg (by simpa using h₀), get?_cons, get?_cons, ih]
      by_cases hk : k = k₀
      · subst hk
        rw [beq_self_eq_true, if_pos rfl, if_neg (by simpa using h₀), if_pos rfl]
      · have hne : (k == k₀) = false := beq_false_of_ne hk
        rw [hne]
        rfl

/-- Setting keys one after another: the last value of a key counts, and the old one if there is
none. -/
theorem get?_foldl_put (ps : List (κ × α)) :
    ∀ (d : Entries κ α) (k : κ),
      get? (ps.foldl (fun d p => d.put p.1 p.2) d) k
        = ((ps.reverse.find? (·.1 == k)).map (·.2)).or (d.get? k) := by
  induction ps with
  | nil => intro d k; rfl
  | cons p ps ih =>
    intro d k
    rw [List.foldl_cons, ih, get?_put, List.reverse_cons, List.find?_append]
    by_cases hk : k = p.1
    · subst hk
      cases ps.reverse.find? (·.1 == p.1) <;> simp
    · have hk' : (p.1 == k) = false := beq_false_of_ne (Ne.symm hk)
      cases ps.reverse.find? (·.1 == k) <;> simp [hk, hk']

theorem put_of_not_mem {d : Entries κ α} {k : κ} (h : k ∉ d.map (·.1)) (v : α) :
    d.put k v = d ++ [(k, v)] := by
  induction d with
  | nil => rfl
  | cons e d ih =>
    obtain ⟨k₀, v₀⟩ := e
    rw [List.map_cons, List.mem_cons, not_or] at h
    rw [put, if_neg (by simpa using Ne.symm h.1), ih h.2]
    rfl

/-- **Pairs with different keys are the entries of their dictionary.** -/
theorem ofPairs_of_nodup {ps : List (κ × α)} (hn : (ps.map (·.1)).Nodup) : ofPairs ps = ps := by
  have hfold : ∀ (ps : List (κ × α)) (d : Entries κ α), ((d ++ ps).map (·.1)).Nodup →
      ps.foldl (fun d p => d.put p.1 p.2) d = d ++ ps := by
    intro ps
    induction ps with
    | nil => simp
    | cons p ps ih =>
      intro d hd
      have hnew : p.1 ∉ d.map (·.1) := by
        rw [List.map_append, List.map_cons] at hd
        exact fun hp => (List.nodup_append.mp hd).2.2 _ hp _ List.mem_cons_self rfl
      rw [List.foldl_cons, put_of_not_mem hnew, ih _ (by simpa using hd)]
      simp
  exact hfold ps [] hn

theorem has_ofPairs {ps : List (κ × α)} {k : κ} :
    (ofPairs ps).has k = true ↔ ∃ v, (k, v) ∈ ps := by
  rw [has_eq_isSome_get?, ofPairs, get?_foldl_put]
  simp [get?]

theorem mem_of_get?_ofPairs {ps : List (κ × α)} {k : κ} {v : α} (h : (ofPairs ps).get? k = some v) :
    (k, v) ∈ ps := by
  rw [ofPairs, get?_foldl_put] at h
  cases hfound : ps.reverse.find? (·.1 == k) with
  | none =>
    rw [hfound] at h
    cases h
  | some e =>
    obtain ⟨k', v'⟩ := e
    have hk' : k' = k := by simpa using List.find?_some hfound
    have hmem : (k', v') ∈ ps := by simpa using List.mem_of_find?_eq_some hfound
    rw [hfound] at h
    cases h
    rwa [← hk']

/-- **If no two pairs have the same key, the dictionary holds the value of each.** -/
theorem get?_ofPairs_of_mem {ps : List (κ × α)} (hn : (ps.map (·.1)).Nodup) {k : κ} {v : α}
    (h : (k, v) ∈ ps) : (ofPairs ps).get? k = some v := by
  rw [ofPairs_of_nodup hn]
  exact get?_of_mem hn h

end DocLint.Entries
