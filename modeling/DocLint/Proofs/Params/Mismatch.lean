import DocLint.Params.Check
import Mathlib.Data.List.Perm.Basic

/-!
DocLint.Proofs.Params.Mismatch: pairing loses no name.

Pairing only distributes names: each missing name is in a pair or listed as missing, and each name that only
the docstring has is in a pair or listed as extra, as often as it was given. What is left keeps its order, and
no two names that are left could still be paired. `IsPairing` says so of any report, with one lemma for each
way in which a report grows.

Pairing takes names out of two lists as it goes along; `greedy` finds the same pairs by recursion on the missing
names, and the two are equal because a name that has been kept fits no extra name that is left. Main result:
pairing never fails, what it leaves is a pairing, also where names are given more than once, and the report has a
line for each pair and one for each side that is left.
-/

namespace DocLint.Params.Mismatch

/-! ## §1. Reports that lose no name. -/

/-- A report distributes the missing and the extra names: each is in a pair or left. -/
structure IsPairing (missing extra : List String) (r : Mismatch) : Prop where
  /-- The names of a pair differ by stars only. -/
  paired : ∀ p ∈ r.pairs, withoutStars p.2 = p.1
  /-- The missing names are those in pairs and those that are left. -/
  missing_perm : missing.Perm (r.pairs.map (·.1) ++ r.missing)
  /-- The extra names are those in pairs and those that are left. -/
  extra_perm : extra.Perm (r.pairs.map (·.2) ++ r.extra)
  /-- The missing names that are left keep their order. -/
  missing_sublist : r.missing.Sublist missing
  /-- The extra names that are left keep their order. -/
  extra_sublist : r.extra.Sublist extra
  /-- No two names that are left differ by stars only. -/
  unpaired : ∀ m ∈ r.missing, ∀ e ∈ r.extra, withoutStars e ≠ m

namespace IsPairing

variable {m e : String} {ms extra : List String} {r : Mismatch}

theorem nil (extra : List String) : IsPairing [] extra { extra } where
  paired := List.forall_mem_nil _
  missing_perm := .nil
  extra_perm := .refl extra
  missing_sublist := .slnil
  extra_sublist := .refl extra
  unpaired := List.forall_mem_nil _

/-- A pair takes one name from each side. -/
theorem cons_pair (he : e ∈ extra) (hm : withoutStars e = m) (h : IsPairing ms (extra.erase e) r) :
    IsPairing (m :: ms) extra { r with pairs := (m, e) :: r.pairs } where
  paired := List.forall_mem_cons.mpr ⟨hm, h.paired⟩
  missing_perm := h.missing_perm.cons m
  extra_perm := (List.perm_cons_erase he).trans (h.extra_perm.cons e)
  missing_sublist := h.missing_sublist.cons m
  extra_sublist := h.extra_sublist.trans List.erase_sublist
  unpaired := h.unpaired

/-- A missing name that fits no extra name is left. -/
theorem cons_missing (hm : ∀ e ∈ extra, withoutStars e ≠ m) (h : IsPairing ms extra r) :
    IsPairing (m :: ms) extra { r with missing := m :: r.missing } where
  paired := h.paired
  missing_perm := (h.missing_perm.cons m).trans List.perm_middle.symm
  extra_perm := h.extra_perm
  missing_sublist := h.missing_sublist.cons_cons m
  extra_sublist := h.extra_sublist
  unpaired := by
    -- what is left of the extra names was there before
    have hleft : ∀ e ∈ r.extra, withoutStars e ≠ m := fun e he => hm e (h.extra_sublist.subset he)
    exact List.forall_mem_cons.mpr ⟨hleft, h.unpaired⟩

end IsPairing

/-! ## §2. Pairing by recursion. -/

/-- Pairs each missing name with the first extra name left that equals it without stars. -/
def greedy : (missing extra : List String) → Mismatch
  | [], extra => { extra }
  | m :: ms, extra =>
    match extra.find? (withoutStars · == m) with
    | some e =>
      let rest := greedy ms (extra.erase e)
      { rest with pairs := (m, e) :: rest.pairs }
    | none =>
      let rest := greedy ms extra
      { rest with missing := m :: rest.missing }

section Names

variable {m e : String} {ms extra : List String}

theorem greedy_cons_some (h : extra.find? (withoutStars · == m) = some e) :
    greedy (m :: ms) extra
      = { greedy ms (extra.erase e) with pairs := (m, e) :: (greedy ms (extra.erase e)).pairs } := by
  rw [greedy, h]

theorem greedy_cons_none (h : extra.find? (withoutStars · == m) = none) :
    greedy (m :: ms) extra = { greedy ms extra with missing := m :: (greedy ms extra).missing } := by
  rw [greedy, h]

theorem mem_of_find? (h : extra.find? (withoutStars · == m) = some e) : e ∈ extra ∧ withoutStars e = m := by
  have hfits := List.find?_some h
  exact ⟨List.mem_of_find?_eq_some h, beq_iff_eq.mp hfits⟩

theorem find?_eq_none_iff :
    extra.find? (withoutStars · == m) = none ↔ ∀ e ∈ extra, withoutStars e ≠ m := by
  simp

end Names

theorem isPairing_greedy (missing : List String) :
    ∀ extra : List String, IsPairing missing extra (greedy missing extra) := by
  induction missing with
  | nil => exact .nil
  | cons m ms ih =>
    intro extra
    cases h : extra.find? (withoutStars · == m) with
    | some e =>
      rw [greedy_cons_some h]
      obtain ⟨he, hm⟩ := mem_of_find? h
      exact .cons_pair he hm (ih (extra.erase e))
    | none =>
      rw [greedy_cons_none h]
      exact .cons_missing (find?_eq_none_iff.mp h) (ih extra)

/-! ## §3. Pairing by taking names out. -/

section Rounds

variable {m e : String} {kept ms extra : List String} {pairs : List (String × String)}

/-- A round that finds a pair takes out the name it was made for: none of the names that have been kept fits
an extra name that is left, so none of them is equal to it. -/
theorem round?_some (hkept : ∀ k ∈ kept, ∀ e ∈ extra, withoutStars e ≠ k)
    (h : extra.find? (withoutStars · == m) = some e) :
    round? ⟨pairs, kept ++ m :: ms, extra⟩ m = some ⟨pairs ++ [(m, e)], kept ++ ms, extra.erase e⟩ := by
  obtain ⟨he, hm⟩ := mem_of_find? h
  have hfirst : m ∉ kept := by
    intro hmem
    exact hkept m hmem e he hm
  have hmissing : takeOut? m (kept ++ m :: ms) = some (kept ++ ms) := by
    rw [takeOut?_of_mem (by simp), List.erase_append_right _ hfirst, List.erase_cons_head]
  unfold round?
  simp only [h]
  rw [hmissing, takeOut?_of_mem he]
  rfl

theorem round?_none (h : extra.find? (withoutStars · == m) = none) :
    round? ⟨pairs, kept ++ m :: ms, extra⟩ m = some ⟨pairs, kept ++ m :: ms, extra⟩ := by
  unfold round?
  simp only [h]

/-- All rounds together: the pairs of the names to come are added, and what they leave stands behind the names
that have been kept. -/
theorem foldlM_round? (ms : List String) :
    ∀ (pairs : List (String × String)) (kept extra : List String),
      (∀ k ∈ kept, ∀ e ∈ extra, withoutStars e ≠ k) →
      ms.foldlM round? ⟨pairs, kept ++ ms, extra⟩
        = some ⟨pairs ++ (greedy ms extra).pairs, kept ++ (greedy ms extra).missing,
          (greedy ms extra).extra⟩ := by
  -- what carries the induction: no name that has been kept fits an extra name that is left
  induction ms with
  | nil =>
    intro pairs kept extra _
    simp [greedy]
  | cons m ms ih =>
    intro pairs kept extra hkept
    rw [List.foldlM_cons]
    cases h : extra.find? (withoutStars · == m) with
    | some e =>
      have hkept' : ∀ k ∈ kept, ∀ d ∈ extra.erase e, withoutStars d ≠ k := by
        intro k hk d hd
        exact hkept k hk d (List.mem_of_mem_erase hd)
      rw [round?_some hkept h, greedy_cons_some h, Option.bind_eq_bind, Option.bind_some, ih _ _ _ hkept']
      simp
    | none =>
      -- the name goes to those that are kept
      have hkept' : ∀ k ∈ kept ++ [m], ∀ d ∈ extra, withoutStars d ≠ k := by
        intro k hk
        rcases List.mem_append.mp hk with hk | hk
        · exact hkept k hk
        · rw [List.mem_singleton.mp hk]
          exact find?_eq_none_iff.mp h
      rw [round?_none h, greedy_cons_none h, Option.bind_eq_bind, Option.bind_some,
        List.append_cons kept m ms, ih _ _ _ hkept']
      simp

end Rounds

theorem pairUp?_eq_greedy (missing extra : List String) :
    pairUp? missing extra = some (greedy missing extra) :=
  foldlM_round? missing [] [] extra (List.forall_mem_nil _)

theorem ofNames_eq_greedy (missing extra : List String) : ofNames missing extra = greedy missing extra := by
  unfold ofNames
  exact Option.get_of_eq_some _ (pairUp?_eq_greedy missing extra)

/-- **Pairing loses no name**, and pairs as long as it can. -/
theorem isPairing_ofNames (missing extra : List String) : IsPairing missing extra (ofNames missing extra) := by
  rw [ofNames_eq_greedy]
  exact isPairing_greedy missing extra

/-- Pairs or listed names are left whenever there was a name. -/
theorem ofNames_ne {missing extra : List String} (h : missing ≠ [] ∨ extra ≠ []) :
    (ofNames missing extra).pairs ≠ [] ∨ (ofNames missing extra).missing ≠ [] ∨
      (ofNames missing extra).extra ≠ [] := by
  by_contra hnone
  simp only [not_or, not_not] at hnone
  obtain ⟨hpairs, hmissing, hextra⟩ := hnone
  have hpairing := isPairing_ofNames missing extra
  have hm := hpairing.missing_perm
  have he := hpairing.extra_perm
  rw [hpairs, hmissing] at hm
  rw [hpairs, hextra] at he
  rcases h with h | h
  · exact h hm.eq_nil
  · exact h he.eq_nil

/-! ## §4. The text of a report. -/

/-- A name has one star in front if it is another name, without stars of its own, behind a star. -/
theorem starCount_eq_one_iff {m e : String} (h : withoutStars e = m) : starCount e = 1 ↔ e = "*" ++ m := by
  have hsplit : e.toList.takeWhile (· == '*') ++ m.toList = e.toList := by
    rw [← h]
    unfold withoutStars
    rw [String.toList_ofList, List.takeWhile_append_dropWhile]
  have hstars : ∀ c ∈ e.toList.takeWhile (· == '*'), c = '*' := by
    intro c hc
    exact beq_iff_eq.mp (List.all_eq_true.mp List.all_takeWhile c hc)
  unfold starCount
  rw [← String.toList_inj, String.toList_append]
  generalize e.toList.takeWhile (· == '*') = stars at hsplit hstars ⊢
  rw [← hsplit, List.append_left_inj]
  constructor
  · intro hone
    obtain ⟨c, hc⟩ := List.length_eq_one_iff.mp hone
    rw [hc, hstars c (by simp [hc])]
    rfl
  · intro hone
    rw [hone]
    rfl

/-- **The report of names that differ loses and repeats none.** Looking at the missing names in turn and taking
each pair out of the two lists always finds what it takes out. It leaves pairs of names that differ by stars only,
and the rest of both sides in order, among which no two names could still be paired. The report has a line for each
pair, which gives its two names and tells one star from several, then a line with the missing names that are left
and one with the extra names that are left, each where there are any. -/
theorem message_of_rounds (missing extra : List String) :
    ∃ r : Mismatch, pairUp? missing extra = some r ∧ IsPairing missing extra r ∧
      (NameIssue.mismatch missing extra).message
        = "Parameter mismatch:\n" ++ "\n".intercalate
          ((r.pairs.map fun p => "  - Parameter '" ++ p.1 ++ "' found in docstring as '" ++ p.2 ++
              "'. Please remove the " ++ (if p.2 = "*" ++ p.1 then "asterisk" else "asterisks") ++ ".") ++
            (if r.missing = [] then []
              else ["  - In signature but not in docstring: '" ++ "', '".intercalate r.missing ++ "'"]) ++
            (if r.extra = [] then []
              else ["  - In docstring but not in signature: '" ++ "', '".intercalate r.extra ++ "'"])) := by
  have hpairing := isPairing_ofNames missing extra
  refine ⟨ofNames missing extra, (Option.some_get _).symm, hpairing, ?_⟩
  have hpairs : (ofNames missing extra).pairs.map pairText
      = (ofNames missing extra).pairs.map fun p => "  - Parameter '" ++ p.1 ++ "' found in docstring as '" ++ p.2 ++
        "'. Please remove the " ++ (if p.2 = "*" ++ p.1 then "asterisk" else "asterisks") ++ "." := by
    apply List.map_congr_left
    intro p hp
    unfold pairText
    simp only [beq_iff_eq, starCount_eq_one_iff (hpairing.paired p hp)]
  have hside : ∀ label names, sideText label names
      = if names = [] then [] else ["  - " ++ label ++ ": '" ++ "', '".intercalate names ++ "'"] := by
    intro label names
    unfold sideText
    simp only [List.isEmpty_iff]
  show Mismatch.message _ = _
  unfold message
  rw [hpairs, hside, hside]
  rfl

-- a name that is missing three times, with two names that fit it
example : ofNames ["x", "y", "x", "x"] ["**x", "z", "*y", "*x"]
    = { pairs := [("x", "**x"), ("y", "*y"), ("x", "*x")], missing := ["x"], extra := ["z"] } := by
  decide

end DocLint.Params.Mismatch
