import DocLint.Config.Rules
import DocLint.Proofs.Check.Order
import DocLint.Proofs.Value.Order
import Mathlib.Data.List.Duplicate

/-!
DocLint.Proofs.Config.Sections: the sections of a configuration.

A table gives sections as a list of tables. If each of them can be used and has an integer or nothing for its
order, there are three outcomes. Orders that are shared are reported, each once and ascending; they are not if
one of them has too many digits to be written, which is reported instead; and if no order is shared, the result
has the sections with an order, strictly ascending, in front of those without one, which stay as they are given.
-/

namespace DocLint

/-! ## §1. Sections that can be used. -/

theorem Value.int?_eq_some_iff {v : Value} {n : Int} : v.int? = some n ↔ v = .int n := by
  cases v <;> simp [Value.int?]

namespace SectionSpec

/-- A section that can be used. -/
structure IsSound (s : SectionSpec) : Prop where
  /-- Its kind is one of four. -/
  kind : ∃ label ∈ ["free_text", "list_name", "list_type", "list_name_and_type"], s.kind = .text label
  /-- An admonition and the mark in front of it come together or not at all. -/
  admonition : s.admonition = .bool false ∧ s.marker.truthy = false
    ∨ (∃ a, s.admonition = .text a) ∧ s.marker.truthy = true

theorem isKnownKind_iff (v : Value) :
    isKnownKind v = true
      ↔ ∃ label ∈ ["free_text", "list_name", "list_type", "list_name_and_type"], v = .text label := by
  cases v with
  | text label => simp [isKnownKind, SectionKind.known, @eq_comm _ label]
  | _ => simp [isKnownKind]

/-- **A section has no error exactly if it can be used.** -/
theorem error?_eq_none_iff (s : SectionSpec) : s.error? = none ↔ s.IsSound := by
  have hsplit : s.IsSound ↔ isKnownKind s.kind = true ∧
      (s.admonition = .bool false ∧ s.marker.truthy = false
        ∨ (∃ a, s.admonition = .text a) ∧ s.marker.truthy = true) := by
    rw [isKnownKind_iff]
    exact ⟨fun h => ⟨h.kind, h.admonition⟩, fun h => ⟨h.1, h.2⟩⟩
  rw [hsplit, error?]
  cases hkind : isKnownKind s.kind with
  | false => simp
  | true =>
    cases hadmonition : s.admonition with
    | bool b => cases b <;> simp
    | _ => simp

/-- A section whose order is an integer, if it has one. -/
def IsNumbered (s : SectionSpec) : Prop :=
  s.isOrdered = true → s.order.int?.isSome = true

instance (s : SectionSpec) : Decidable s.IsNumbered :=
  inferInstanceAs (Decidable (s.isOrdered = true → s.order.int?.isSome = true))

theorem isOrdered_iff {s : SectionSpec} (h : s.IsNumbered) :
    s.isOrdered = true ↔ ∃ n, s.order = .int n := by
  unfold IsNumbered at h
  unfold isOrdered at h ⊢
  cases horder : s.order <;> simp_all [Value.int?]

end SectionSpec

/-- The orders of sections that are integers. -/
def numbers (sections : List SectionSpec) : List Int :=
  sections.filterMap (·.order.int?)

/-- An integer that is the order of at least two sections. -/
def IsShared (sections : List SectionSpec) (n : Int) : Prop :=
  2 ≤ (numbers sections).count n

instance (sections : List SectionSpec) (n : Int) : Decidable (IsShared sections n) :=
  inferInstanceAs (Decidable (2 ≤ (numbers sections).count n))

/-! ## §2. Orders that are shared. -/

theorem any_same_int (ms : List Int) (n : Int) :
    (ms.map Value.int).any (·.same (.int n)) = decide (n ∈ ms) := by
  rw [Bool.eq_iff_iff, List.any_map, List.any_eq_true]
  simp [Value.same_int]

/-- The scan for values that occur again: it finds those that it holds already, those that it has seen before,
and those that occur twice in what follows. -/
theorem repeated_int (ns : List Int) :
    ∀ seen again : List Int, again.Nodup →
      ∃ found : List Int,
        repeated (seen.map Value.int) (again.map Value.int) (ns.map Value.int) = .ok (found.map Value.int) ∧
        found.Nodup ∧ ∀ n, n ∈ found ↔ n ∈ again ∨ n ∈ seen ∧ n ∈ ns ∨ List.Duplicate n ns := by
  induction ns with
  | nil =>
    intro seen again hagain
    exact ⟨again, rfl, hagain, by simp⟩
  | cons m ns ih =>
    intro seen again hagain
    rw [List.map_cons, repeated, any_same_int, any_same_int, if_neg (by simp [Value.isHashable])]
    by_cases hseen : m ∈ seen
    · -- a value that was seen is held from now on, and only once
      have hheld : ∃ again' : List Int, again'.Nodup ∧ (∀ n, n ∈ again' ↔ n = m ∨ n ∈ again) ∧
          (if m ∈ again then again.map Value.int else again.map Value.int ++ [Value.int m])
            = again'.map Value.int := by
        by_cases hknown : m ∈ again
        · exact ⟨again, hagain, by simp [hknown], by rw [if_pos hknown]⟩
        · refine ⟨again ++ [m], ?_, by simp [or_comm], by simp [hknown]⟩
          exact hagain.append (List.nodup_singleton m) (by simpa using hknown)
      obtain ⟨again', hnodup', hmem', hagain'⟩ := hheld
      obtain ⟨found, hfound, hnodup, hmem⟩ := ih seen again' hnodup'
      refine ⟨found, ?_, hnodup, fun n => ?_⟩
      · simpa [hseen, hagain'] using hfound
      · rw [hmem, hmem', List.mem_cons, List.duplicate_cons_iff]
        by_cases hn : n = m
        · simp [hn, hseen]
        · simp [hn, Ne.symm hn]
    · obtain ⟨found, hfound, hnodup, hmem⟩ := ih (seen ++ [m]) again hagain
      refine ⟨found, ?_, hnodup, fun n => ?_⟩
      · simpa [hseen] using hfound
      · rw [hmem, List.mem_cons, List.duplicate_cons_iff]
        by_cases hn : n = m
        · simp [hn, hseen]
        · simp [hn, Ne.symm hn]

/-- The orders of numbered sections are their numbers. -/
theorem orders_eq_numbers {sections : List SectionSpec} (h : ∀ s ∈ sections, s.IsNumbered) :
    (sections.filter (·.isOrdered)).map (·.order) = (numbers sections).map Value.int := by
  induction sections with
  | nil => rfl
  | cons s sections ih =>
    obtain ⟨hs, hrest⟩ := List.forall_mem_cons.mp h
    have hcons := ih hrest
    unfold numbers at hcons ⊢
    by_cases hordered : s.isOrdered = true
    · obtain ⟨n, hn⟩ := (SectionSpec.isOrdered_iff hs).mp hordered
      rw [List.filter_cons_of_pos hordered, List.map_cons, hcons, hn, List.filterMap_cons, hn]
      rfl
    · have hnone : s.order.int? = none := by
        cases horder : s.order <;> simp_all [SectionSpec.isOrdered, Value.int?]
      rw [List.filter_cons_of_neg hordered, hcons, List.filterMap_cons, hnone]

/-- The error that reports orders: they are written, or one of them has too many digits. -/
theorem raised_duplicateOrders (ns : List Int) :
    ConfigError.raised (.duplicateOrders (ns.map Value.int))
      = if ∀ n ∈ ns, n.natAbs < Nat.pow 10 maxDigits then .duplicateOrders (ns.map Value.int)
        else .tooManyDigits := by
  unfold ConfigError.raised ConfigError.shown
  congr 1
  simp [List.all_map, Value.isWritable]

/-- **The shared orders are found**, each once and ascending. -/
theorem checkOrders_eq {sections : List SectionSpec} (h : ∀ s ∈ sections, s.IsNumbered) :
    ∃ shared : List Int, shared.Pairwise (· < ·) ∧ (∀ n, n ∈ shared ↔ IsShared sections n) ∧
      checkOrders sections = if shared = [] then .ok ()
        else .error (ConfigError.raised (.duplicateOrders (shared.map Value.int))) := by
  obtain ⟨found, hfound, hnodup, hmem⟩ := repeated_int (numbers sections) [] [] List.nodup_nil
  obtain ⟨shared, hsorted, hperm, hascends⟩ := Value.sortBy?_int found
  refine ⟨shared, ?_, fun n => ?_, ?_⟩
  · refine hascends.imp₂ ?_ (hperm.nodup_iff.mpr hnodup)
    intro m n hle hne
    exact lt_of_le_of_ne hle hne
  · rw [hperm.mem_iff, hmem, List.duplicate_iff_two_le_count]
    simp [IsShared]
  · unfold checkOrders
    rw [orders_eq_numbers h]
    simp only [List.map_nil] at hfound
    simp only [hfound, hsorted, Except.mapError, bind, Except.bind]
    -- the list is empty before it is sorted exactly if it is afterwards
    cases hempty : found with
    | nil =>
      have hnone : shared = [] := List.Perm.eq_nil (hempty ▸ hperm)
      simp [hnone, pure, Except.pure]
    | cons n ns =>
      have hsome : shared ≠ [] := by
        intro hnil
        rw [hnil, hempty] at hperm
        cases hperm.symm.eq_nil
      simp [hsome, throw, throwThe, MonadExceptOf.throw]

/-! ## §3. The order of the sections. -/

theorem mergeSort_congr {α : Type} {r r' : α → α → Bool} {l : List α}
    (h : ∀ a ∈ l, ∀ b ∈ l, r a b = r' a b) : l.mergeSort r = l.mergeSort r' := by
  simpa using List.map_mergeSort (f := id) h

/-- **Merge sort keeps the order of members with equal keys.** -/
theorem filter_mergeSort_key {α κ : Type} [LinearOrder κ] (key : α → κ) (l : List α) (k : κ) :
    (l.mergeSort fun x y => key x ≤ key y).filter (key · = k) = l.filter (key · = k) := by
  have hsub : (l.filter (key · = k)).Sublist (l.mergeSort fun x y => key x ≤ key y) := by
    refine List.sublist_mergeSort ?_ ?_ ?_ List.filter_sublist
    · intro x y z hxy hyz
      simp only [decide_eq_true_eq] at hxy hyz ⊢
      exact le_trans hxy hyz
    · intro x y
      simpa using le_total (key x) (key y)
    · refine List.Pairwise.imp_of_mem ?_ (List.pairwise_of_forall fun _ _ => trivial)
      intro x y hx hy _
      have hxk : key x = k := by simpa using (List.mem_filter.mp hx).2
      have hyk : key y = k := by simpa using (List.mem_filter.mp hy).2
      simp [hxk, hyk]
  have hkept := hsub.filter (key · = k)
  rw [List.filter_filter] at hkept
  simp only [Bool.and_self] at hkept
  exact (hkept.eq_of_length ((List.mergeSort_perm l _).filter _).length_eq.symm).symm

/-- A list that ascends has what lies above everything at its end. -/
theorem Ascends.eq_append_top {α κ : Type} [LinearOrder κ] [OrderTop κ] {key : α → κ} {xs : List α}
    (h : Ascends key xs) : xs = xs.filter (key · ≠ ⊤) ++ xs.filter (key · = ⊤) := by
  induction xs with
  | nil => rfl
  | cons x xs ih =>
    obtain ⟨hx, hxs⟩ := List.pairwise_cons.mp h
    by_cases htop : key x = ⊤
    · have hrest : ∀ y ∈ xs, key y = ⊤ := by
        intro y hy
        exact top_le_iff.mp (htop ▸ hx y hy)
      have hnone : (x :: xs).filter (key · ≠ ⊤) = [] := by
        simpa [htop] using hrest
      have hall : (x :: xs).filter (key · = ⊤) = x :: xs := by
        simpa [htop] using hrest
      rw [hnone, hall, List.nil_append]
    · have hcons := ih hxs
      simp only [List.filter_cons, htop, ne_eq, not_false_eq_true, decide_true, decide_false, if_true,
        Bool.false_eq_true, if_false, List.cons_append]
      rw [← hcons]

/-- **Sections are sorted by integers, and those that stand for infinity keep their order.** -/
theorem sortByValue_spec {α : Type} {key : α → Value} {xs : List α} (h : ∀ x ∈ xs, (key x).IsRanked) :
    ∃ ys, sortByValue key xs = .ok ys ∧ ys.Perm xs ∧ Ascends (fun x => (key x).rank) ys ∧
      ys.filter (fun x => (key x).rank = ⊤) = xs.filter (fun x => (key x).rank = ⊤) := by
  have hnumbers : xs.all (fun x => (key x).number?.isSome) = true := by
    rw [List.all_eq_true]
    intro x hx
    obtain ⟨k, hk⟩ := (h x hx).exists_number?
    simp [hk]
  refine ⟨xs.mergeSort fun x y => (key x).rank ≤ (key y).rank, ?_, List.mergeSort_perm _ _,
    pairwise_mergeSort_key _ _, filter_mergeSort_key _ _ _⟩
  unfold sortByValue
  rw [if_pos hnumbers]
  -- on these members the comparison of numbers is that of ranks
  refine congrArg Except.ok (mergeSort_congr ?_)
  intro a ha b hb
  obtain ⟨x, hx⟩ := (h a ha).exists_number?
  obtain ⟨y, hy⟩ := (h b hb).exists_number?
  have hlt := Value.comparesBy_rank _ _ (h b hb) (h a ha)
  rw [Value.lt_of_number? hy hx, Except.ok.injEq] at hlt
  simp only [hx, hy, hlt]
  rw [Bool.eq_iff_iff]
  simp

/-- The sections as a configuration keeps them: those with an order in front, strictly ascending, and the others as
they are given. -/
structure IsArranged (sections result : List SectionSpec) : Prop where
  /-- The sections are the same. -/
  perm : result.Perm sections
  /-- Those without an order follow the others and keep their places among themselves. -/
  split : ∃ ordered, result = ordered ++ sections.filter (!·.isOrdered) ∧
    ∃ ns : List Int, ordered.map (·.order) = ns.map Value.int ∧ ns.Pairwise (· < ·)

theorem SectionSpec.rank_sortKey_of_int {s : SectionSpec} {n : Int} (h : s.order = .int n) :
    s.sortKey.rank = (n : WithTop Int) := by
  simp [sortKey, h, Value.rank]

theorem rank_sortKey {s : SectionSpec} (h : s.IsNumbered) :
    s.sortKey.IsRanked ∧ (s.sortKey.rank = ⊤ ↔ s.isOrdered = false) := by
  by_cases hordered : s.isOrdered = true
  · obtain ⟨n, hn⟩ := (SectionSpec.isOrdered_iff h).mp hordered
    simp only [SectionSpec.sortKey, hn, hordered, Value.rank]
    exact ⟨.int n, by simp⟩
  · have hnone : s.order = .none := by
      cases horder : s.order <;> simp_all [SectionSpec.isOrdered]
    simp only [SectionSpec.sortKey, hnone, Value.rank]
    exact ⟨.infinity, by simpa using hordered⟩

/-- **Sections of which no two share an order are arranged.** -/
theorem isArranged_of_sortByValue {sections : List SectionSpec} (h : ∀ s ∈ sections, s.IsNumbered)
    (hunique : ∀ n, ¬ IsShared sections n) :
    ∃ result, sortByValue SectionSpec.sortKey sections = .ok result ∧ IsArranged sections result := by
  obtain ⟨result, hresult, hperm, hascends, hlast⟩ :=
    sortByValue_spec fun s hs => (rank_sortKey (h s hs)).1
  have h' : ∀ s ∈ result, s.IsNumbered := fun s hs => h s (hperm.mem_iff.mp hs)
  refine ⟨result, hresult, hperm, result.filter (·.isOrdered), ?_, numbers result,
    orders_eq_numbers h', ?_⟩
  · -- what is not ordered has the rank of infinity, and so stands last
    have hordered : result.filter (fun s => s.sortKey.rank ≠ ⊤) = result.filter (·.isOrdered) := by
      refine List.filter_congr fun s hs => ?_
      simp [(rank_sortKey (h' s hs)).2]
    have hother : sections.filter (fun s => s.sortKey.rank = ⊤) = sections.filter (!·.isOrdered) := by
      refine List.filter_congr fun s hs => ?_
      simp [(rank_sortKey (h s hs)).2]
    have hsplit := hascends.eq_append_top
    rw [hordered, hlast, hother] at hsplit
    exact hsplit
  · -- the numbers ascend with the ranks, and no two are equal
    have hle : (numbers result).Pairwise (· ≤ ·) := by
      refine List.Pairwise.filterMap _ ?_ hascends
      intro s t hst m hm n hn
      simp only [SectionSpec.rank_sortKey_of_int (Value.int?_eq_some_iff.mp hm),
        SectionSpec.rank_sortKey_of_int (Value.int?_eq_some_iff.mp hn)] at hst
      exact WithTop.coe_le_coe.mp hst
    have hnodup : (numbers result).Nodup := by
      rw [List.nodup_iff_count_le_one]
      intro n
      have honce := hunique n
      unfold IsShared at honce
      have hcount : (numbers result).count n = (numbers sections).count n :=
        (hperm.filterMap _).count_eq n
      omega
    refine hle.imp₂ ?_ hnodup
    intro m n hmn hne
    exact lt_of_le_of_ne hmn hne

/-! ## §4. Reading the sections. -/

/-- A table that gives sections: tables that can be used, with integers or nothing for their orders. -/
structure GivesSections (t : Table) (tables : List Table) : Prop where
  /-- They are the members of a list. -/
  given : t.get? "sections" = some (.list (tables.map Value.table))
  /-- There is at least one. -/
  ne_nil : tables ≠ []
  /-- None has an error. -/
  accepted : ∀ s ∈ tables, (SectionSpec.ofTable s).error? = none
  /-- Orders are integers. -/
  numbered : ∀ s ∈ tables, (SectionSpec.ofTable s).IsNumbered

theorem mapM_parseSection {tables : List Table}
    (h : ∀ s ∈ tables, (SectionSpec.ofTable s).error? = none) :
    (tables.map Value.table).mapM parseSection = .ok (tables.map SectionSpec.ofTable) := by
  induction tables with
  | nil => rfl
  | cons s tables ih =>
    obtain ⟨hs, hrest⟩ := List.forall_mem_cons.mp h
    have hfirst : parseSection (.table s) = .ok (SectionSpec.ofTable s) := by
      simp [parseSection, Value.entries, SectionSpec.check, hs, Except.mapError, bind, Except.bind]
    rw [List.map_cons, List.mapM_cons, hfirst, ih hrest]
    rfl

namespace GivesSections

variable {t : Table} {tables : List Table}

theorem parseSections_eq (h : GivesSections t tables) :
    parseSections t = (checkOrders (tables.map SectionSpec.ofTable)).bind fun _ =>
      (sortByValue SectionSpec.sortKey (tables.map SectionSpec.ofTable)).mapError .fault := by
  have hsome : (tables.map SectionSpec.ofTable).isEmpty = false := by simp [h.ne_nil]
  unfold parseSections
  simp only [h.given, Value.members, Except.mapError, bind, Except.bind, mapM_parseSection h.accepted,
    hsome]
  rfl

theorem isNumbered (h : GivesSections t tables) : ∀ s ∈ tables.map SectionSpec.ofTable, s.IsNumbered := by
  intro s hs
  obtain ⟨table, htable, rfl⟩ := List.mem_map.mp hs
  exact h.numbered table htable

/-- **The three outcomes**: the sections are arranged, or the shared orders are reported, or one of these has too
many digits to be reported. -/
theorem outcome (h : GivesSections t tables) :
    ∃ shared : List Int, shared.Pairwise (· < ·) ∧
      (∀ n, n ∈ shared ↔ IsShared (tables.map SectionSpec.ofTable) n) ∧
      (shared = [] → ∃ result, parseSections t = .ok result ∧
        IsArranged (tables.map SectionSpec.ofTable) result) ∧
      (shared ≠ [] → parseSections t = .error (if ∀ n ∈ shared, n.natAbs < Nat.pow 10 maxDigits
        then .duplicateOrders (shared.map Value.int) else .tooManyDigits)) := by
  obtain ⟨shared, hascends, hmem, hcheck⟩ := checkOrders_eq h.isNumbered
  refine ⟨shared, hascends, hmem, fun hnone => ?_, fun hsome => ?_⟩
  · have hunique : ∀ n, ¬ IsShared (tables.map SectionSpec.ofTable) n := by
      intro n hn
      have hin := (hmem n).mpr hn
      rw [hnone] at hin
      cases hin
    obtain ⟨result, hresult, harranged⟩ := isArranged_of_sortByValue h.isNumbered hunique
    refine ⟨result, ?_, harranged⟩
    rw [h.parseSections_eq, hcheck, if_pos hnone, hresult]
    rfl
  · rw [h.parseSections_eq, hcheck, if_neg hsome, raised_duplicateOrders]
    rfl

theorem isSound (h : GivesSections t tables) : ∀ s ∈ tables.map SectionSpec.ofTable, s.IsSound := by
  intro s hs
  obtain ⟨table, htable, rfl⟩ := List.mem_map.mp hs
  exact (SectionSpec.error?_eq_none_iff _).mp (h.accepted table htable)

/-- An order with too many digits is the error exactly if it is shared. -/
theorem tooManyDigits_iff (h : GivesSections t tables) :
    parseSections t = .error .tooManyDigits
      ↔ ∃ n, IsShared (tables.map SectionSpec.ofTable) n ∧ Nat.pow 10 maxDigits ≤ n.natAbs := by
  obtain ⟨shared, -, hmem, hnone, hsome⟩ := h.outcome
  by_cases hempty : shared = []
  · obtain ⟨result, hresult, -⟩ := hnone hempty
    simp [hresult, ← hmem, hempty]
  · rw [hsome hempty]
    simp only [← hmem]
    split_ifs with hfit
    · simp only [Except.error.injEq, reduceCtorEq, false_iff, not_exists, not_and]
      intro n hn
      exact Nat.not_le.mpr (hfit n hn)
    · simpa using hfit

end GivesSections

theorem literals_int (ns : List Int) : literals (ns.map Value.int) = ns.map Number.intText := by
  induction ns with
  | nil => simp [literals]
  | cons n ns ih => simp [literals, Value.literal, ih]

theorem message_duplicateOrders (ns : List Int) :
    (ConfigError.duplicateOrders (ns.map Value.int)).message
      = "Configuration contains duplicate order values: [" ++ ", ".intercalate (ns.map Number.intText)
        ++ "]. Each section must have a unique order value." := by
  -- the brackets are part of the list
  have hopen : "Configuration contains duplicate order values: ["
      = "Configuration contains duplicate order values: " ++ "[" := by decide
  have hclose : "]. Each section must have a unique order value."
      = "]" ++ ". Each section must have a unique order value." := by decide
  show "Configuration contains duplicate order values: " ++ (Value.list (ns.map Value.int)).literal
    ++ ". Each section must have a unique order value." = _
  rw [Value.literal, literals_int, hopen, hclose]
  simp only [String.append_assoc]

/-! ## §5. What a configuration keeps of its sections. -/

/-- **Sections are arranged, or the orders that they share are reported.** Orders are reported exactly if some are
shared and all of these can be written; the message then lists them, each once and ascending. One with too many
digits is an error of its own. Where nothing is shared, the result has all sections, arranged and sound. -/
theorem sections_arranged_or_reported {t : Table} {tables : List Table} (h : GivesSections t tables) :
    ((∃ orders, parseSections t = .error (.duplicateOrders orders))
      ↔ (∃ n, IsShared (tables.map SectionSpec.ofTable) n) ∧
        ∀ n, IsShared (tables.map SectionSpec.ofTable) n → n.natAbs < Nat.pow 10 maxDigits) ∧
    (∀ orders, parseSections t = .error (.duplicateOrders orders) →
      ∃ ns : List Int, ns.Pairwise (· < ·) ∧ (∀ n, n ∈ ns ↔ IsShared (tables.map SectionSpec.ofTable) n) ∧
        (ConfigError.duplicateOrders orders).message
          = "Configuration contains duplicate order values: [" ++ ", ".intercalate (ns.map Number.intText)
            ++ "]. Each section must have a unique order value.") ∧
    (parseSections t = .error .tooManyDigits
      ↔ ∃ n, IsShared (tables.map SectionSpec.ofTable) n ∧ Nat.pow 10 maxDigits ≤ n.natAbs) ∧
    ((∀ n, ¬ IsShared (tables.map SectionSpec.ofTable) n) →
      ∃ result, parseSections t = .ok result ∧ IsArranged (tables.map SectionSpec.ofTable) result ∧
        ∀ s ∈ result, s.IsSound) := by
  obtain ⟨shared, hascends, hmem, hnone, hsome⟩ := h.outcome
  -- only orders that can be written are reported, and then they are the shared ones
  have hreported : ∀ {orders}, parseSections t = .error (.duplicateOrders orders) →
      shared ≠ [] ∧ (∀ n ∈ shared, n.natAbs < Nat.pow 10 maxDigits) ∧ orders = shared.map Value.int := by
    intro orders herror
    by_cases hempty : shared = []
    · obtain ⟨result, hresult, -⟩ := hnone hempty
      rw [hresult] at herror
      cases herror
    · rw [hsome hempty] at herror
      split_ifs at herror with hfit
      · cases herror
        exact ⟨hempty, hfit, rfl⟩
      · cases herror
  refine ⟨⟨?_, ?_⟩, ?_, h.tooManyDigits_iff, ?_⟩
  · rintro ⟨orders, herror⟩
    obtain ⟨hne, hfit, -⟩ := hreported herror
    obtain ⟨n, hn⟩ := List.exists_mem_of_ne_nil shared hne
    exact ⟨⟨n, (hmem n).mp hn⟩, fun n hn => hfit n ((hmem n).mpr hn)⟩
  · rintro ⟨⟨n, hn⟩, hfit⟩
    have hne : shared ≠ [] := List.ne_nil_of_mem ((hmem n).mpr hn)
    refine ⟨shared.map Value.int, ?_⟩
    rw [hsome hne, if_pos fun n hn => hfit n ((hmem n).mp hn)]
  · intro orders herror
    obtain ⟨-, -, rfl⟩ := hreported herror
    exact ⟨shared, hascends, hmem, message_duplicateOrders shared⟩
  · intro hunique
    have hempty : shared = [] := by
      rw [List.eq_nil_iff_forall_not_mem]
      exact fun n hn => hunique n ((hmem n).mp hn)
    obtain ⟨result, hresult, harranged⟩ := hnone hempty
    exact ⟨result, hresult, harranged, fun s hs => h.isSound s (harranged.perm.mem_iff.mp hs)⟩

/-- A table with a list of sections. -/
def sectionsTable (tables : List Table) : Table :=
  [("sections", .list (tables.map Value.table))]

/-- Sections of all kinds, some of them with an order. -/
def mixedTables : List Table :=
  [ [("order", .int 7), ("name", .text "summary"), ("type", .text "free_text"),
      ("admonition", .text "note"), ("prefix", .text "!!!")],
    [("name", .text "notes"), ("type", .text "list_name")],
    [("order", .int (-2)), ("name", .text "raises"), ("type", .text "list_type")],
    [("name", .text "params"), ("type", .text "list_name_and_type"), ("admonition", .bool false)] ]

theorem sections_arranged_or_reported_mixed :
    (∃ result, parseSections (sectionsTable mixedTables) = .ok result ∧
      IsArranged (mixedTables.map SectionSpec.ofTable) result ∧ ∀ s ∈ result, s.IsSound) ∧
    ∃ orders, parseSections (sectionsTable (mixedTables ++ mixedTables)) = .error (.duplicateOrders orders) := by
  constructor
  · refine (sections_arranged_or_reported
      ⟨rfl, by simp [mixedTables], by decide, by decide⟩).2.2.2 fun n hn => ?_
    have hnodup : (numbers (mixedTables.map SectionSpec.ofTable)).Nodup := by decide
    have honce := List.nodup_iff_count_le_one.mp hnodup n
    unfold IsShared at hn
    omega
  · refine (sections_arranged_or_reported
      ⟨rfl, by simp [mixedTables], by decide, by decide⟩).1.mpr ⟨⟨7, by decide⟩, fun n hn => ?_⟩
    have hmem : n ∈ numbers ((mixedTables ++ mixedTables).map SectionSpec.ofTable) :=
      List.count_pos_iff.mp (Nat.lt_of_lt_of_le Nat.two_pos hn)
    have hsmall : ∀ n ∈ numbers ((mixedTables ++ mixedTables).map SectionSpec.ofTable),
        n.natAbs < Nat.pow 10 1 := by decide
    have hgrows : ∀ m, 1 ≤ m → Nat.pow 10 1 ≤ Nat.pow 10 m :=
      fun m hm => Nat.pow_le_pow_right (by decide) hm
    exact Nat.lt_of_lt_of_le (hsmall n hmem) (hgrows maxDigits (by decide))

/-- Two sections with the same order. -/
def twins (n : Int) : List Table :=
  List.replicate 2 [("name", .text "summary"), ("type", .text "free_text"), ("order", .int n)]

/-- **A shared order with too many digits is not reported as shared.** -/
theorem long_twins_not_reported :
    IsShared ((twins (Nat.pow 10 maxDigits)).map SectionSpec.ofTable) (Nat.pow 10 maxDigits) ∧
      parseSections (sectionsTable (twins (Nat.pow 10 maxDigits))) = .error .tooManyDigits := by
  have hgiven : ∀ n, GivesSections (sectionsTable (twins n)) (twins n) := by
    intro n
    refine ⟨rfl, by simp [twins], fun s hs => ?_, fun s hs => ?_⟩
    · rw [List.eq_of_mem_replicate hs]
      rfl
    · rw [List.eq_of_mem_replicate hs]
      exact fun _ => rfl
  have hshared : ∀ n, IsShared ((twins n).map SectionSpec.ofTable) n := by
    intro n
    show 2 ≤ List.count n [n, n]
    simp
  refine ⟨hshared _, (hgiven _).tooManyDigits_iff.mpr ⟨_, hshared _, ?_⟩⟩
  exact Nat.le_of_eq (Int.natAbs_natCast _).symm

end DocLint
