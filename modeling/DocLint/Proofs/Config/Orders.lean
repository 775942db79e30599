import DocLint.Proofs.Config.Sections
import DocLint.Proofs.Toml.Document
import DocLint.Proofs.Value.Comparable

/-!
DocLint.Proofs.Config.Orders: orders of any type.

The orders of sections are looked through for values that occur again, these are sorted to be listed, and if there
are none, the sections are sorted. All three fail at values of some types. Main statement: the check of orders fails
if an order cannot be a member of a set, or if two orders that occur a second time cannot be compared.
-/

namespace DocLint

/-! ## §1. Orders that occur again. -/

/-- A value that occurs for the second time: of those before it, one is equal to it. -/
def IsSecond (vs : List Value) (v : Value) : Prop :=
  ∃ before after, vs = before ++ v :: after ∧ before.countP (·.same v) = 1

theorem not_isSecond_nil (v : Value) : ¬ IsSecond [] v := by
  intro ⟨before, after, hsplit, _⟩
  simp at hsplit

theorem isSecond_concat {vs : List Value} {u v : Value} :
    IsSecond (vs ++ [u]) v ↔ IsSecond vs v ∨ v = u ∧ vs.countP (·.same u) = 1 := by
  constructor
  · intro ⟨before, after, hsplit, hcount⟩
    rcases List.eq_nil_or_concat after with rfl | ⟨rest, last, rfl⟩
    · obtain ⟨rfl, hlast⟩ := List.append_inj' hsplit rfl
      cases hlast
      exact .inr ⟨rfl, hcount⟩
    · rw [List.concat_eq_append, ← List.cons_append, ← List.append_assoc] at hsplit
      obtain ⟨rfl, -⟩ := List.append_inj' hsplit rfl
      exact .inl ⟨before, rest, rfl, hcount⟩
  · intro h
    rcases h with ⟨before, after, rfl, hcount⟩ | ⟨rfl, hcount⟩
    · exact ⟨before, after ++ [u], by simp, hcount⟩
    · exact ⟨vs, [], rfl, hcount⟩

/-- What the scan for orders that occur again holds after the values `vs`: those that were seen, and those that
were seen for the second time. -/
structure IsScan (vs seen again : List Value) : Prop where
  /-- A value was seen if one is equal to it. -/
  any_seen : ∀ v, v.isHashable = true → seen.any (·.same v) = decide (1 ≤ vs.countP (·.same v))
  /-- A value was seen again if two are equal to it. -/
  any_again : ∀ v, v.isHashable = true → again.any (·.same v) = decide (2 ≤ vs.countP (·.same v))
  /-- Values are held when they occur for the second time. -/
  mem_again : ∀ v, v ∈ again ↔ IsSecond vs v

/-- One step of the scan. -/
theorem IsScan.concat {vs seen again : List Value} (h : IsScan vs seen again)
    (hvs : ∀ u ∈ vs, u.isHashable = true) {v : Value} (hv : v.isHashable = true) :
    (seen.any (·.same v) = false → IsScan (vs ++ [v]) (seen ++ [v]) again) ∧
    (seen.any (·.same v) = true →
      IsScan (vs ++ [v]) seen (if again.any (·.same v) then again else again ++ [v])) := by
  have hcount : ∀ u, (vs ++ [v]).countP (·.same u) = vs.countP (·.same u) + if v.same u then 1 else 0 := by
    intro u
    rw [List.countP_append, List.countP_singleton]
  -- a value that is equal to the new one is equal to as many values as the new one
  have hequal : ∀ u, u.isHashable = true → v.same u = true →
      vs.countP (·.same u) = vs.countP (·.same v) := by
    intro u hu hsame
    refine List.countP_congr fun w hw => ?_
    rw [Value.same_congr (hvs w hw) hv hu hsame]
  have hseen := h.any_seen v hv
  have hagain := h.any_again v hv
  constructor
  · intro hnew
    have hzero : vs.countP (·.same v) = 0 := by
      rw [hnew] at hseen
      simpa using hseen
    refine ⟨fun u hu => ?_, fun u hu => ?_, fun u => ?_⟩
    · rw [List.any_append, h.any_seen u hu, hcount]
      by_cases hsame : v.same u = true
      · simp [hsame]
      · simp [hsame]
    · rw [h.any_again u hu, hcount]
      by_cases hsame : v.same u = true
      · simp [hsame, hequal u hu hsame, hzero]
      · simp [hsame]
    · rw [h.mem_again, isSecond_concat]
      simp [hzero]
  · intro hold
    have hone : 1 ≤ vs.countP (·.same v) := by
      rw [hold] at hseen
      simpa using hseen
    have hstill : ∀ u, u.isHashable = true →
        seen.any (·.same u) = decide (1 ≤ (vs ++ [v]).countP (·.same u)) := by
      intro u hu
      rw [h.any_seen u hu, hcount]
      by_cases hsame : v.same u = true
      · simp [hsame, hequal u hu hsame, hone]
      · simp [hsame]
    by_cases htwice : again.any (·.same v) = true
    · have htwo : 2 ≤ vs.countP (·.same v) := by
        rw [htwice] at hagain
        simpa using hagain
      rw [if_pos htwice]
      refine ⟨hstill, fun u hu => ?_, fun u => ?_⟩
      · rw [h.any_again u hu, hcount]
        by_cases hsame : v.same u = true
        · simp [hsame, hequal u hu hsame, htwo, Nat.le_succ_of_le htwo]
        · simp [hsame]
      · rw [h.mem_again, isSecond_concat]
        have hne : vs.countP (·.same v) ≠ 1 := by omega
        simp [hne]
    · have hexactly : vs.countP (·.same v) = 1 := by
        rw [Bool.not_eq_true] at htwice
        rw [htwice] at hagain
        have hless : ¬ 2 ≤ vs.countP (·.same v) := by simpa using hagain
        omega
      rw [if_neg htwice]
      refine ⟨hstill, fun u hu => ?_, fun u => ?_⟩
      · rw [List.any_append, h.any_again u hu, hcount]
        by_cases hsame : v.same u = true
        · simp [hsame, hequal u hu hsame, hexactly]
        · simp [hsame]
      · rw [List.mem_append, h.mem_again, isSecond_concat]
        simp [hexactly]

/-- **The scan finds the values that occur for the second time**, or a value that no set can hold. -/
theorem repeated_cases (rest : List Value) :
    ∀ {vs seen again : List Value}, IsScan vs seen again → (∀ u ∈ vs, u.isHashable = true) →
      (∃ found, repeated seen again rest = .ok found ∧ (∀ v ∈ rest, v.isHashable = true) ∧
        ∀ v, v ∈ found ↔ IsSecond (vs ++ rest) v) ∨
        ∃ f, repeated seen again rest = .error f ∧ ∃ v ∈ rest, v.isHashable = false := by
  induction rest with
  | nil =>
    intro vs seen again h _
    exact .inl ⟨again, rfl, by simp, by simpa using h.mem_again⟩
  | cons v rest ih =>
    intro vs seen again h hvs
    rw [repeated]
    cases hv : v.isHashable with
    | false => exact .inr ⟨.unhashable v.typeName, rfl, v, List.mem_cons_self, hv⟩
    | true =>
      have hvs' : ∀ u ∈ vs ++ [v], u.isHashable = true := by
        intro u hu
        rcases List.mem_append.mp hu with hu | hu
        · exact hvs u hu
        · rw [List.mem_singleton.mp hu]
          exact hv
      obtain ⟨hnew, hold⟩ := h.concat hvs hv
      -- either way the scan goes on with the new value as one of those before
      have hnext : ∀ {seen' again'}, IsScan (vs ++ [v]) seen' again' →
          (∃ found, repeated seen' again' rest = .ok found ∧ (∀ u ∈ v :: rest, u.isHashable = true) ∧
            ∀ u, u ∈ found ↔ IsSecond (vs ++ v :: rest) u) ∨
            ∃ f, repeated seen' again' rest = .error f ∧ ∃ u ∈ v :: rest, u.isHashable = false := by
        intro seen' again' hscan
        rcases ih hscan hvs' with ⟨found, hfound, hrest, hmem⟩ | ⟨f, hf, u, hu, hbad⟩
        · refine .inl ⟨found, hfound, List.forall_mem_cons.mpr ⟨hv, hrest⟩, ?_⟩
          simpa using hmem
        · exact .inr ⟨f, hf, u, List.mem_cons_of_mem _ hu, hbad⟩
      cases hseen : seen.any (·.same v) with
      | false => simpa using hnext (hnew hseen)
      | true => simpa using hnext (hold hseen)

/-- The scan from the start. -/
theorem repeated_nil_cases (vs : List Value) :
    (∃ found, repeated [] [] vs = .ok found ∧ (∀ v ∈ vs, v.isHashable = true) ∧
      ∀ v, v ∈ found ↔ IsSecond vs v) ∨
      ∃ f, repeated [] [] vs = .error f ∧ ∃ v ∈ vs, v.isHashable = false := by
  have hstart : IsScan [] [] [] :=
    ⟨fun _ _ => by simp, fun _ _ => by simp, fun v => by simp [not_isSecond_nil]⟩
  exact repeated_cases vs hstart (by simp)

/-! ## §2. The orders of tables. -/

/-- The orders that tables give. -/
def ordersOf (tables : List Table) : List Value :=
  tables.filterMap (·.get? "order")

/-- The class of what a table is sorted by; without an order it is sorted as a number. -/
def sortClass? (t : Table) : Option OrderClass :=
  match t.get? "order" with
  | some v => v.orderClass?
  | none => some .number

theorem order_ofTable (t : Table) : (SectionSpec.ofTable t).order = (t.get? "order").getD .none := rfl

/-- In full tables, what has no order has no entry for it. -/
theorem orders_eq_ordersOf {tables : List Table} (h : ∀ t ∈ tables, Table.IsFull t) :
    ((tables.map SectionSpec.ofTable).filter (·.isOrdered)).map (·.order) = ordersOf tables := by
  induction tables with
  | nil => rfl
  | cons t tables ih =>
    obtain ⟨ht, hrest⟩ := List.forall_mem_cons.mp h
    have hcons := ih hrest
    unfold ordersOf at hcons ⊢
    rw [List.map_cons, List.filter_cons, List.filterMap_cons, SectionSpec.isOrdered, order_ofTable]
    cases horder : t.get? "order" with
    | none => simpa using hcons
    | some v =>
      have hv := (ht.get? horder).ne_none
      cases v <;> simp_all [order_ofTable]

theorem orderClass?_sortKey {t : Table} (h : Table.IsFull t) :
    (SectionSpec.ofTable t).sortKey.orderClass? = sortClass? t := by
  unfold SectionSpec.sortKey sortClass?
  rw [order_ofTable]
  cases horder : t.get? "order" with
  | none => rfl
  | some v =>
    have hv := (h.get? horder).ne_none
    cases v <;> first | rfl | exact absurd rfl hv

theorem isOrderable_sortKey {tables : List Table} (h : ∀ t ∈ tables, Table.IsFull t)
    (hashable : ∀ v ∈ ordersOf tables, v.isHashable = true) {t : Table} (ht : t ∈ tables) :
    (SectionSpec.ofTable t).sortKey.IsOrderable := by
  unfold Value.IsOrderable
  rw [orderClass?_sortKey (h t ht), sortClass?]
  cases horder : t.get? "order" with
  | none => rfl
  | some v =>
    have hmem : v ∈ ordersOf tables := List.mem_filterMap.mpr ⟨t, ht, horder⟩
    exact Value.isOrderable_iff.mpr ⟨hashable v hmem, ((h t ht).get? horder).ne_none⟩

/-- Sorting by values fails exactly if two of them are of different classes. -/
theorem sortByValue_cases {α : Type} {key : α → Value} {xs : List α} (h : ∀ x ∈ xs, (key x).IsOrderable) :
    (∃ ys, sortByValue key xs = .ok ys ∧ ∀ x ∈ xs, ∀ y ∈ xs, (key x).orderClass? = (key y).orderClass?) ∨
      ∃ f, sortByValue key xs = .error f ∧ ∃ x ∈ xs, ∃ y ∈ xs, (key x).orderClass? ≠ (key y).orderClass? := by
  unfold sortByValue
  split_ifs with hnumbers
  · have hclass : ∀ x ∈ xs, (key x).orderClass? = some .number := by
      intro x hx
      have hnumber := List.all_eq_true.mp hnumbers x hx
      cases hkey : key x <;> simp_all [Value.number?, Value.orderClass?]
    exact .inl ⟨_, rfl, fun x hx y hy => (hclass x hx).trans (hclass y hy).symm⟩
  · have hlt : ComparesWithin (fun a b => (key a).lt (key b)) (fun x => (key x).orderClass?)
        (fun x => (key x).IsOrderable) :=
      fun x y hx hy => Value.comparesWithin_orderClass (key x) (key y) hx hy
    rcases sortBy?_cases hlt h with ⟨ys, hys, -, halike⟩ | hfails
    · exact .inl ⟨ys, hys, halike⟩
    · exact .inr hfails

theorem mem_of_isSecond {vs : List Value} {v : Value} (h : IsSecond vs v) : v ∈ vs := by
  obtain ⟨before, after, rfl, -⟩ := h
  simp

/-- **The outcomes of the check of orders**: an order that no set can hold, shared orders that cannot be compared,
shared orders that are listed, or none that is shared. -/
theorem checkOrders_cases {tables : List Table} (h : ∀ t ∈ tables, Table.IsFull t) :
    (∃ f, checkOrders (tables.map SectionSpec.ofTable) = .error (.fault f) ∧
      ∃ v ∈ ordersOf tables, v.isHashable = false) ∨
    (∀ v ∈ ordersOf tables, v.isHashable = true) ∧
      ((∃ f, checkOrders (tables.map SectionSpec.ofTable) = .error (.fault f) ∧
          ∃ u v, IsSecond (ordersOf tables) u ∧ IsSecond (ordersOf tables) v ∧
            u.orderClass? ≠ v.orderClass?) ∨
        (∃ shared, checkOrders (tables.map SectionSpec.ofTable)
            = .error (ConfigError.raised (.duplicateOrders shared)) ∧
          (∃ v, IsSecond (ordersOf tables) v) ∧ (∀ v, v ∈ shared ↔ IsSecond (ordersOf tables) v) ∧
          ∀ u v, IsSecond (ordersOf tables) u → IsSecond (ordersOf tables) v →
            u.orderClass? = v.orderClass?) ∨
        checkOrders (tables.map SectionSpec.ofTable) = .ok () ∧ ∀ v, ¬ IsSecond (ordersOf tables) v) := by
  unfold checkOrders
  rw [orders_eq_ordersOf h]
  rcases repeated_nil_cases (ordersOf tables) with ⟨found, hfound, hashable, hmem⟩ | ⟨f, hf, hbad⟩
  · refine .inr ⟨hashable, ?_⟩
    simp only [hfound, Except.mapError, bind, Except.bind]
    by_cases hempty : found = []
    · refine .inr (.inr ⟨by simp [hempty, pure, Except.pure], fun v hv => ?_⟩)
      have hin := (hmem v).mpr hv
      rw [hempty] at hin
      cases hin
    · have hsome : found.isEmpty = false := by simpa using hempty
      obtain ⟨first, hfirst⟩ := List.exists_mem_of_ne_nil found hempty
      have horderable : ∀ v ∈ found, v.IsOrderable := by
        intro v hv
        have horder := mem_of_isSecond ((hmem v).mp hv)
        obtain ⟨t, ht, hget⟩ := List.mem_filterMap.mp horder
        exact Value.isOrderable_iff.mpr ⟨hashable v horder, ((h t ht).get? hget).ne_none⟩
      rcases sortBy?_cases Value.comparesWithin_orderClass horderable with
        ⟨shared, hshared, hperm, halike⟩ | ⟨f, hf, u, hu, v, hv, hdiffer⟩
      · refine .inr (.inl ⟨shared, ?_, ⟨first, (hmem first).mp hfirst⟩, ?_, ?_⟩)
        · simp [hsome, hshared, throw, throwThe, MonadExceptOf.throw]
        · intro v
          rw [hperm.mem_iff, hmem]
        · intro u v hu hv
          exact halike u ((hmem u).mpr hu) v ((hmem v).mpr hv)
      · exact .inl ⟨f, by simp [hsome, hf], u, v, (hmem u).mp hu, (hmem v).mp hv, hdiffer⟩
  · exact .inl ⟨f, by simp [hf, Except.mapError, bind, Except.bind], hbad⟩

end DocLint
