import DocLint.Proofs.Value.Order
import Mathlib.Algebra.Field.Rat
import Mathlib.Algebra.Order.Ring.Rat

/-!
DocLint.Proofs.Value.Comparable: which values can be sorted, and which are equal.

Values fall into classes such that two of them can be compared exactly if they are of the same class: numbers of
all types, texts, days, times, and points in time with and without an offset. A sort compares every member with
some other one, so that it fails exactly if there are members of two classes. The values that a set can hold are
equal exactly if they stand for the same point, which makes equality an equivalence, apart from not-a-number.
-/

namespace DocLint

/-! ## §1. Sorting members of different classes. -/

section Sorting

variable {α ε κ : Type} {lt : α → α → Except ε Bool} {cls : α → κ} {P : α → Prop}

/-- A comparison that succeeds exactly for two members of the same class. -/
def ComparesWithin (lt : α → α → Except ε Bool) (cls : α → κ) (P : α → Prop) : Prop :=
  ∀ x y, P x → P y → ((∃ b, lt x y = .ok b) ↔ cls x = cls y)

theorem ComparesWithin.eq_error (hlt : ComparesWithin lt cls P) {x y : α} (hx : P x) (hy : P y)
    (hne : cls x ≠ cls y) : ∃ e, lt x y = .error e := by
  cases hcompare : lt x y with
  | error e => exact ⟨e, rfl⟩
  | ok b => exact absurd ((hlt x y hx hy).mp ⟨b, hcompare⟩) hne

/-- Members of one class are compared without a fault, whichever half is taken. -/
theorem insertionPoint_eq_ok (hlt : ComparesWithin lt cls P) {x : α} {xs : List α} (hx : P x)
    (hxs : ∀ y ∈ xs, P y ∧ cls y = cls x) :
    ∀ fuel low high, ∃ i, insertionPoint lt x xs fuel low high = .ok i := by
  intro fuel
  induction fuel with
  | zero =>
    intro low high
    exact ⟨low, rfl⟩
  | succ fuel ih =>
    intro low high
    by_cases hopen : low < high
    · cases hmid : xs[low + (high - low) / 2]? with
      | none => exact ⟨low, by simp only [insertionPoint, hopen, if_true, hmid]; rfl⟩
      | some y =>
        obtain ⟨hy, hcls⟩ := hxs y (List.mem_of_getElem? hmid)
        obtain ⟨b, hb⟩ := (hlt x y hx hy).mpr hcls.symm
        simp only [insertionPoint, hopen, if_true, hmid, hb, bind, Except.bind]
        cases b with
        | true => exact ih _ _
        | false => exact ih _ _
    · exact ⟨low, by rw [insertionPoint, if_neg hopen]; rfl⟩

/-- The first comparison with a member of another class is a fault. -/
theorem insertionPoint_eq_error (hlt : ComparesWithin lt cls P) {x : α} {xs : List α} (hx : P x)
    (hne : xs ≠ []) (hxs : ∀ y ∈ xs, P y ∧ cls y ≠ cls x) :
    ∃ e, insertionPoint lt x xs (xs.length + 1) 0 xs.length = .error e := by
  have hlen : 0 < xs.length := List.length_pos_iff.mpr hne
  have hmid : 0 + (xs.length - 0) / 2 < xs.length := by omega
  obtain ⟨hy, hcls⟩ := hxs _ (List.getElem_mem hmid)
  obtain ⟨e, he⟩ := hlt.eq_error hx hy (Ne.symm hcls)
  refine ⟨e, ?_⟩
  rw [insertionPoint, if_pos hlen]
  simp only [List.getElem?_eq_getElem hmid, he, bind, Except.bind]

/-- Inserting succeeds exactly if all new members are of the class of the old ones. -/
theorem insertAll_cases (hlt : ComparesWithin lt cls P) {c : κ} (rest : List α) :
    ∀ {sorted : List α}, sorted ≠ [] → (∀ y ∈ sorted, P y ∧ cls y = c) → (∀ y ∈ rest, P y) →
      (∃ ys, insertAll lt sorted rest = .ok ys ∧ ys.Perm (sorted ++ rest) ∧ ∀ y ∈ rest, cls y = c) ∨
        ∃ e, insertAll lt sorted rest = .error e ∧ ∃ y ∈ rest, cls y ≠ c := by
  induction rest with
  | nil =>
    intro sorted _ _ _
    exact .inl ⟨sorted, rfl, by simp, by simp⟩
  | cons x rest ih =>
    intro sorted hne hsorted hrest
    obtain ⟨hx, hrest⟩ := List.forall_mem_cons.mp hrest
    rw [insertAll]
    by_cases hcls : cls x = c
    · obtain ⟨i, hi⟩ := insertionPoint_eq_ok hlt hx (fun y hy => hcls ▸ hsorted y hy) (sorted.length + 1) 0
        sorted.length
      have hmembers := perm_take_cons_drop x sorted i
      have hsorted' : ∀ y ∈ sorted.take i ++ x :: sorted.drop i, P y ∧ cls y = c := by
        intro y hy
        rcases List.mem_cons.mp (hmembers.mem_iff.mp hy) with rfl | hy
        · exact ⟨hx, hcls⟩
        · exact hsorted y hy
      simp only [hi, bind, Except.bind]
      rcases ih (by simp) hsorted' hrest with ⟨ys, hys, hperm, hall⟩ | ⟨e, he, y, hy, hother⟩
      · refine .inl ⟨ys, hys, ?_, List.forall_mem_cons.mpr ⟨hcls, hall⟩⟩
        calc List.Perm ys ((sorted.take i ++ x :: sorted.drop i) ++ rest) := hperm
          List.Perm _ (x :: sorted ++ rest) := hmembers.append_right rest
          List.Perm _ (sorted ++ x :: rest) := List.perm_middle.symm
      · exact .inr ⟨e, he, y, List.mem_cons_of_mem _ hy, hother⟩
    · obtain ⟨e, he⟩ := insertionPoint_eq_error hlt hx hne
        (fun y hy => ⟨(hsorted y hy).1, fun hsame => hcls (hsame.symm.trans (hsorted y hy).2)⟩)
      refine .inr ⟨e, ?_, x, List.mem_cons_self, hcls⟩
      simp only [he, bind, Except.bind]

/-- The leading run holds members of one class, or ends at a member of another. -/
theorem leadingRun_cases (hlt : ComparesWithin lt cls P) {c : κ} (down : Bool) (xs : List α) :
    ∀ {run : List α} {last : α}, (∀ y ∈ last :: run, P y ∧ cls y = c) → (∀ y ∈ xs, P y) →
      (∃ run' rest, leadingRun lt down run last xs = .ok (run', rest) ∧ run' ≠ [] ∧
        (run' ++ rest).Perm (last :: run ++ xs) ∧ ∀ y ∈ run', P y ∧ cls y = c) ∨
        ∃ e, leadingRun lt down run last xs = .error e ∧ ∃ y ∈ xs, cls y ≠ c := by
  induction xs with
  | nil =>
    intro run last hrun _
    exact .inl ⟨last :: run, [], rfl, by simp, List.Perm.refl _, hrun⟩
  | cons x xs ih =>
    intro run last hrun hxs
    obtain ⟨hx, hxs⟩ := List.forall_mem_cons.mp hxs
    obtain ⟨hlast, hclast⟩ := hrun last List.mem_cons_self
    rw [leadingRun]
    by_cases hcls : cls x = c
    · obtain ⟨b, hb⟩ := (hlt x last hx hlast).mpr (hcls.trans hclast.symm)
      simp only [hb, bind, Except.bind]
      by_cases hgoes : b = down
      · rw [if_pos (by simpa using hgoes)]
        rcases ih (List.forall_mem_cons.mpr ⟨⟨hx, hcls⟩, hrun⟩) hxs with
          ⟨run', rest, hresult, hne, hperm, hrun'⟩ | ⟨e, he, y, hy, hother⟩
        · have hmove : (last :: run ++ x :: xs).Perm (x :: (last :: run ++ xs)) := List.perm_middle
          exact .inl ⟨run', rest, hresult, hne, hperm.trans hmove.symm, hrun'⟩
        · exact .inr ⟨e, he, y, List.mem_cons_of_mem _ hy, hother⟩
      · rw [if_neg (by simpa using hgoes)]
        exact .inl ⟨last :: run, x :: xs, rfl, by simp, List.Perm.refl _, hrun⟩
    · obtain ⟨e, he⟩ := hlt.eq_error hx hlast (fun hsame => hcls (hsame.trans hclast))
      refine .inr ⟨e, ?_, x, List.mem_cons_self, hcls⟩
      simp only [he, bind, Except.bind]

/-- **A sort fails exactly if it has members of two classes.** -/
theorem sortBy?_cases (hlt : ComparesWithin lt cls P) {xs : List α} (hxs : ∀ x ∈ xs, P x) :
    (∃ ys, sortBy? lt xs = .ok ys ∧ ys.Perm xs ∧ ∀ x ∈ xs, ∀ y ∈ xs, cls x = cls y) ∨
      ∃ e, sortBy? lt xs = .error e ∧ ∃ x ∈ xs, ∃ y ∈ xs, cls x ≠ cls y := by
  match xs, hxs with
  | [], _ => exact .inl ⟨[], rfl, List.Perm.refl _, by simp⟩
  | [a], _ => exact .inl ⟨[a], rfl, List.Perm.refl _, by simp⟩
  | a :: b :: rest, hxs =>
    obtain ⟨ha, hxs⟩ := List.forall_mem_cons.mp hxs
    obtain ⟨hb, hrest⟩ := List.forall_mem_cons.mp hxs
    rw [sortBy?]
    by_cases hcls : cls b = cls a
    · obtain ⟨down, hdown⟩ := (hlt b a hb ha).mpr hcls
      have hstart : ∀ y ∈ [b, a], P y ∧ cls y = cls a := by
        simp [ha, hb, hcls]
      simp only [hdown, bind, Except.bind]
      rcases leadingRun_cases hlt down rest hstart hrest with
        ⟨run, others, hresult, hne, hperm, hrun⟩ | ⟨e, he, y, hy, hother⟩
      · have hturned : (if down then run else run.reverse).Perm run := by
          split
          · exact List.Perm.refl _
          · exact List.reverse_perm _
        have hmembers : (run ++ others).Perm (a :: b :: rest) := hperm.trans (List.Perm.swap a b rest)
        have hkind : ∀ y ∈ others, P y := by
          intro y hy
          have hmem := hmembers.mem_iff.mp (List.mem_append_right _ hy)
          rcases List.mem_cons.mp hmem with rfl | hmem
          · exact ha
          · exact hxs y hmem
        simp only [hresult]
        have hne' : (if down then run else run.reverse) ≠ [] := by
          intro hempty
          rw [hempty] at hturned
          exact hne hturned.symm.eq_nil
        rcases insertAll_cases hlt others hne' (fun y hy => hrun y (hturned.mem_iff.mp hy)) hkind with
          ⟨ys, hys, hinserted, hall⟩ | ⟨e, he, y, hy, hother⟩
        · have hone : ∀ x ∈ a :: b :: rest, cls x = cls a := by
            intro x hx
            rcases List.mem_append.mp (hmembers.mem_iff.mpr hx) with hx | hx
            · exact (hrun x hx).2
            · exact hall x hx
          refine .inl ⟨ys, hys, ?_, fun x hx y hy => (hone x hx).trans (hone y hy).symm⟩
          exact hinserted.trans ((hturned.append_right others).trans hmembers)
        · have hmem := hmembers.mem_iff.mp (List.mem_append_right _ hy)
          exact .inr ⟨e, he, y, hmem, a, List.mem_cons_self, hother⟩
      · have hmem : y ∈ a :: b :: rest := by simp [hy]
        refine .inr ⟨e, ?_, y, hmem, a, List.mem_cons_self, hother⟩
        simp only [he]
    · obtain ⟨e, he⟩ := hlt.eq_error hb ha hcls
      refine .inr ⟨e, ?_, b, by simp, a, by simp, hcls⟩
      simp only [he, bind, Except.bind]

end Sorting

/-! ## §2. Classes of values. -/

/-- A class of values that can be compared with one another. -/
inductive OrderClass where
  /-- Truth values, integers and floating-point numbers. -/
  | number
  /-- Texts. -/
  | text
  /-- Days. -/
  | date
  /-- Times of day. -/
  | time
  /-- Days with a time. -/
  | atTime
  /-- Days with a time and an offset. -/
  | atOffset
  deriving DecidableEq

/-- The class of a point in time. -/
def Moment.orderClass : Moment → OrderClass
  | .date _ => .date
  | .time _ => .time
  | .atTime .. => .atTime
  | .atOffset .. => .atOffset

namespace Value

/-- The class of a value, if it has one. -/
def orderClass? : Value → Option OrderClass
  | .bool _ => some .number
  | .int _ => some .number
  | .float _ => some .number
  | .text _ => some .text
  | .moment m => some m.orderClass
  | _ => .none

/-- A value of some class. -/
def IsOrderable (v : Value) : Prop :=
  v.orderClass?.isSome = true

instance (v : Value) : Decidable v.IsOrderable :=
  inferInstanceAs (Decidable (v.orderClass?.isSome = true))

/-- What is there and can be a member of a set has a class. -/
theorem isOrderable_iff {v : Value} : v.IsOrderable ↔ v.isHashable = true ∧ v ≠ .none := by
  cases v <;> simp [IsOrderable, orderClass?, isHashable]

theorem moment_lt_isOk_iff (m n : Moment) : (∃ b, m.lt n = .ok b) ↔ m.orderClass = n.orderClass := by
  cases m <;> cases n <;> simp [Moment.lt, Moment.orderClass]

theorem orderClass_moment (m : Moment) : m.orderClass ≠ .number ∧ m.orderClass ≠ .text := by
  cases m <;> simp [Moment.orderClass]

/-- Numbers can always be compared. -/
theorem lt_of_isNumber {v w : Value} (hv : v.isNumber = true) (hw : w.isNumber = true) :
    ∃ b, lt v w = .ok b := by
  cases hx : v.number? with
  | none => cases v <;> cases w <;> simp_all [lt, isNumber]
  | some x =>
    cases hy : w.number? with
    | none => cases v <;> cases w <;> simp_all [lt, isNumber]
    | some y => exact ⟨x.lt y, lt_of_number? hx hy⟩

/-- **Two values can be compared exactly if they are of the same class.** -/
theorem comparesWithin_orderClass : ComparesWithin lt orderClass? IsOrderable := by
  intro v w hv hw
  by_cases hnumbers : v.isNumber = true ∧ w.isNumber = true
  · refine iff_of_true (lt_of_isNumber hnumbers.1 hnumbers.2) ?_
    cases v <;> cases w <;> simp_all [isNumber, orderClass?]
  · cases v with
    | none => cases hv
    | list vs => cases hv
    | table es => cases hv
    | moment m =>
      have hm := orderClass_moment m
      cases w with
      | moment n => simpa [lt, orderClass?] using moment_lt_isOk_iff m n
      | _ => simp_all [lt, orderClass?, isNumber, IsOrderable]
    | _ =>
      cases w with
      | moment m =>
        have hm := orderClass_moment m
        simp_all [lt, orderClass?, isNumber, IsOrderable, Ne.symm]
      | _ => simp_all [lt, orderClass?, isNumber, IsOrderable]

end Value

/-! ## §3. Equal values. -/

/-- A number, or an infinity. -/
inductive Extended where
  /-- Below all numbers. -/
  | below
  /-- A number. -/
  | finite (q : ℚ)
  /-- Above all numbers. -/
  | above

/-- What a value that a set can hold stands for. -/
inductive Point where
  /-- Nothing. -/
  | none
  /-- A number. -/
  | number (x : Extended)
  /-- A text. -/
  | text (s : String)
  /-- A point in time without an offset, or a part of one. -/
  | moment (m : Moment)
  /-- A point in time with an offset, as an instant. -/
  | instant (n : Int)

open Number.Double (Key)

/-- The number that a key stands for. -/
def Extended.ofKey : Key → Extended
  | .bottom => .below
  | .ratio num den => .finite ((num : ℚ) / (den : ℚ))
  | .top => .above

/-- A key whose denominator is no zero. -/
inductive IsProper : Key → Prop where
  | bottom : IsProper .bottom
  | ratio (num : Int) {den : Nat} (h : den ≠ 0) : IsProper (.ratio num den)
  | top : IsProper .top

theorem ofKey_eq_iff {x y : Key} (hx : IsProper x) (hy : IsProper y) :
    x.same y = true ↔ Extended.ofKey x = .ofKey y := by
  cases hx with
  | bottom => cases hy <;> simp [Key.same, Extended.ofKey]
  | top => cases hy <;> simp [Key.same, Extended.ofKey]
  | @ratio num den hden =>
    cases hy with
    | bottom => simp [Key.same, Extended.ofKey]
    | top => simp [Key.same, Extended.ofKey]
    | @ratio num' den' hden' =>
      have hd : (den : ℚ) ≠ 0 := Nat.cast_ne_zero.mpr hden
      have hd' : (den' : ℚ) ≠ 0 := Nat.cast_ne_zero.mpr hden'
      simp only [Key.same, Extended.ofKey, beq_iff_eq, Extended.finite.injEq, div_eq_div_iff hd hd']
      norm_cast

/-- What a point in time stands for. -/
def Moment.point : Moment → Point
  | .atOffset d t m => .instant (instant d t m)
  | m => .moment m

theorem Moment.same_iff (m n : Moment) : m.same n = true ↔ m.point = n.point := by
  cases m <;> cases n <;> simp [Moment.same, Moment.point]

theorem Moment.point_ne_number (m : Moment) (x : Extended) : m.point ≠ .number x := by
  cases m <;> simp [Moment.point]

namespace Value

theorem isProper_of_number? {v : Value} {x : Key} (h : v.number? = some x) : IsProper x := by
  cases v with
  | bool b => cases h; exact .ratio _ (by decide)
  | int n => cases h; exact .ratio _ (by decide)
  | float f =>
    cases f with
    | nan => cases h
    | infinite negative => cases negative <;> cases h <;> constructor
    | finite negative m e =>
      have hden : (Number.scaleTwo m 1 e).2 ≠ 0 := by
        unfold Number.scaleTwo
        split
        · exact Nat.one_ne_zero
        · exact Nat.ne_of_gt (Nat.mul_pos Nat.one_pos (Nat.pow_pos Nat.two_pos))
      cases h
      exact .ratio _ hden
  | _ => cases h

/-- The point that a value stands for; not-a-number stands for none. -/
def point? : Value → Option Point
  | .none => some .none
  | .text s => some (.text s)
  | .moment m => some m.point
  | v => v.number?.map fun x => .number (.ofKey x)

theorem point?_eq_number_iff {v : Value} {e : Extended} :
    v.point? = some (.number e) ↔ ∃ x, v.number? = some x ∧ Extended.ofKey x = e := by
  cases v with
  | moment m => simp [point?, number?, m.point_ne_number]
  | _ => simp [point?, number?]

theorem exists_of_point?_of_isNumber {v : Value} {p : Point} (hv : v.isNumber = true)
    (h : v.point? = some p) : ∃ e, p = .number e := by
  cases v with
  | bool b => cases h; exact ⟨_, rfl⟩
  | int n => cases h; exact ⟨_, rfl⟩
  | float f =>
    obtain ⟨x, -, rfl⟩ := Option.map_eq_some_iff.mp h
    exact ⟨_, rfl⟩
  | _ => cases hv

/-- Where one of two values is a number, they are equal if both are and their keys are. -/
theorem same_iff_of_isNumber {v w : Value} (h : v.isNumber = true ∨ w.isNumber = true) :
    v.same w = true ↔ ∃ x y, v.number? = some x ∧ w.number? = some y ∧ x.same y = true := by
  cases v <;> cases w <;> simp only [isNumber, Bool.false_eq_true, or_self] at h <;> simp only [same] <;>
    split <;> simp_all

/-- **Values that a set can hold are equal exactly if they stand for the same point.** -/
theorem same_iff {v w : Value} (hv : v.isHashable = true) (hw : w.isHashable = true) :
    v.same w = true ↔ ∃ p, v.point? = some p ∧ w.point? = some p := by
  by_cases hnumber : v.isNumber = true ∨ w.isNumber = true
  · rw [same_iff_of_isNumber hnumber]
    constructor
    · intro ⟨x, y, hx, hy, hsame⟩
      rw [ofKey_eq_iff (isProper_of_number? hx) (isProper_of_number? hy)] at hsame
      exact ⟨.number (.ofKey x), point?_eq_number_iff.mpr ⟨x, hx, rfl⟩,
        point?_eq_number_iff.mpr ⟨y, hy, hsame.symm⟩⟩
    · intro ⟨p, hp, hp'⟩
      -- the point is a number, whichever of the two values is one
      obtain ⟨e, rfl⟩ : ∃ e, p = .number e := by
        rcases hnumber with h | h
        · exact exists_of_point?_of_isNumber h hp
        · exact exists_of_point?_of_isNumber h hp'
      obtain ⟨x, hx, hxe⟩ := point?_eq_number_iff.mp hp
      obtain ⟨y, hy, hye⟩ := point?_eq_number_iff.mp hp'
      refine ⟨x, y, hx, hy, ?_⟩
      rw [ofKey_eq_iff (isProper_of_number? hx) (isProper_of_number? hy), hxe, hye]
  · -- neither is a number, and so each stands for a point
    have hpoints : v.same w = true ↔ v.point? = w.point? := by
      cases v with
      | moment m =>
        cases w with
        | moment n => simp [same, point?, Moment.same_iff]
        | _ => cases m <;> simp_all [same, isNumber, isHashable, point?, number?, Moment.point]
      | _ =>
        cases w with
        | moment m => cases m <;> simp_all [same, isNumber, isHashable, point?, number?, Moment.point]
        | _ => simp_all [same, isNumber, isHashable, point?, number?]
    obtain ⟨p, hp⟩ : ∃ p, v.point? = some p := by
      cases v <;> simp_all [isNumber, isHashable, point?]
    rw [hpoints, hp]
    simp [eq_comm]

/-- **Equal values are equal to the same values.** -/
theorem same_congr {u v w : Value} (hu : u.isHashable = true) (hv : v.isHashable = true)
    (hw : w.isHashable = true) (h : v.same w = true) : u.same v = u.same w := by
  obtain ⟨p, hp, hp'⟩ := (same_iff hv hw).mp h
  rw [Bool.eq_iff_iff, same_iff hu hv, same_iff hu hw, hp, hp']

end Value

end DocLint
