import DocLint.Value.Order
import Mathlib.Data.Int.Order.Basic
import Mathlib.Data.List.Perm.Basic
import Mathlib.Order.WithBot

/-!
DocLint.Proofs.Value.Order: sorting by a comparison that may fail.

The comparison of two values is a fault for some of them. Where it is not, and compares the keys of its
arguments in a linear order, the sort succeeds and its result is the sorted permutation: the place of a new
member is found by halving, a leading run is sorted as it stands or backwards, and the other members are
inserted one by one. Integers are such values.
-/

namespace DocLint

section Sorting

variable {α ε κ : Type} [LinearOrder κ] {lt : α → α → Except ε Bool} {key : α → κ} {P : α → Prop}

/-- A comparison that compares the keys of all members of a kind. -/
def ComparesBy (lt : α → α → Except ε Bool) (key : α → κ) (P : α → Prop) : Prop :=
  ∀ x y, P x → P y → lt x y = .ok (decide (key x < key y))

/-- A list that ascends by its keys. -/
def Ascends (key : α → κ) (xs : List α) : Prop :=
  xs.Pairwise fun x y => key x ≤ key y

/-! ## §1. The place of a new member. -/

/-- A place of a list that a new member can take: what stands before it is not greater, and what stands after
it is. -/
structure IsPlaceFor (key : α → κ) (x : α) (xs : List α) (i : Nat) : Prop where
  /-- The members before the place. -/
  before : ∀ y ∈ xs.take i, key y ≤ key x
  /-- The members from the place on. -/
  after : ∀ y ∈ xs.drop i, key x < key y

theorem Ascends.before_of_le {xs : List α} (hs : Ascends key xs) {x : α} {i : Nat} (hi : i < xs.length)
    (hle : key xs[i] ≤ key x) : ∀ y ∈ xs.take (i + 1), key y ≤ key x := by
  have hsplit : xs.take (i + 1) = xs.take i ++ [xs[i]] := by simp
  have hfront : Ascends key (xs.take (i + 1)) := List.Pairwise.sublist (List.take_sublist _ _) hs
  rw [hsplit] at hfront ⊢
  intro y hy
  rcases List.mem_append.mp hy with hy | hy
  · exact le_trans ((List.pairwise_append.mp hfront).2.2 y hy _ List.mem_cons_self) hle
  · rw [List.mem_singleton.mp hy]
    exact hle

theorem Ascends.after_of_lt {xs : List α} (hs : Ascends key xs) {x : α} {i : Nat} (hi : i < xs.length)
    (hlt : key x < key xs[i]) : ∀ y ∈ xs.drop i, key x < key y := by
  have hback : Ascends key (xs.drop i) := List.Pairwise.sublist (List.drop_sublist _ _) hs
  rw [List.drop_eq_getElem_cons hi] at hback ⊢
  intro y hy
  rcases List.mem_cons.mp hy with rfl | hy
  · exact hlt
  · exact lt_of_lt_of_le hlt ((List.pairwise_cons.mp hback).1 y hy)

/-- **Halving finds the place of a new member**, if the bounds enclose it and the fuel covers their
distance. -/
theorem isPlaceFor_insertionPoint (hlt : ComparesBy lt key P) {x : α} {xs : List α} (hx : P x)
    (hxs : ∀ y ∈ xs, P y) (hs : Ascends key xs) :
    ∀ fuel low high, low ≤ high → high ≤ xs.length → high - low < fuel →
      (∀ y ∈ xs.take low, key y ≤ key x) → (∀ y ∈ xs.drop high, key x < key y) →
      ∃ i, insertionPoint lt x xs fuel low high = .ok i ∧ IsPlaceFor key x xs i := by
  intro fuel
  induction fuel with
  | zero =>
    intro low high _ _ hfuel
    omega
  | succ fuel ih =>
    intro low high hle hhigh hfuel hbefore hafter
    rw [insertionPoint]
    by_cases hopen : low < high
    · have hmid : low + (high - low) / 2 < xs.length := by omega
      have hcompare := hlt x _ hx (hxs _ (List.getElem_mem hmid))
      simp only [hopen, if_true, List.getElem?_eq_getElem hmid, hcompare, bind, Except.bind]
      -- the member in the middle tells which half the place lies in
      by_cases hless : key x < key xs[low + (high - low) / 2]
      · rw [if_pos (by simpa using hless)]
        apply ih
        · omega
        · omega
        · omega
        · exact hbefore
        · exact hs.after_of_lt hmid hless
      · rw [if_neg (by simpa using hless)]
        apply ih
        · omega
        · omega
        · omega
        · exact hs.before_of_le hmid (not_lt.mp hless)
        · exact hafter
    · have hmeet : low = high := by omega
      subst hmeet
      rw [if_neg hopen]
      exact ⟨low, rfl, hbefore, hafter⟩

/-! ## §2. Insertion. -/

theorem IsPlaceFor.ascends {x : α} {xs : List α} {i : Nat} (h : IsPlaceFor key x xs i)
    (hs : Ascends key xs) : Ascends key (xs.take i ++ x :: xs.drop i) := by
  unfold Ascends at hs ⊢
  rw [← List.take_append_drop i xs, List.pairwise_append] at hs
  obtain ⟨hfront, hback, hacross⟩ := hs
  rw [List.pairwise_append, List.pairwise_cons]
  refine ⟨hfront, ⟨fun y hy => le_of_lt (h.after y hy), hback⟩, fun y hy z hz => ?_⟩
  rcases List.mem_cons.mp hz with rfl | hz
  · exact h.before y hy
  · exact hacross y hy z hz

theorem perm_take_cons_drop (x : α) (xs : List α) (i : Nat) :
    (xs.take i ++ x :: xs.drop i).Perm (x :: xs) := by
  have hmove : (xs.take i ++ x :: xs.drop i).Perm (x :: (xs.take i ++ xs.drop i)) := List.perm_middle
  rwa [List.take_append_drop] at hmove

/-- **Inserting members one by one keeps a list sorted.** -/
theorem insertAll_spec (hlt : ComparesBy lt key P) (rest : List α) :
    ∀ {sorted : List α}, (∀ y ∈ sorted, P y) → (∀ y ∈ rest, P y) → Ascends key sorted →
      ∃ ys, insertAll lt sorted rest = .ok ys ∧ ys.Perm (sorted ++ rest) ∧ Ascends key ys := by
  induction rest with
  | nil =>
    intro sorted _ _ hs
    exact ⟨sorted, rfl, by simp, hs⟩
  | cons x rest ih =>
    intro sorted hsorted hrest hs
    obtain ⟨hx, hrest⟩ := List.forall_mem_cons.mp hrest
    obtain ⟨i, hi, hplace⟩ := isPlaceFor_insertionPoint hlt hx hsorted hs (sorted.length + 1) 0
      sorted.length (by omega) (by omega) (by omega) (by simp) (by simp)
    have hmembers := perm_take_cons_drop x sorted i
    have hkind : ∀ y ∈ sorted.take i ++ x :: sorted.drop i, P y := by
      intro y hy
      rcases List.mem_cons.mp (hmembers.mem_iff.mp hy) with rfl | hy
      · exact hx
      · exact hsorted y hy
    obtain ⟨ys, hys, hperm, hascends⟩ := ih hkind hrest (hplace.ascends hs)
    refine ⟨ys, ?_, ?_, hascends⟩
    · rw [insertAll, hi]
      exact hys
    · calc List.Perm ys ((sorted.take i ++ x :: sorted.drop i) ++ rest) := hperm
        List.Perm _ (x :: sorted ++ rest) := hmembers.append_right rest
        List.Perm _ (sorted ++ x :: rest) := List.perm_middle.symm

/-! ## §3. The leading run. -/

/-- A run, last member first: it ascends if each member of the run is less than the one before it (`down`), and
its reverse does otherwise. -/
def IsRun (key : α → κ) (down : Bool) (run : List α) : Prop :=
  Ascends key (if down then run else run.reverse)

theorem isRun_cons {down : Bool} {x last : α} {run : List α} (h : IsRun key down (last :: run))
    (hx : decide (key x < key last) = down) : IsRun key down (x :: last :: run) := by
  unfold IsRun Ascends at h ⊢
  cases down with
  | true =>
    -- below the last member, and so below the whole run
    have hless : key x < key last := by simpa using hx
    simp only [if_true] at h ⊢
    refine List.pairwise_cons.mpr ⟨fun y hy => ?_, h⟩
    rcases List.mem_cons.mp hy with rfl | hy
    · exact le_of_lt hless
    · exact le_trans (le_of_lt hless) ((List.pairwise_cons.mp h).1 y hy)
  | false =>
    -- not below the last member, which is the greatest of the run
    have hle : key last ≤ key x := by simpa using hx
    simp only [Bool.false_eq_true, if_false, List.pairwise_reverse] at h ⊢
    refine List.pairwise_cons.mpr ⟨fun y hy => ?_, h⟩
    rcases List.mem_cons.mp hy with rfl | hy
    · exact hle
    · exact le_trans ((List.pairwise_cons.mp h).1 y hy) hle

theorem leadingRun_spec (hlt : ComparesBy lt key P) (down : Bool) (xs : List α) :
    ∀ {run : List α} {last : α}, P last → (∀ y ∈ xs, P y) → IsRun key down (last :: run) →
      ∃ run' rest, leadingRun lt down run last xs = .ok (run', rest) ∧
        (run' ++ rest).Perm (last :: run ++ xs) ∧ IsRun key down run' := by
  induction xs with
  | nil =>
    intro run last _ _ hrun
    exact ⟨last :: run, [], rfl, List.Perm.refl _, hrun⟩
  | cons x xs ih =>
    intro run last hlast hxs hrun
    obtain ⟨hx, hxs⟩ := List.forall_mem_cons.mp hxs
    rw [leadingRun, hlt x last hx hlast]
    by_cases hgoes : decide (key x < key last) = down
    · obtain ⟨run', rest, hresult, hperm, hrun'⟩ := ih hx hxs (isRun_cons hrun hgoes)
      refine ⟨run', rest, ?_, ?_, hrun'⟩
      · simpa [bind, Except.bind, hgoes] using hresult
      · have hmove : (last :: run ++ x :: xs).Perm (x :: (last :: run ++ xs)) := List.perm_middle
        exact hperm.trans hmove.symm
    · refine ⟨last :: run, x :: xs, ?_, List.Perm.refl _, hrun⟩
      simp [bind, Except.bind, pure, Except.pure, hgoes]

/-! ## §4. The sort. -/

/-- **Members that can be compared are sorted.** -/
theorem sortBy?_spec (hlt : ComparesBy lt key P) {xs : List α} (hxs : ∀ x ∈ xs, P x) :
    ∃ ys, sortBy? lt xs = .ok ys ∧ ys.Perm xs ∧ Ascends key ys := by
  match xs, hxs with
  | [], _ => exact ⟨[], rfl, List.Perm.refl _, List.Pairwise.nil⟩
  | [a], _ => exact ⟨[a], rfl, List.Perm.refl _, List.pairwise_singleton _ _⟩
  | a :: b :: rest, hxs =>
    obtain ⟨ha, hxs⟩ := List.forall_mem_cons.mp hxs
    obtain ⟨hb, hrest⟩ := List.forall_mem_cons.mp hxs
    have hstart : IsRun key (decide (key b < key a)) [b, a] :=
      isRun_cons (by unfold IsRun Ascends; split <;> simp) rfl
    obtain ⟨run, others, hrun, hperm, hsorted⟩ := leadingRun_spec hlt _ rest hb hrest hstart
    have hkind : ∀ y ∈ run ++ others, P y := by
      intro y hy
      have hmem := hperm.mem_iff.mp hy
      simp only [List.cons_append, List.nil_append, List.mem_cons] at hmem
      rcases hmem with rfl | rfl | hmem
      · exact hb
      · exact ha
      · exact hrest y hmem
    -- a run that descends is answered in the order in which it ascends, any other is turned round
    have hturned : (if decide (key b < key a) then run else run.reverse).Perm run := by
      split
      · exact List.Perm.refl _
      · exact List.reverse_perm _
    obtain ⟨ys, hys, hinserted, hascends⟩ := insertAll_spec hlt others
      (fun y hy => hkind y (List.mem_append_left _ (hturned.mem_iff.mp hy)))
      (fun y hy => hkind y (List.mem_append_right _ hy)) hsorted
    refine ⟨ys, ?_, ?_, hascends⟩
    · rw [sortBy?, hlt b a hb ha]
      simp only [bind, Except.bind, hrun]
      exact hys
    · calc List.Perm ys (_ ++ others) := hinserted
        List.Perm _ (run ++ others) := hturned.append_right others
        List.Perm _ (b :: a :: rest) := hperm
        List.Perm _ (a :: b :: rest) := List.Perm.swap a b rest

end Sorting

/-! ## §5. Integers and infinity. -/

namespace Value

/-- An integer, or the infinity that lies above all of them. -/
inductive IsRanked : Value → Prop
  | int (n : Int) : IsRanked (.int n)
  | infinity : IsRanked (.float (.infinite false))

/-- Where a value stands among the integers: above all of them if it is none. -/
def rank : Value → WithTop Int
  | .int n => (n : WithTop Int)
  | _ => ⊤

theorem IsRanked.exists_number? {v : Value} (h : v.IsRanked) : ∃ x, v.number? = some x := by
  cases h with
  | int n => exact ⟨_, rfl⟩
  | infinity => exact ⟨_, rfl⟩

/-- Numbers are compared by their keys. -/
theorem lt_of_number? {v w : Value} {x y : Number.Double.Key} (hx : v.number? = some x)
    (hy : w.number? = some y) : lt v w = .ok (x.lt y) := by
  cases v <;> cases w <;> simp_all [lt, isNumber, number?]

/-- **Integers and infinity are compared by their ranks.** -/
theorem comparesBy_rank : ComparesBy lt rank IsRanked := by
  intro v w hv hw
  cases hv with
  | int m =>
    cases hw with
    | int n => rw [lt_of_number? rfl rfl]; simp [Number.Double.Key.lt, rank]
    | infinity => rw [lt_of_number? rfl rfl]; simp [Number.Double.Key.lt, rank]
  | infinity =>
    cases hw with
    | int n => rw [lt_of_number? rfl rfl]; simp [Number.Double.Key.lt, rank]
    | infinity => rw [lt_of_number? rfl rfl]; simp [Number.Double.Key.lt]

theorem same_int (m n : Int) : same (.int m) (.int n) = (m == n) := by
  simp [same, number?, Number.Double.Key.same]

/-- **Integers are sorted as numbers.** -/
theorem sortBy?_int (ns : List Int) :
    ∃ ms : List Int, sortBy? lt (ns.map Value.int) = .ok (ms.map Value.int) ∧ ms.Perm ns ∧
      ms.Pairwise (· ≤ ·) := by
  have hranked : ∀ v ∈ ns.map Value.int, v.IsRanked := by
    intro v hv
    obtain ⟨n, -, rfl⟩ := List.mem_map.mp hv
    exact .int n
  obtain ⟨vs, hvs, hperm, hascends⟩ := sortBy?_spec comparesBy_rank hranked
  obtain ⟨ms, rfl, hms⟩ : ∃ ms : List Int, vs = ms.map Value.int ∧ ms.Perm ns := by
    rwa [← congrFun₂ (List.eq_map_comp_perm Value.int) vs ns] at hperm
  refine ⟨ms, hvs, hms, ?_⟩
  refine (List.pairwise_map.mp hascends).imp ?_
  intro m n hle
  exact WithTop.coe_le_coe.mp hle

end Value

end DocLint
