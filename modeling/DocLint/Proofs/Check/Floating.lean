import DocLint.Proofs.Check.Descent
import DocLint.Proofs.Text.Lines

/-!
DocLint.Proofs.Check.Floating: blocks that may stand anywhere.

Only landmarks whose names have a place in the expected order count, and of each only where it is found first. Where
no landmark goes from one line into the next, it is found in the first line that holds it, and taking lines out in
which none is found first moves the others together but not past each other. Main result: `orderIssues_of_moved`, such
lines may be moved as a block without a change of the issues. A section without an order need not be such a block, as
the common headers have their places under all rules.
-/

namespace DocLint

open Text (Fits FitsIn Piece find? lines)

/-! ## §1. Landmarks that have a place. -/

/-- The landmarks whose names have a place in the expected order. -/
def Rules.placed (r : Rules) : List Landmark :=
  r.landmarks.filter (·.name ∈ r.expectedOrder)

/-- The common headers are landmarks under all rules. -/
theorem Rules.mem_landmarks_of_common (r : Rules) {h : String × String} (hh : h ∈ commonHeaders) :
    ⟨[.letters h.1.toList], h.2⟩ ∈ r.landmarks :=
  List.mem_append_right _ (List.mem_map.mpr ⟨h, hh, rfl⟩)

/-- A sorted list is cut in one way at a key. -/
theorem cut_at_key {α : Type} {key : α → Nat} {k : Nat} {below above below' above' : List α}
    (hbelow : ∀ x ∈ below, key x < k) (habove : ∀ x ∈ above, k ≤ key x) (hbelow' : ∀ x ∈ below', key x < k)
    (habove' : ∀ x ∈ above', k ≤ key x) (h : below ++ above = below' ++ above') :
    below = below' ∧ above = above' := by
  have hpart : ∀ {xs ys : List α}, (∀ x ∈ xs, key x < k) → (∀ x ∈ ys, k ≤ key x) →
      (xs ++ ys).filter (key · < k) = xs := by
    intro xs ys hxs hys
    have hall : xs.filter (key · < k) = xs := List.filter_eq_self.mpr (by simpa using hxs)
    have hnone : ys.filter (key · < k) = [] := List.filter_eq_nil_iff.mpr (by simpa using hys)
    rw [List.filter_append, hall, hnone, List.append_nil]
  have heq : below = below' := by
    rw [← hpart hbelow habove, h, hpart hbelow' habove']
  rw [heq] at h
  exact ⟨heq, List.append_cancel_left h⟩

/-- Sorting puts a new first member in front of those whose keys reach its own. -/
theorem exists_mergeSort_cons {α : Type} (key : α → Nat) (a : α) (l : List α) :
    ∃ below above, ((a :: l).mergeSort fun x y => key x ≤ key y) = below ++ a :: above ∧
      (l.mergeSort fun x y => key x ≤ key y) = below ++ above ∧
      (∀ x ∈ below, key x < key a) ∧ ∀ x ∈ above, key a ≤ key x := by
  have htrans : ∀ x y z : α, decide (key x ≤ key y) = true → decide (key y ≤ key z) = true →
      decide (key x ≤ key z) = true := by
    intro x y z hxy hyz
    simp only [decide_eq_true_eq] at hxy hyz ⊢
    omega
  have htotal : ∀ x y : α, (decide (key x ≤ key y) || decide (key y ≤ key x)) = true := by
    intro x y
    simpa using Nat.le_total (key x) (key y)
  obtain ⟨below, above, hsort, hrest, hbelow⟩ := List.mergeSort_cons htrans htotal a l
  have hsorted := pairwise_mergeSort_key key (a :: l)
  rw [hsort, List.pairwise_append] at hsorted
  refine ⟨below, above, hsort, hrest, fun x hx => ?_, (List.pairwise_cons.mp hsorted.2.1).1⟩
  simpa using hbelow x hx

/-- **Sorting a part of a list gives the part of the sorted list**, as equal members keep their order. -/
theorem filter_mergeSort {α : Type} (key : α → Nat) (p : α → Bool) (l : List α) :
    (l.mergeSort fun x y => key x ≤ key y).filter p = (l.filter p).mergeSort fun x y => key x ≤ key y := by
  induction l with
  | nil => simp
  | cons a l ih =>
    obtain ⟨below, above, hsort, hrest, hbelow, habove⟩ := exists_mergeSort_cons key a l
    rw [hrest, List.filter_append] at ih
    rw [hsort, List.filter_append]
    by_cases ha : p a = true
    · obtain ⟨below', above', hsort', hrest', hbelow', habove'⟩ := exists_mergeSort_cons key a (l.filter p)
      rw [List.filter_cons_of_pos ha, List.filter_cons_of_pos ha, hsort']
      rw [hrest'] at ih
      -- both cuts are where the keys reach that of `a`
      obtain ⟨hb, hab⟩ := cut_at_key (fun x hx => hbelow x (List.mem_of_mem_filter hx))
        (fun x hx => habove x (List.mem_of_mem_filter hx)) hbelow' habove' ih
      rw [hb, hab]
    · rw [List.filter_cons_of_neg ha, List.filter_cons_of_neg ha]
      exact ih

/-- Names without a place do not count. -/
theorem placesOf_filter (expected names : List String) :
    placesOf expected (names.filter (· ∈ expected)) = placesOf expected names := by
  induction names with
  | nil => rfl
  | cons name names ih =>
    cases hplace : expected.idxOf? name with
    | none =>
      have hname : name ∉ expected := List.idxOf?_eq_none_iff.mp hplace
      rw [List.filter_cons_of_neg (by simpa using hname), placesOf_cons_none hplace, ih]
    | some i =>
      have hname : name ∈ expected := by
        by_contra hnot
        rw [List.idxOf?_eq_none_iff.mpr hnot] at hplace
        cases hplace
      rw [List.filter_cons_of_pos (by simpa using hname), placesOf_cons_some hplace, placesOf_cons_some hplace, ih]

/-! ## §2. Where a landmark is found. -/

/-- Landmarks at their places, from left to right, under their names. -/
def namesAt (ls : List Landmark) (place : Landmark → Option Nat) : List String :=
  ((ls.filterMap fun l => (place l).map (·, l.name)).mergeSort fun a b => a.1 ≤ b.1).map (·.2)

theorem filter_namesAt (ls : List Landmark) (place : Landmark → Option Nat) (p : String → Bool) :
    (namesAt ls place).filter p = namesAt (ls.filter (p ·.name)) place := by
  have hpart : (ls.filterMap fun l => (place l).map (·, l.name)).filter (fun x => p x.2)
      = (ls.filter (p ·.name)).filterMap fun l => (place l).map (·, l.name) := by
    induction ls with
    | nil => rfl
    | cons l ls ih =>
      cases hplace : place l with
      | none => by_cases hl : p l.name = true <;> simp [hplace, hl, ih]
      | some n => by_cases hl : p l.name = true <;> simp [hplace, hl, ih]
  unfold namesAt
  rw [List.filter_map, ← hpart]
  exact congrArg (List.map (·.2)) (filter_mergeSort (fun x : Nat × String => x.1) (fun x => p x.2) _)

/-- **Only landmarks with a place count for the order.** -/
theorem Rules.orderIssues_eq (r : Rules) (doc : Text) :
    r.orderIssues doc = (descents r.expectedOrder none (namesAt r.placed fun l => find? l.pieces doc)).map
      .outOfOrder := by
  have hnames : (findLandmarks r.landmarks doc).map (·.2) = namesAt r.landmarks fun l => find? l.pieces doc := rfl
  unfold Rules.orderIssues Rules.placed
  rw [hnames, descents_none, descents_none, ← placesOf_filter, filter_namesAt]

/-- Places that are moved without a change of their order leave the names as they are. -/
theorem namesAt_map {ls : List Landmark} {place place' : Landmark → Option Nat} {g : Nat → Nat}
    (hg : ∀ m n, g m ≤ g n ↔ m ≤ n) (h : ∀ l ∈ ls, place l = (place' l).map g) :
    namesAt ls place = namesAt ls place' := by
  have hmoved : (ls.filterMap fun l => (place l).map (·, l.name))
      = (ls.filterMap fun l => (place' l).map (·, l.name)).map fun x => (g x.1, x.2) := by
    rw [List.map_filterMap]
    refine List.filterMap_congr fun l hl => ?_
    rw [h l hl, Option.map_map, Option.map_map]
    rfl
  -- sorting sees no more of the places than how they compare
  have hsorted := List.map_mergeSort (r := fun x y : Nat × String => x.1 ≤ y.1)
    (s := fun x y : Nat × String => x.1 ≤ y.1) (f := fun x : Nat × String => (g x.1, x.2))
    (l := ls.filterMap fun l => (place' l).map (·, l.name)) (by simp [hg])
  unfold namesAt
  rw [hmoved, ← hsorted, List.map_map]
  rfl

/-! ## §3. Lines. -/

/-- A pattern stays in a line: where it starts in the line it ends there, whatever lines follow. -/
def StaysIn (ps : List Piece) (line : Text) : Prop :=
  ∀ k rest, Fits ps (line.drop k ++ '\n' :: rest) → Fits ps (line.drop k)

/-- A literal on one line. -/
def isLiteral : List Piece → Bool
  | [.letters pat] => '\n' ∉ pat
  | _ => false

/-- Literals on one line stay in every line. -/
theorem staysIn_of_isLiteral {ps : List Piece} (h : isLiteral ps = true) (line : Text) : StaysIn ps line := by
  unfold isLiteral at h
  split at h
  · next pat =>
    intro k rest hfits
    obtain ⟨word, after, hcut, hword, -⟩ := Text.fits_letters_iff.mp hfits
    have hsolid : '\n' ∉ word := fun hmem => of_decide_eq_true h (hword.mem_of_isSign (by decide) hmem)
    -- a word without a newline ends in front of the newline
    rcases List.append_eq_append_iff.mp hcut with ⟨beyond, hbeyond, htail⟩ | ⟨left, hleft, -⟩
    · cases beyond with
      | nil =>
        rw [List.append_nil] at hbeyond
        rw [← hbeyond]
        exact (List.append_nil word) ▸ .letters hword (.nil [])
      | cons c beyond =>
        obtain ⟨rfl, -⟩ := List.cons.inj htail
        exact absurd (by rw [hbeyond]; simp) hsolid
    · rw [hleft]
      exact .letters hword (.nil left)
  · cases h

/-- What fits a text fits it with lines behind it. -/
theorem fits_append_newline {ps : List Piece} {cs : Text} (h : Fits ps cs) (rest : Text) :
    Fits ps (cs ++ '\n' :: rest) := by
  induction h with
  | nil cs => exact .nil _
  | letters hword _ ih =>
    rw [List.append_assoc]
    exact .letters hword ih
  | any hfront _ ih =>
    rw [List.append_assoc]
    exact .any hfront ih
  | some hne hfront _ ih =>
    rw [List.append_assoc]
    exact .some hne hfront ih
  | @lineEnd cs ps hends _ ih =>
    refine .lineEnd (.inr ?_) ih
    rcases hends with rfl | hhead
    · rfl
    · rw [List.head?_append, hhead]
      rfl

/-- Where a pattern is found first in lines, each of which a newline follows. -/
def seat (ps : List Piece) : List Text → Option Nat
  | [] => none
  | line :: ls => (find? ps line).or ((seat ps ls).map (· + (line.length + 1)))

/-- The characters of lines with their newlines. -/
def width : List Text → Nat
  | [] => 0
  | line :: ls => line.length + 1 + width ls

/-- What is found in the first line of a text is found there, and else the search goes on behind it. -/
theorem find?_append_newline {ps : List Piece} {line : Text} (h : StaysIn ps line) (rest : Text) :
    find? ps (line ++ '\n' :: rest) = (find? ps line).or ((find? ps rest).map (· + (line.length + 1))) := by
  -- the places of the text are those of the line and those behind its newline
  have hwithin : ∀ j ≤ line.length, Fits ps ((line ++ '\n' :: rest).drop j) → Fits ps (line.drop j) := by
    intro j hj hfits
    rw [List.drop_append_of_le_length hj] at hfits
    exact h j rest hfits
  have hbehind : ∀ j, (line ++ '\n' :: rest).drop (j + (line.length + 1)) = rest.drop j := by
    intro j
    have hcut : (line ++ '\n' :: rest).drop (line.length + 1) = rest := by simp [List.drop_append]
    rw [Nat.add_comm, ← List.drop_drop, hcut]
  cases hline : find? ps line with
  | some k =>
    obtain ⟨hk, hfits, hfirst⟩ := Text.find?_eq_some_iff_isLeftmost.mp hline
    rw [Option.some_or]
    refine Text.find?_eq_some_iff_isLeftmost.mpr ⟨by simp; omega, ?_, ?_⟩
    · rw [List.drop_append_of_le_length hk]
      exact fits_append_newline hfits rest
    · intro j hj hfits
      exact hfirst j hj (hwithin j (by omega) hfits)
  | none =>
    have hnone : ∀ j ≤ line.length, ¬ Fits ps ((line ++ '\n' :: rest).drop j) := fun j hj hfits =>
      Text.find?_eq_none_iff.mp hline ⟨j, hj, hwithin j hj hfits⟩
    rw [Option.none_or]
    cases hrest : find? ps rest with
    | some n =>
      obtain ⟨hn, hfits, hfirst⟩ := Text.find?_eq_some_iff_isLeftmost.mp hrest
      refine Text.find?_eq_some_iff_isLeftmost.mpr ⟨by simp; omega, by rwa [hbehind], ?_⟩
      intro j (hj : j < n + (line.length + 1)) hfits
      by_cases hle : j ≤ line.length
      · exact hnone j hle hfits
      · obtain ⟨m, rfl⟩ : ∃ m, j = m + (line.length + 1) := ⟨j - (line.length + 1), by omega⟩
        rw [hbehind] at hfits
        exact hfirst m (by omega) hfits
    | none =>
      rw [Option.map_none, Text.find?_eq_none_iff]
      rintro ⟨j, hj, hfits⟩
      by_cases hle : j ≤ line.length
      · exact hnone j hle hfits
      · obtain ⟨m, rfl⟩ : ∃ m, j = m + (line.length + 1) := ⟨j - (line.length + 1), by omega⟩
        rw [hbehind] at hfits
        rw [List.length_append, List.length_cons] at hj
        exact Text.find?_eq_none_iff.mp hrest ⟨m, by omega, hfits⟩

/-- **A pattern that stays in the lines of a text is found in the first line that holds it.** -/
theorem find?_eq_seat {ps : List Piece} (doc : Text) (h : ∀ line ∈ lines doc, StaysIn ps line) :
    find? ps doc = seat ps (lines doc) := by
  obtain ⟨line, rest, hlines, -, ⟨rfl, rfl⟩ | ⟨below, rfl, rfl⟩⟩ := Text.exists_lines doc
  · rw [hlines, seat, seat, Option.map_none, Option.or_none]
  · rw [hlines, List.forall_mem_cons] at h
    have hshorter : below.length < (line ++ '\n' :: below).length := by simp; omega
    rw [hlines, seat, find?_append_newline h.1, find?_eq_seat below h.2]
termination_by doc.length

theorem seat_append (ps : List Piece) (xs ys : List Text) :
    seat ps (xs ++ ys) = (seat ps xs).or ((seat ps ys).map (· + width xs)) := by
  induction xs with
  | nil => simp [seat, width]
  | cons line xs ih =>
    rw [List.cons_append, seat, seat, ih, width, Option.or_assoc]
    congr 1
    cases seat ps xs with
    | none =>
      cases seat ps ys with
      | none => rfl
      | some n => simp; omega
    | some n => rfl

theorem isSome_seat_iff {ps : List Piece} {ls : List Text} :
    (seat ps ls).isSome = true ↔ ∃ line ∈ ls, FitsIn ps line := by
  induction ls with
  | nil => simp [seat]
  | cons line ls ih =>
    rw [seat, Option.isSome_or, Option.isSome_map, Bool.or_eq_true, ih, Text.isSome_find?_iff]
    simp

theorem seat_lt {ps : List Piece} {ls : List Text} {n : Nat} (h : seat ps ls = some n) : n < width ls := by
  induction ls generalizing n with
  | nil => cases h
  | cons line ls ih =>
    rw [seat, Option.or_eq_some_iff] at h
    rw [width]
    rcases h with hfound | ⟨-, hrest⟩
    · have hle := (Text.find?_eq_some_iff.mp hfound).1
      omega
    · obtain ⟨m, hm, rfl⟩ := Option.map_eq_some_iff.mp hrest
      have hlt := ih hm
      omega

/-! ## §4. Lines that may be taken out. -/

/-- Where a place comes to stand when `gap` characters are put in at a cut. -/
def widen (cut gap n : Nat) : Nat :=
  if n < cut then n else n + gap

theorem widen_le_iff (cut gap m n : Nat) : widen cut gap m ≤ widen cut gap n ↔ m ≤ n := by
  unfold widen
  split_ifs <;> omega

/-- Lines in which a landmark is not found first, as none of them holds it or one above does. -/
def FreeOf (ps : List Piece) (above block : List Text) : Prop :=
  (∀ line ∈ block, ¬ FitsIn ps line) ∨ ∃ line ∈ above, FitsIn ps line

instance (ps : List Piece) (above block : List Text) : Decidable (FreeOf ps above block) :=
  inferInstanceAs (Decidable (_ ∨ _))

/-- Lines in which a pattern is not found first move what is found behind them, and nothing else. -/
theorem seat_block {ps : List Piece} {above block below : List Text} (h : FreeOf ps above block) :
    seat ps (above ++ (block ++ below)) = (seat ps (above ++ below)).map (widen (width above) (width block)) := by
  rw [seat_append, seat_append, seat_append ps above]
  cases habove : seat ps above with
  | some n =>
    -- found in front of the cut
    have hlt := seat_lt habove
    simp [widen, hlt]
  | none =>
    have hblock : seat ps block = none := by
      rw [← Option.isNone_iff_eq_none, ← Option.isSome_eq_false_iff, ← Bool.not_eq_true, isSome_seat_iff]
      rintro ⟨line, hline, hfits⟩
      rcases h with hfree | hheld
      · exact hfree line hline hfits
      -- a line above holds it, so it would have been found there
      · have hsome := isSome_seat_iff.mpr hheld
        rw [habove] at hsome
        cases hsome
    rw [hblock]
    cases seat ps below with
    | none => rfl
    | some n =>
      have hbehind : ¬ n + width above < width above := by omega
      simp only [Option.map_some, Option.none_or, widen, if_neg hbehind, Option.some.injEq]
      omega

/-- **Lines in which no landmark is found first do not count**: the names that are found are those of the other
lines. -/
theorem namesAt_block {ls : List Landmark} {doc : Text} {above block below : List Text}
    (hdoc : lines doc = above ++ (block ++ below)) (hstays : ∀ l ∈ ls, ∀ line ∈ lines doc, StaysIn l.pieces line)
    (hfree : ∀ l ∈ ls, FreeOf l.pieces above block) :
    (namesAt ls fun l => find? l.pieces doc) = namesAt ls fun l => seat l.pieces (above ++ below) := by
  refine namesAt_map (widen_le_iff (width above) (width block)) fun l hl => ?_
  rw [find?_eq_seat doc (hstays l hl), hdoc, seat_block (hfree l hl)]

/-- **A block in which no landmark with a place is found first may stand anywhere.** Let the block be moved from behind
the lines in `front` to behind those in `middle`, and let no landmark with a place go from one line into the next. If
none fits in the block, or only such as are found further up already, then the order has the same issues as before. -/
theorem orderIssues_of_moved (r : Rules) (doc doc' : Text) (front block middle back : List Text)
    (hdoc : lines doc = front ++ (block ++ (middle ++ back)))
    (hdoc' : lines doc' = front ++ (middle ++ (block ++ back)))
    (hstays : ∀ l ∈ r.placed, ∀ line ∈ lines doc, StaysIn l.pieces line)
    (hfree : ∀ l ∈ r.placed, FreeOf l.pieces front block) :
    r.orderIssues doc' = r.orderIssues doc := by
  rw [← List.append_assoc] at hdoc'
  have hstays' : ∀ l ∈ r.placed, ∀ line ∈ lines doc', StaysIn l.pieces line := by
    intro l hl line hline
    refine hstays l hl line ?_
    simp only [hdoc, hdoc', List.mem_append] at hline ⊢
    tauto
  have hfree' : ∀ l ∈ r.placed, FreeOf l.pieces (front ++ middle) block := by
    intro l hl
    refine (hfree l hl).imp_right ?_
    rintro ⟨line, hline, hfits⟩
    exact ⟨line, List.mem_append_left _ hline, hfits⟩
  -- both have the names of the docstring without the block
  rw [r.orderIssues_eq, r.orderIssues_eq, namesAt_block hdoc hstays hfree, namesAt_block hdoc' hstays' hfree',
    List.append_assoc]

/-! ## §5. Sections without an order. -/

/-- A summary that has the first place. -/
def summarySection : Section :=
  { name := "summary", kind := .freeText, order := some 1, admonition := some "note", marker := "!!!",
    required := true }

/-- Rules for a summary and one section more. -/
def summaryAnd (s : Section) : Rules :=
  { sections := [summarySection, s] }

theorem ordered_summaryAnd {s : Section} (h : s.order = none) : (summaryAnd s).ordered = [summarySection] := by
  unfold Rules.ordered summaryAnd
  simp [h, summarySection]

/-- A warning that has no order. -/
def looseWarning : Section :=
  { name := "warning", kind := .freeText, admonition := some "danger", marker := "!!!" }

/-- The lines of a summary. -/
def summaryBlock : List Text :=
  ["!!! note \"Summary\"".toList, "    S.".toList]

/-- The lines of a warning. -/
def warningBlock : List Text :=
  ["!!! danger \"Warning\"".toList, "    Old.".toList]

/-- A warning, and behind it a summary. -/
def warningFirst : Text :=
  "!!! danger \"Warning\"\n    Old.\n!!! note \"Summary\"\n    S.".toList

/-- The same blocks the other way round. -/
def warningLast : Text :=
  "!!! note \"Summary\"\n    S.\n!!! danger \"Warning\"\n    Old.".toList

theorem orderIssues_of_moved_warning :
    looseWarning ∈ (summaryAnd looseWarning).floating ∧
    (∀ l ∈ (summaryAnd looseWarning).placed, FreeOf l.pieces [] warningBlock) ∧
    (summaryAnd looseWarning).orderIssues warningLast = (summaryAnd looseWarning).orderIssues warningFirst := by
  have hplaced : ∀ l ∈ (summaryAnd looseWarning).placed,
      FreeOf l.pieces [] warningBlock ∧ isLiteral l.pieces = true := by
    unfold Rules.placed Rules.landmarks Rules.expectedOrder
    rw [ordered_summaryAnd rfl]
    decide +kernel
  refine ⟨by decide, fun l hl => (hplaced l hl).1, ?_⟩
  exact orderIssues_of_moved (summaryAnd looseWarning) warningFirst warningLast [] warningBlock summaryBlock []
    (by decide) (by decide) (fun l hl line _ => staysIn_of_isLiteral (hplaced l hl).2 line)
    fun l hl => (hplaced l hl).1

/-- Examples that have no order. -/
def looseExamples : Section :=
  { name := "examples", kind := .freeText, admonition := some "example", marker := "???+" }

/-- The lines of examples. -/
def examplesBlock : List Text :=
  ["???+ example \"Examples\"".toList, "    E.".toList]

/-- Examples, and behind them a summary. -/
def examplesFirst : Text :=
  "???+ example \"Examples\"\n    E.\n!!! note \"Summary\"\n    S.".toList

/-- The same blocks the other way round. -/
def examplesLast : Text :=
  "!!! note \"Summary\"\n    S.\n???+ example \"Examples\"\n    E.".toList

/-- **Examples without an order are not free**: both headers are as configured, and moving the block of the examples to
the front puts the summary out of order, as the header of the examples is a common one, with a place of its own. -/
theorem orderIssues_loose_examples :
    looseExamples ∈ (summaryAnd looseExamples).floating ∧
    looseExamples.HeadedAt examplesFirst 0 "???+ example \"Examples\"".toList ∧
    summarySection.HeadedAt examplesFirst 31 "!!! note \"Summary\"".toList ∧
    lines examplesFirst = examplesBlock ++ summaryBlock ∧ lines examplesLast = summaryBlock ++ examplesBlock ∧
    (summaryAnd looseExamples).orderIssues examplesFirst ≠ [] ∧
    (summaryAnd looseExamples).orderIssues examplesLast = [] := by
  refine ⟨by decide, ?_, ?_, by decide, by decide, ?_, ?_⟩
  · exact @Section.HeadedAt.callout _ _ "???+" "example" [] [' '] [' '] (examplesFirst.drop 23) _
      rfl rfl (by decide) (by decide) (List.all_eq_true.mp rfl) (by decide) (by decide)
  · exact @Section.HeadedAt.callout _ _ "!!!" "note" (examplesFirst.take 31) [' '] [' '] "\n    S.".toList _
      rfl rfl (by decide) (by decide) (List.all_eq_true.mp rfl) (by decide) (by decide)
  · intro hnone
    have hexamples : (0, "Examples") ∈ findLandmarks (summaryAnd looseExamples).landmarks examplesFirst :=
      mem_findLandmarks.mpr ⟨_, Rules.mem_landmarks_of_common _
        (show ("???+ example \"Examples\"", "Examples") ∈ commonHeaders by decide), rfl, by decide⟩
    have hsummary : (31, "Summary") ∈ findLandmarks (summaryAnd looseExamples).landmarks examplesFirst :=
      mem_findLandmarks.mpr ⟨_, Rules.mem_landmarks_of_common _
        (show ("!!! note \"Summary\"", "Summary") ∈ commonHeaders by decide), rfl, by decide⟩
    have hplaces : (summaryAnd looseExamples).expectedOrder.idxOf? "Examples" = some 3 ∧
        (summaryAnd looseExamples).expectedOrder.idxOf? "Summary" = some 0 := by
      unfold Rules.expectedOrder
      rw [ordered_summaryAnd rfl]
      decide
    have hle := Rules.place_le_of_orderIssues hnone hexamples hsummary (by decide) hplaces.1 hplaces.2
    omega
  · -- what is found has its place where it stands
    have hplace : ∀ l ∈ (summaryAnd looseExamples).landmarks, ∀ n ∈ find? l.pieces examplesLast,
        ∀ k ∈ (summaryAnd looseExamples).expectedOrder.idxOf? l.name, n = 0 ∧ k = 0 ∨ n = 26 ∧ k = 3 := by
      unfold Rules.landmarks Rules.expectedOrder
      rw [ordered_summaryAnd rfl]
      decide +kernel
    refine Rules.orderIssues_eq_nil fun la hla i hi lb hlb j hj hij k hk l hl => ?_
    have hfirst := hplace la hla i hi k hk
    have hsecond := hplace lb hlb j hj l hl
    omega

end DocLint
