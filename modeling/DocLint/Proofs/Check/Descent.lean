import DocLint.Proofs.Check.Order

/-!
DocLint.Proofs.Check.Descent: the check of the order is a test of sortedness.

Each landmark that matches a docstring is found once, at the leftmost place where it matches, and the landmarks are
taken from left to right. Those whose names are expected have a place, the first one of the name. Main result: the
check reports the later name of each two neighbours whose places descend, so it reports nothing exactly if the places
ascend from any landmark to any later one.
-/

namespace DocLint

open Text (find? FitsIn IsLeftmost)

/-! ## §1. Landmarks and where they are found. -/

/-- Landmarks with the positions at which they are found. -/
structure AreSightings (ls : List Landmark) (doc : Text) (hits : List (Nat × Landmark)) : Prop where
  /-- They are the landmarks that fit somewhere, each as often as it is looked for. -/
  all : (hits.map (·.2)).Perm (ls.filter fun l => FitsIn l.pieces doc)
  /-- Each is found at the leftmost place where it fits. -/
  leftmost : ∀ h ∈ hits, IsLeftmost h.2.pieces doc h.1
  /-- They are taken from left to right. -/
  sorted : hits.Pairwise fun x y => x.1 ≤ y.1

/-- Looking for landmarks keeps those that fit. -/
theorem map_snd_filterMap_find? (ls : List Landmark) (doc : Text) :
    (ls.filterMap fun l => (find? l.pieces doc).map fun n => (n, l)).map (·.2)
      = ls.filter fun l => FitsIn l.pieces doc := by
  induction ls with
  | nil => rfl
  | cons l ls ih =>
    have hfits : FitsIn l.pieces doc ↔ (find? l.pieces doc).isSome = true := Text.isSome_find?_iff.symm
    cases hfound : find? l.pieces doc with
    | none => simpa [hfits, hfound] using ih
    | some n => simpa [hfits, hfound] using ih

/-- **The landmarks of a docstring are its sightings, under their names.** -/
theorem exists_areSightings (ls : List Landmark) (doc : Text) :
    ∃ hits, AreSightings ls doc hits ∧
      findLandmarks ls doc = hits.map fun h => (h.1, h.2.name) := by
  -- the same list before only the names of the landmarks are kept
  let hits := (ls.filterMap fun l => (find? l.pieces doc).map fun n => (n, l)).mergeSort
    fun x y => x.1 ≤ y.1
  have hperm : hits.Perm (ls.filterMap fun l => (find? l.pieces doc).map fun n => (n, l)) :=
    List.mergeSort_perm _ _
  refine ⟨hits, ⟨?_, ?_, pairwise_mergeSort_key _ _⟩, ?_⟩
  · rw [← map_snd_filterMap_find?]
    exact hperm.map _
  · intro h hmem
    obtain ⟨l, -, hl⟩ := List.mem_filterMap.mp (hperm.mem_iff.mp hmem)
    obtain ⟨n, hn, rfl⟩ := Option.map_eq_some_iff.mp hl
    exact Text.find?_eq_some_iff_isLeftmost.mp hn
  · have hnames : hits.map (fun h => (h.1, h.2.name))
        = ((ls.filterMap fun l => (find? l.pieces doc).map fun n => (n, l)).map
            fun h => (h.1, h.2.name)).mergeSort fun x y => x.1 ≤ y.1 :=
      List.map_mergeSort fun _ _ _ _ => rfl
    rw [hnames, List.map_filterMap]
    simp only [Option.map_map, Function.comp_def]
    rfl

/-! ## §2. Places and descents. -/

/-- Names with their places in the expected order; a name without one is left out. -/
def placesOf (expected names : List String) : List (String × Nat) :=
  names.filterMap fun name => (expected.idxOf? name).map fun i => (name, i)

/-- The neighbours whose places descend. -/
def fallsOf (places : List (String × Nat)) : List ((String × Nat) × (String × Nat)) :=
  (places.zip places.tail).filter fun p => p.2.2 < p.1.2

theorem placesOf_cons_none {expected names : List String} {name : String}
    (h : expected.idxOf? name = none) : placesOf expected (name :: names) = placesOf expected names := by
  simp [placesOf, h]

theorem placesOf_cons_some {expected names : List String} {name : String} {i : Nat}
    (h : expected.idxOf? name = some i) :
    placesOf expected (name :: names) = (name, i) :: placesOf expected names := by
  simp [placesOf, h]

theorem fallsOf_cons_cons (x y : String × Nat) (places : List (String × Nat)) :
    fallsOf (x :: y :: places)
      = if y.2 < x.2 then (x, y) :: fallsOf (y :: places) else fallsOf (y :: places) := by
  unfold fallsOf
  rw [List.tail_cons, List.zip_cons_cons, List.filter_cons]
  simp only [decide_eq_true_eq]
  rfl

/-- The scan that remembers the last place reports the falls from there on. -/
theorem descents_of_last (expected names : List String) :
    ∀ x : String × Nat, descents expected (some x.2) names
      = (fallsOf (x :: placesOf expected names)).map fun p => p.2.1 := by
  induction names with
  | nil =>
    intro x
    rfl
  | cons name names ih =>
    intro x
    rw [descents]
    cases hplace : expected.idxOf? name with
    | none =>
      rw [placesOf_cons_none hplace]
      exact ih x
    | some i =>
      -- the place is compared with the last one, and is the last one from here on
      have htail : descents expected (some i) names
          = (fallsOf ((name, i) :: placesOf expected names)).map fun p => p.2.1 := ih (name, i)
      rw [placesOf_cons_some hplace, fallsOf_cons_cons]
      by_cases hfall : i < x.2
      · simp [hfall, htail]
      · simp [hfall, htail]

/-- **The names that are reported are the later ones of the falls.** -/
theorem descents_none (expected names : List String) :
    descents expected none names = (fallsOf (placesOf expected names)).map fun p => p.2.1 := by
  induction names with
  | nil => rfl
  | cons name names ih =>
    rw [descents]
    cases hplace : expected.idxOf? name with
    | none =>
      rw [placesOf_cons_none hplace]
      exact ih
    | some i =>
      rw [placesOf_cons_some hplace]
      exact descents_of_last expected names (name, i)

/-- There is no fall exactly if the places ascend from any name to any later one. -/
theorem fallsOf_eq_nil_iff (places : List (String × Nat)) :
    fallsOf places = [] ↔ places.Pairwise fun x y => x.2 ≤ y.2 := by
  have htrans : IsTrans (String × Nat) fun x y => x.2 ≤ y.2 := ⟨fun _ _ _ => Nat.le_trans⟩
  rw [← List.isChain_iff_pairwise]
  induction places with
  | nil => simp [fallsOf]
  | cons x places ih =>
    cases places with
    | nil => simp [fallsOf]
    | cons y places =>
      rw [fallsOf_cons_cons, List.isChain_cons_cons]
      by_cases hfall : y.2 < x.2
      · simp [hfall]
      · simpa [hfall, Nat.not_lt.mp hfall] using ih

/-! ## §3. The order of a docstring. -/

/-- The landmarks of a docstring that have a place in the expected order, from left to right: their names and
places. -/
def Rules.places (r : Rules) (doc : Text) : List (String × Nat) :=
  placesOf r.expectedOrder ((findLandmarks r.landmarks doc).map (·.2))

/-- **The check of the order is a test of sortedness.** It reports nothing exactly if of any two landmarks with a place
the later one does not have the smaller place. In general it reports, from left to right, the later one of each two
neighbours whose places descend. The landmarks are those that match the docstring, each at the leftmost place where it
does, and they stand in the order of these places. -/
theorem orderIssues_test_sortedness (r : Rules) (doc : Text) :
    (r.orderIssues doc = [] ↔ (r.places doc).Pairwise fun x y => x.2 ≤ y.2) ∧
    (r.orderIssues doc).map Issue.message
      = (fallsOf (r.places doc)).map (fun p => "Section '" ++ p.2.1 ++ "' appears out of order") ∧
    ∃ hits, AreSightings r.landmarks doc hits ∧
      findLandmarks r.landmarks doc = hits.map fun h => (h.1, h.2.name) := by
  have hissues : r.orderIssues doc = (fallsOf (r.places doc)).map fun p => Issue.outOfOrder p.2.1 := by
    unfold Rules.orderIssues Rules.places
    rw [descents_none, List.map_map]
    rfl
  refine ⟨?_, ?_, exists_areSightings r.landmarks doc⟩
  · rw [hissues, List.map_eq_nil_iff, fallsOf_eq_nil_iff]
  · rw [hissues, List.map_map]
    rfl

end DocLint
