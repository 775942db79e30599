import DocLint.Check.Order
import DocLint.Proofs.Text.Pattern
import Mathlib.Data.List.Chain

/-!
DocLint.Proofs.Check.Order: sections in the wrong order.

The landmarks of a docstring are sorted by where they stand, and nothing is out of order exactly if their
places in the expected order ascend. A section has a place under its title, so a landmark counts for it only
if it goes by that title. Main result: of two sections with such landmarks, the one with the greater order
cannot stand first.
-/

namespace DocLint

open Text (isSpace titled find? matchesAt)

/-! ## §1. Descents. -/

theorem pairwise_mergeSort_key {α κ : Type} [LE κ] [DecidableLE κ] [Std.IsLinearPreorder κ]
    (key : α → κ) (l : List α) :
    (l.mergeSort fun x y => key x ≤ key y).Pairwise fun x y => key x ≤ key y := by
  refine (List.pairwise_mergeSort ?_ ?_ l).imp (by simp)
  · intro x y z hxy hyz
    simp only [decide_eq_true_eq] at hxy hyz ⊢
    exact Std.le_trans hxy hyz
  · intro x y
    simpa using Std.le_total (a := key x) (b := key y)

/-- There is no descent exactly if the places ascend from one name to the next. -/
theorem descents_eq_nil_iff (expected names : List String) :
    ∀ last : Option Nat, descents expected last names = []
      ↔ (last.toList ++ names.filterMap (expected.idxOf? ·)).IsChain (· ≤ ·) := by
  induction names with
  | nil =>
    intro last
    cases last <;> simp [descents]
  | cons name names ih =>
    intro last
    rw [descents, List.filterMap_cons]
    cases hplace : expected.idxOf? name with
    | none => exact ih last
    | some i =>
      have htail := ih (some i)
      cases last with
      | none => simpa using htail
      | some l =>
        by_cases hlt : i < l
        · simp [hlt]
        · simpa [hlt, Nat.not_lt.mp hlt] using htail

/-! ## §2. Landmarks. -/

theorem mem_findLandmarks {ls : List Landmark} {doc : Text} {n : Nat} {name : String} :
    (n, name) ∈ findLandmarks ls doc ↔ ∃ l ∈ ls, l.name = name ∧ find? l.pieces doc = some n := by
  unfold findLandmarks
  rw [List.mem_mergeSort, List.mem_filterMap]
  constructor
  · rintro ⟨l, hl, hfound⟩
    obtain ⟨k, hk, heq⟩ := Option.map_eq_some_iff.mp hfound
    cases heq
    exact ⟨l, hl, rfl, hk⟩
  · rintro ⟨l, hl, rfl, hfound⟩
    exact ⟨l, hl, by rw [hfound]; rfl⟩

theorem pairwise_findLandmarks (ls : List Landmark) (doc : Text) :
    (findLandmarks ls doc).Pairwise fun x y => x.1 ≤ y.1 :=
  pairwise_mergeSort_key _ _

namespace Rules

variable {r : Rules} {doc : Text}

/-- **Nothing is out of order exactly if the landmarks that have a place ascend.** -/
theorem orderIssues_eq_nil_iff :
    r.orderIssues doc = []
      ↔ (findLandmarks r.landmarks doc).Pairwise fun x y =>
          ∀ k, r.expectedOrder.idxOf? x.2 = some k →
            ∀ l, r.expectedOrder.idxOf? y.2 = some l → k ≤ l := by
  unfold orderIssues
  rw [List.map_eq_nil_iff, descents_eq_nil_iff, List.filterMap_map, List.isChain_iff_pairwise]
  exact List.pairwise_filterMap

/-- It is enough that of any two landmarks that are found, the places ascend from left to right. -/
theorem orderIssues_eq_nil
    (h : ∀ la ∈ r.landmarks, ∀ i, find? la.pieces doc = some i →
      ∀ lb ∈ r.landmarks, ∀ j, find? lb.pieces doc = some j → i ≤ j →
      ∀ k, r.expectedOrder.idxOf? la.name = some k →
        ∀ l, r.expectedOrder.idxOf? lb.name = some l → k ≤ l) : r.orderIssues doc = [] := by
  refine orderIssues_eq_nil_iff.mpr ((pairwise_findLandmarks r.landmarks doc).imp_of_mem ?_)
  rintro ⟨i, a⟩ ⟨j, b⟩ ha hb hij k hk l hl
  obtain ⟨la, hla, rfl, hi⟩ := mem_findLandmarks.mp ha
  obtain ⟨lb, hlb, rfl, hj⟩ := mem_findLandmarks.mp hb
  exact h la hla i hi lb hlb j hj hij k hk l hl

/-- Two landmarks that have places stand in the order of their places, if nothing is out of order. -/
theorem place_le_of_orderIssues (h : r.orderIssues doc = []) {i j : Nat} {a b : String}
    (ha : (i, a) ∈ findLandmarks r.landmarks doc) (hb : (j, b) ∈ findLandmarks r.landmarks doc)
    (hij : i < j) {k l : Nat} (hk : r.expectedOrder.idxOf? a = some k)
    (hl : r.expectedOrder.idxOf? b = some l) : k ≤ l := by
  -- Made symmetric, what holds of each two neighbours holds of any two different landmarks.
  let InOrder (x y : Nat × String) : Prop :=
    x.1 ≤ y.1 ∧ ∀ k, r.expectedOrder.idxOf? x.2 = some k →
      ∀ l, r.expectedOrder.idxOf? y.2 = some l → k ≤ l
  have hboth : (findLandmarks r.landmarks doc).Pairwise fun x y => InOrder x y ∨ InOrder y x :=
    ((pairwise_findLandmarks r.landmarks doc).and (orderIssues_eq_nil_iff.mp h)).imp .inl
  have hsymm : Std.Symm fun x y => InOrder x y ∨ InOrder y x := ⟨fun _ _ => Or.symm⟩
  have hne : (i, a) ≠ (j, b) := fun heq => hij.ne (congrArg Prod.fst heq)
  rcases hboth.forall ha hb hne with hfirst | hsecond
  · exact hfirst.2 k hk l hl
  · exact absurd hij (Nat.not_lt.mpr hsecond.1)

/-! ## §3. Places. -/

theorem mem_ordered {s : Section} : s ∈ r.ordered ↔ s ∈ r.sections ∧ s.order.isSome = true := by
  unfold ordered
  rw [List.mem_mergeSort, List.mem_filter]

theorem pairwise_ordered (r : Rules) :
    r.ordered.Pairwise fun a b => a.order.getD 0 ≤ b.order.getD 0 :=
  pairwise_mergeSort_key _ _

theorem exists_idxOf?_lt {xs ys : List String} {x y : String} (hx : x ∈ xs) (hy : y ∉ xs)
    (hy' : y ∈ ys) :
    ∃ k l, (xs ++ ys).idxOf? x = some k ∧ (xs ++ ys).idxOf? y = some l ∧ k < l := by
  have hplace : ∀ {z : String} {zs : List String}, z ∈ zs → ∃ k < zs.length, zs.idxOf? z = some k := by
    intro z zs hz
    have hsome : (zs.idxOf? z).isSome = true := by simpa using hz
    obtain ⟨k, hk⟩ := Option.isSome_iff_exists.mp hsome
    exact ⟨k, (List.findIdx?_eq_some_iff_getElem.mp hk).1, hk⟩
  obtain ⟨k, hk, hfound⟩ := hplace hx
  obtain ⟨l, -, hfound'⟩ := hplace hy'
  have hnone : xs.idxOf? y = none := by simpa using hy
  unfold List.idxOf? at *
  rw [List.findIdx?_append, List.findIdx?_append, hfound, hfound', hnone]
  exact ⟨k, l + xs.length, rfl, rfl, by omega⟩

/-- **A section with a smaller order has a smaller place**, unless one up to it has the title of the
other. -/
theorem exists_places_lt {a b : Section} {m n : Int} (ha : a ∈ r.sections) (hb : b ∈ r.sections)
    (hm : a.order = some m) (hn : b.order = some n) (hmn : m < n)
    (htitle : ∀ s ∈ r.sections, s ≠ b → ∀ k ≤ m, s.order = some k → titled s.name ≠ titled b.name) :
    ∃ k l, r.expectedOrder.idxOf? (titled a.name) = some k ∧
      r.expectedOrder.idxOf? (titled b.name) = some l ∧ k < l := by
  have haordered : a ∈ r.ordered := mem_ordered.mpr ⟨ha, by rw [hm]; rfl⟩
  have hbordered : b ∈ r.ordered := mem_ordered.mpr ⟨hb, by rw [hn]; rfl⟩
  obtain ⟨front, rest, hcut⟩ : ∃ front rest, r.ordered = (front ++ [a]) ++ rest := by
    obtain ⟨front, rest, hcut⟩ := List.append_of_mem haordered
    exact ⟨front, rest, by simpa using hcut⟩
  have hsorted := pairwise_ordered r
  rw [hcut, List.pairwise_append] at hsorted
  -- ===== the sections up to `a` have no greater order =====
  have hupto : ∀ s ∈ front ++ [a], s ∈ r.sections ∧ ∃ k ≤ m, s.order = some k := by
    intro s hs
    have hsordered : s ∈ r.ordered := by rw [hcut]; exact List.mem_append_left _ hs
    obtain ⟨hmem, hsome⟩ := mem_ordered.mp hsordered
    obtain ⟨k, hk⟩ := Option.isSome_iff_exists.mp hsome
    refine ⟨hmem, k, ?_, hk⟩
    rcases List.mem_append.mp hs with hs | hs
    · have hle := (List.pairwise_append.mp hsorted.1).2.2 s hs a (by simp)
      simpa [hk, hm] using hle
    · rw [List.mem_singleton.mp hs, hm] at hk
      exact Int.le_of_eq (Option.some.inj hk).symm
  have hnot : titled b.name ∉ (front ++ [a]).map (titled ·.name) := by
    intro hmem
    obtain ⟨s, hs, heq⟩ := List.mem_map.mp hmem
    obtain ⟨hs', k, hk, horder⟩ := hupto s hs
    have hsb : s ≠ b := by
      rintro rfl
      rw [hn] at horder
      cases horder
      omega
    exact htitle s hs' hsb k hk horder heq
  -- ===== so `b` comes behind them, and with it its title =====
  have hrest : b ∈ rest := by
    rw [hcut, List.mem_append] at hbordered
    refine hbordered.resolve_left fun hmem => ?_
    exact hnot (List.mem_map.mpr ⟨b, hmem, rfl⟩)
  unfold expectedOrder
  rw [hcut, List.map_append, List.append_assoc]
  refine exists_idxOf?_lt ?_ hnot (List.mem_append_left _ (List.mem_map.mpr ⟨b, hrest, rfl⟩))
  exact List.mem_map.mpr ⟨a, by simp, rfl⟩

end Rules

theorem ordered_defaultRules : defaultRules.ordered = defaultSections :=
  List.mergeSort_of_pairwise (by decide)

/-! ## §4. Headers. -/

namespace Section

/-- The header of a section as it is configured, at a place of a docstring: free text under an admonition by
the mark, the word and the title in quotes, any other section by a line with its title and a colon. -/
inductive HeadedAt (s : Section) (doc : Text) : Nat → Text → Prop where
  /-- An admonition, with blanks between its parts. -/
  | callout {marker admonition : String} {before gap gap' after header : Text} :
      s.kind = .freeText → s.callout? = some (marker, admonition) →
      gap ≠ [] → gap' ≠ [] → (∀ c ∈ gap ++ gap', isSpace c = true) →
      header = marker.toList ++ (gap ++ (admonition.toList ++ (gap' ++
        ('"' :: ((titled s.name).toList ++ ['"']))))) →
      doc = before ++ (header ++ after) → HeadedAt s doc before.length header
  /-- A line, with blanks and tabs around the title. -/
  | line {before margin tail after header : Text} :
      (s.kind = .freeText → s.callout? = none) → header = (titled s.name).toList ++ [':'] →
      (before = [] ∨ before.getLast? = some '\n') → (∀ c ∈ margin ++ tail, c = ' ' ∨ c = '\t') →
      (after = [] ∨ after.head? = some '\n') →
      doc = (before ++ margin) ++ (header ++ (tail ++ after)) →
      HeadedAt s doc (before ++ margin).length header

/-- A header by which the order of a section is checked: the landmark of the section goes by the title that
the expected order has, or the header is a common one under that title. -/
def IsSeen (s : Section) (header : Text) : Prop :=
  (∃ l, s.landmark? = some l ∧ l.name = titled s.name) ∨
    (String.ofList header, titled s.name) ∈ commonHeaders

variable {s : Section} {doc header : Text} {n : Nat}

theorem HeadedAt.drop_eq (h : s.HeadedAt doc n header) :
    n ≤ doc.length ∧ ∃ after, doc.drop n = header ++ after := by
  cases h with
  | callout _ _ _ _ _ _ hdoc =>
    rw [hdoc]
    exact ⟨by simp, _, List.drop_left⟩
  | line _ _ _ _ _ hdoc =>
    rw [hdoc]
    exact ⟨by simp, _, List.drop_left⟩

theorem landmark?_callout {marker admonition : String} (hkind : s.kind = .freeText)
    (hcallout : s.callout? = some (marker, admonition)) :
    s.landmark? = some ⟨endTitlePieces marker admonition s.name, s.name⟩ := by
  simp [landmark?, hkind, hcallout]

theorem landmark?_line (hline : s.kind = .freeText → s.callout? = none) :
    s.landmark? = (fixedHeadings.find? fun h => h.1.any (Text.lowered s.name == ·.toList)).map
      fun h => ⟨[.letters (h.2 ++ ":").toList], h.2⟩ := by
  unfold landmark?
  cases hkind : s.kind with
  | freeText => simp [hline hkind]
  | _ => rfl

/-- A landmark that goes by the title of its section matches the header of the section. -/
theorem HeadedAt.matchesAt_landmark (h : s.HeadedAt doc n header) {l : Landmark}
    (hl : s.landmark? = some l) (hname : l.name = titled s.name) (after : Text) :
    matchesAt l.pieces (header ++ after) = true := by
  cases h with
  | @callout marker admonition _ gap gap' _ _ hkind hcallout hgap hgap' hblank hheader _ =>
    rw [landmark?_callout hkind hcallout] at hl
    cases hl
    -- one part of the header for each piece of the landmark
    have hparts : header ++ after = marker.toList ++ (gap ++ (admonition.toList ++ (gap' ++
        (['"'] ++ ([] ++ ((s.name.toList ++ ['"']) ++ after)))))) := by
      simp [hheader, ← hname]
    rw [hparts]
    refine Text.matchesAt_letters (Text.sameLetters_refl _) ?_
    refine Text.matchesAt_some hgap (fun c hc => hblank c (List.mem_append_left _ hc)) ?_
    refine Text.matchesAt_letters (Text.sameLetters_refl _) ?_
    refine Text.matchesAt_some hgap' (fun c hc => hblank c (List.mem_append_right _ hc)) ?_
    refine Text.matchesAt_letters (Text.sameLetters_refl _) ?_
    refine Text.matchesAt_any (by simp) ?_
    exact Text.matchesAt_letters (Text.sameLetters_refl _) rfl
  | line hline hheader _ _ _ _ =>
    rw [landmark?_line hline, Option.map_eq_some_iff] at hl
    obtain ⟨heading, -, rfl⟩ := hl
    rw [hheader, ← hname]
    refine Text.matchesAt_letters ?_ rfl
    simpa using Text.sameLetters_refl _

/-- **A header that is seen is matched by a landmark under the title of its section.** -/
theorem HeadedAt.exists_landmark (h : s.HeadedAt doc n header) (hseen : s.IsSeen header) {r : Rules}
    (hs : s ∈ r.sections) (horder : s.order.isSome = true) :
    ∃ l ∈ r.landmarks, l.name = titled s.name ∧ matchesAt l.pieces (doc.drop n) = true := by
  obtain ⟨-, after, hdrop⟩ := h.drop_eq
  rw [hdrop]
  unfold Rules.landmarks
  rcases hseen with ⟨l, hl, hname⟩ | hcommon
  · refine ⟨l, List.mem_append_left _ (List.mem_filterMap.mpr ⟨s, ?_, hl⟩), hname,
      h.matchesAt_landmark hl hname after⟩
    exact List.mem_append_left _ (Rules.mem_ordered.mpr ⟨hs, horder⟩)
  · refine ⟨_, List.mem_append_right _ (List.mem_map.mpr ⟨_, hcommon, rfl⟩), rfl, ?_⟩
    refine Text.matchesAt_letters ?_ rfl
    simpa using Text.sameLetters_refl header

end Section

/-! ## §5. Sections in the wrong order. -/

/-- **Of two sections whose headers are seen, the one with the greater order cannot stand first.** Let `a`
have a smaller order than `b`, and let the header of `b` stand first, with nothing up to it that is taken for
`a`. Then the order of the docstring has an issue, if both headers are seen and no other section up to `a`
in the order has the title of `b`. -/
theorem orderIssues_of_reversed (r : Rules) (doc : Text) (a b : Section) (m n : Int) (i j : Nat)
    (headerA headerB : Text) (ha : a ∈ r.sections) (hb : b ∈ r.sections) (hm : a.order = some m)
    (hn : b.order = some n) (hmn : m < n) (hheadA : a.HeadedAt doc i headerA)
    (hheadB : b.HeadedAt doc j headerB) (hseenA : a.IsSeen headerA) (hseenB : b.IsSeen headerB)
    (hfirst : ∀ l ∈ r.landmarks, l.name = titled a.name →
      ∀ k ≤ j, matchesAt l.pieces (doc.drop k) = false)
    (htitle : ∀ s ∈ r.sections, s ≠ b → ∀ k ≤ m, s.order = some k → titled s.name ≠ titled b.name) :
    r.orderIssues doc ≠ [] := by
  intro hnone
  obtain ⟨la, hla, hnameA, hmatchA⟩ := hheadA.exists_landmark hseenA ha (by rw [hm]; rfl)
  obtain ⟨lb, hlb, hnameB, hmatchB⟩ := hheadB.exists_landmark hseenB hb (by rw [hn]; rfl)
  obtain ⟨i', -, hfoundA⟩ := Text.exists_find?_le hheadA.drop_eq.1 hmatchA
  obtain ⟨j', hj', hfoundB⟩ := Text.exists_find?_le hheadB.drop_eq.1 hmatchB
  -- the landmark of `a` is found behind the header of `b`
  have hi' : j < i' := by
    by_contra hle
    have hmatch := (Text.find?_eq_some_iff.mp hfoundA).2.1
    rw [hfirst la hla hnameA i' (Nat.not_lt.mp hle)] at hmatch
    cases hmatch
  obtain ⟨k, l, hk, hl, hkl⟩ := Rules.exists_places_lt ha hb hm hn hmn htitle
  have hle := Rules.place_le_of_orderIssues hnone (mem_findLandmarks.mpr ⟨lb, hlb, hnameB, hfoundB⟩)
    (mem_findLandmarks.mpr ⟨la, hla, hnameA, hfoundA⟩) (hj'.trans_lt hi') hl hk
  omega

/-- A docstring whose parameters stand before its summary. -/
def paramsFirst : Text :=
  "Params:\n    x (int):\n        X.\n\n!!! note \"Summary\"\n    S.".toList

theorem orderIssues_of_reversed_params :
    defaultSections[0].HeadedAt paramsFirst 33 "!!! note \"Summary\"".toList ∧
    defaultSections[2].HeadedAt paramsFirst 0 "Params:".toList ∧
    defaultRules.orderIssues paramsFirst ≠ [] := by
  have hsummary : defaultSections[0].HeadedAt paramsFirst 33 "!!! note \"Summary\"".toList :=
    @Section.HeadedAt.callout _ _ "!!!" "note" (paramsFirst.take 33) [' '] [' '] "\n    S.".toList _
      rfl rfl (by decide) (by decide) (List.all_eq_true.mp rfl) (by decide) (by decide)
  have hparams : defaultSections[2].HeadedAt paramsFirst 0 "Params:".toList :=
    @Section.HeadedAt.line _ _ [] [] [] (paramsFirst.drop 7) _
      (by decide) (by decide) (.inl rfl) (by simp) (.inr rfl) (by decide)
  have hfirst : ∀ l ∈ defaultRules.landmarks, l.name = titled defaultSections[0].name →
      ∀ k ≤ 0, matchesAt l.pieces (paramsFirst.drop k) = false := by
    unfold Rules.landmarks
    rw [ordered_defaultRules]
    decide
  have htitle : ∀ s ∈ defaultRules.sections, s ≠ defaultSections[2] →
      titled s.name ≠ titled defaultSections[2].name := by decide
  refine ⟨hsummary, hparams, ?_⟩
  exact orderIssues_of_reversed defaultRules paramsFirst defaultSections[0] defaultSections[2] 1 3 33 0
    _ _ (by decide) (by decide) rfl rfl (by decide) hsummary hparams (.inr (by decide))
    (.inl ⟨_, rfl, by decide⟩) hfirst fun s hs hne _ _ _ => htitle s hs hne

/-- A docstring whose details stand before its summary. -/
def detailsFirst : Text :=
  "???+ info \"Details\"\n    D.\n\n!!! note \"Summary\"\n    S.".toList

/-- The details of the default rules go by a landmark in lower case, which has no place: they may stand
before the summary, although both headers are as configured and the summary has the smaller order. -/
theorem orderIssues_details_first :
    defaultSections[0].order = some 1 ∧ defaultSections[1].order = some 2 ∧
    defaultSections[0].HeadedAt detailsFirst 28 "!!! note \"Summary\"".toList ∧
    defaultSections[1].HeadedAt detailsFirst 0 "???+ info \"Details\"".toList ∧
    defaultSections[0].presentIn detailsFirst = true ∧
    defaultSections[1].presentIn detailsFirst = true ∧
    defaultRules.orderIssues detailsFirst = [] := by
  refine ⟨rfl, rfl, ?_, ?_, by decide, by decide, ?_⟩
  · exact @Section.HeadedAt.callout _ _ "!!!" "note" (detailsFirst.take 28) [' '] [' ']
      "\n    S.".toList _ rfl rfl (by decide) (by decide) (List.all_eq_true.mp rfl) (by decide)
      (by decide)
  · exact @Section.HeadedAt.callout _ _ "???+" "info" [] [' '] [' '] (detailsFirst.drop 19) _
      rfl rfl (by decide) (by decide) (List.all_eq_true.mp rfl) (by decide) (by decide)
  · -- every landmark that is found and has a place has the first one
    have hplace : ∀ l ∈ defaultRules.landmarks, (find? l.pieces detailsFirst).isSome = true →
        ∀ k ∈ defaultRules.expectedOrder.idxOf? l.name, k = 0 := by
      unfold Rules.landmarks Rules.expectedOrder
      rw [ordered_defaultRules]
      decide +kernel
    refine Rules.orderIssues_eq_nil fun la hla i hi lb hlb j hj _ k hk l hl => ?_
    rw [hplace la hla (by rw [hi]; rfl) k hk]
    exact Nat.zero_le l

end DocLint
