import DocLint.Proofs.Check.Order
import DocLint.Proofs.Text.Class
import DocLint.Proofs.Text.Lines

/-!
DocLint.Proofs.Check.Heading: headings and prose that mentions them.

Some sections are headed by a line with a fixed title and a colon. Three checks look for it: that a section is there
asks for a line of its own, the order takes the title and its colon anywhere, and that values are returned and yielded
takes them anywhere as they are spelled. Main result: `heading_found_iff`, what the other two find beyond the first is
prose that mentions the heading.
-/

namespace DocLint

open Text (SameLetters findsLine lines lowered)

/-! ## §1. Lines with a title and a colon. -/

/-- A line that consists of a title and a colon, up to case, with blanks and tabs around them. -/
def IsHeading (title line : Text) : Prop :=
  ∃ margin word tail, line = margin ++ (word ++ tail) ∧ SameLetters (title ++ [':']) word ∧
    ∀ c ∈ margin ++ tail, c = ' ' ∨ c = '\t'

/-- A line that mentions a title with a colon, up to case. -/
def Mentions (title line : Text) : Prop :=
  ∃ word, SameLetters (title ++ [':']) word ∧ word <:+: line

/-- A line of prose that mentions a title with a colon. -/
def InProse (title line : Text) : Prop :=
  Mentions title line ∧ ¬ IsHeading title line

theorem IsHeading.mentions {title line : Text} (h : IsHeading title line) : Mentions title line := by
  obtain ⟨margin, word, tail, rfl, hword, -⟩ := h
  exact ⟨word, hword, margin, tail, List.append_assoc _ _ _⟩

theorem mentions_iff {title line : Text} : Mentions title line ↔ IsHeading title line ∨ InProse title line := by
  constructor
  · intro h
    by_cases hheading : IsHeading title line
    · exact .inl hheading
    · exact .inr ⟨h, hheading⟩
  · rintro (h | h)
    · exact h.mentions
    · exact h.1

/-- The pieces of a line fit a heading up to the end of its line. -/
theorem fits_linePieces_iff {title cs : Text} :
    Text.Fits (Section.linePieces title) cs ↔
      ∃ line below, cs = line ++ below ∧ IsHeading title line ∧ Text.StartsBreak below := by
  have hblank : ∀ {c : Char}, (c == ' ' || c == '\t') = true ↔ c = ' ' ∨ c = '\t' := by simp
  unfold Section.linePieces
  constructor
  · intro h
    -- one part of the line for each piece
    cases h with
    | @any _ margin _ _ hmargin h =>
    cases h with
    | @letters _ name _ _ hname h =>
    cases h with
    | @letters _ colon _ _ hcolon h =>
    cases h with
    | @any _ tail below _ htail h =>
    cases h with
    | lineEnd hends _ =>
    refine ⟨margin ++ ((name ++ colon) ++ tail), below, by simp, ⟨margin, name ++ colon, tail, rfl, ?_, ?_⟩, hends⟩
    · exact Text.sameLetters_append_iff.mpr ⟨name, colon, rfl, hname, hcolon⟩
    · intro c hc
      exact hblank.mp ((List.mem_append.mp hc).elim (hmargin c) (htail c))
  · rintro ⟨-, below, rfl, ⟨margin, word, tail, rfl, hword, hblanks⟩, hends⟩
    obtain ⟨name, colon, rfl, hname, hcolon⟩ := Text.sameLetters_append_iff.mp hword
    have hcut : margin ++ (name ++ colon ++ tail) ++ below = margin ++ (name ++ (colon ++ (tail ++ below))) := by simp
    rw [hcut]
    refine .any (fun c hc => hblank.mpr (hblanks c (List.mem_append_left _ hc))) ?_
    refine .letters hname (.letters hcolon ?_)
    refine .any (fun c hc => hblank.mpr (hblanks c (List.mem_append_right _ hc))) ?_
    exact .lineEnd hends (.nil below)

/-- A heading that stands in a docstring, from the start of a line up to the end of one. -/
def HeadedBy (title doc : Text) : Prop :=
  ∃ above line below, doc = above ++ (line ++ below) ∧ Text.EndsLine above ∧ IsHeading title line ∧
    Text.StartsBreak below

theorem findsLine_iff_headedBy {title doc : Text} :
    findsLine (Section.linePieces title) doc = true ↔ HeadedBy title doc := by
  unfold findsLine
  rw [List.any_eq_true]
  constructor
  · rintro ⟨rest, hrest, hmatch⟩
    obtain ⟨above, rfl, hstarts⟩ := Text.mem_lineStarts_iff.mp hrest
    obtain ⟨line, below, rfl, hheading, hends⟩ := fits_linePieces_iff.mp (Text.matchesAt_iff_fits.mp hmatch)
    exact ⟨above, line, below, rfl, hstarts, hheading, hends⟩
  · rintro ⟨above, line, below, rfl, hstarts, hheading, hends⟩
    refine ⟨line ++ below, Text.mem_lineStarts_iff.mpr ⟨above, rfl, hstarts⟩, ?_⟩
    exact Text.matchesAt_iff_fits.mpr (fits_linePieces_iff.mpr ⟨line, below, rfl, hheading, hends⟩)

section Recognisers

variable {doc title : Text} (htitle : '\n' ∉ title)

include htitle

theorem newline_of_sameLetters {word : Text} (h : SameLetters (title ++ [':']) word) : '\n' ∉ word := by
  intro hmem
  have hpat := h.mem_of_isSign (by decide) hmem
  rcases List.mem_append.mp hpat with hpat | hpat
  · exact htitle hpat
  · exact absurd hpat (by decide)

/-- **A search for a title and its colon finds them exactly in a line that mentions them.** -/
theorem fitsIn_title_iff :
    Text.FitsIn [.letters (title ++ [':'])] doc ↔ ∃ line ∈ lines doc, Mentions title line := by
  rw [Text.fitsIn_letters_iff]
  constructor
  · rintro ⟨word, hword, hinfix⟩
    obtain ⟨line, hline, hinfix⟩ := (Text.infix_iff_exists_line (newline_of_sameLetters htitle hword)).mp hinfix
    exact ⟨line, hline, word, hword, hinfix⟩
  · rintro ⟨line, hline, word, hword, hinfix⟩
    exact ⟨word, hword,
      (Text.infix_iff_exists_line (newline_of_sameLetters htitle hword)).mpr ⟨line, hline, hinfix⟩⟩

theorem IsHeading.solid {line : Text} (h : IsHeading title line) : '\n' ∉ line := by
  obtain ⟨margin, word, tail, rfl, hword, hblank⟩ := h
  intro hmem
  simp only [List.mem_append] at hmem
  rcases hmem with hmem | hmem | hmem
  · exact absurd (hblank _ (List.mem_append_left _ hmem)) (by decide)
  · exact newline_of_sameLetters htitle hword hmem
  · exact absurd (hblank _ (List.mem_append_right _ hmem)) (by decide)

/-- **A search at the starts of lines finds exactly the lines that are headings.** -/
theorem findsLine_linePieces_iff :
    findsLine (Section.linePieces title) doc = true ↔ ∃ line ∈ lines doc, IsHeading title line := by
  rw [findsLine_iff_headedBy]
  constructor
  · rintro ⟨above, line, below, rfl, hstarts, hheading, hends⟩
    have hline : Text.IsLine (above ++ (line ++ below)) above line below :=
      ⟨rfl, hstarts, hheading.solid htitle, hends⟩
    exact ⟨line, hline.mem_lines, hheading⟩
  · rintro ⟨line, hline, hheading⟩
    obtain ⟨above, below, hline⟩ := Text.mem_lines_iff.mp hline
    exact ⟨above, line, below, hline.cut, hline.starts, hheading, hline.ends⟩

end Recognisers

/-! ## §2. The landmark of a heading. -/

/-- The names of the landmarks that are found are those of the landmarks that fit somewhere. -/
theorem mem_names_findLandmarks {ls : List Landmark} {doc : Text} {name : String} :
    name ∈ (findLandmarks ls doc).map (·.2) ↔ ∃ l ∈ ls, l.name = name ∧ Text.FitsIn l.pieces doc := by
  simp only [List.mem_map, Prod.exists, exists_eq_right, mem_findLandmarks, ← Text.isSome_find?_iff,
    Option.isSome_iff_exists]
  constructor
  · rintro ⟨n, l, hl, hname, hfound⟩
    exact ⟨l, hl, hname, n, hfound⟩
  · rintro ⟨l, hl, hname, n, hfound⟩
    exact ⟨n, l, hl, hname, hfound⟩

/-- A section that a heading is for: it has one of its names. -/
def Section.HasHeading (s : Section) (h : List String × String) : Prop :=
  ∃ name ∈ h.1, lowered s.name = name.toList

instance (s : Section) (h : List String × String) : Decidable (s.HasHeading h) :=
  inferInstanceAs (Decidable (∃ name ∈ h.1, lowered s.name = name.toList))

/-- The landmark of a heading: its title and a colon, anywhere. -/
def headingLandmark (title : String) : Landmark :=
  ⟨[.letters (title.toList ++ [':'])], title⟩

section Headings

variable {h : List String × String} (hh : h ∈ fixedHeadings)

include hh

/-- A section has at most one heading, as no two of them have a name in common. -/
theorem find?_fixedHeadings {s : Section} :
    (fixedHeadings.find? fun h => h.1.any (lowered s.name == ·.toList)) = some h ↔ s.HasHeading h := by
  have hiff : ∀ g : List String × String, g.1.any (lowered s.name == ·.toList) = true ↔ s.HasHeading g := by
    intro g
    simp [Section.HasHeading]
  constructor
  · intro hfound
    have hnames := List.find?_some hfound
    exact (hiff h).mp hnames
  · intro hs
    have hsome : (fixedHeadings.find? fun h => h.1.any (lowered s.name == ·.toList)).isSome = true :=
      List.find?_isSome.mpr ⟨h, hh, (hiff h).mpr hs⟩
    obtain ⟨g, hg⟩ := Option.isSome_iff_exists.mp hsome
    -- the first heading with a name of the section shares this name with `h`
    have hnames := List.find?_some hg
    obtain ⟨name, hname, heq⟩ := hs
    obtain ⟨name', hname', heq'⟩ := (hiff g).mp hnames
    have hshared : name' = name := String.toList_inj.mp (heq'.symm.trans heq)
    have hapart : ∀ a ∈ fixedHeadings, ∀ b ∈ fixedHeadings, ∀ x ∈ a.1, x ∈ b.1 → a = b := by decide
    rw [hg, hapart g (List.mem_of_find?_eq_some hg) h hh name' hname' (hshared ▸ hname)]

theorem newline_of_fixedHeadings : '\n' ∉ h.2.toList := by
  revert h
  decide

theorem newline_of_lowered : '\n' ∉ lowered h.2 := by
  revert h
  decide

/-- The heading in lower case is the same up to case. -/
theorem isHeading_lowered {line : Text} : IsHeading (lowered h.2) line ↔ IsHeading h.2.toList line := by
  have hcase : ∀ g ∈ fixedHeadings,
      (lowered g.2 ++ [':']).map Text.lowerChar = (g.2.toList ++ [':']).map Text.lowerChar := by decide
  unfold IsHeading
  simp only [Text.sameLetters_congr (hcase h hh)]

theorem landmark?_of_hasHeading {s : Section} (hs : s.HasHeading h) (hplain : s.admonition = none) :
    s.landmark? = some (headingLandmark h.2) := by
  have hcallout : s.callout? = none := by
    unfold Section.callout?
    rw [hplain]
  rw [Section.landmark?_line fun _ => hcallout, (find?_fixedHeadings hh).mpr hs]
  simp [headingLandmark]

/-- A landmark under the title of a heading comes from a section with a name of this heading. -/
theorem hasHeading_of_landmark? {s : Section} {l : Landmark} (hl : s.landmark? = some l) (hname : l.name = h.2) :
    s.HasHeading h := by
  by_cases hcallout : s.kind = .freeText ∧ s.callout?.isSome = true
  · -- by an admonition, under the name of the section
    obtain ⟨hkind, hsome⟩ := hcallout
    obtain ⟨⟨marker, admonition⟩, hcallout⟩ := Option.isSome_iff_exists.mp hsome
    rw [Section.landmark?_callout hkind hcallout, Option.some.injEq] at hl
    have htitle : s.name = h.2 := by rw [← hname, ← hl]
    have hown : ∀ g ∈ fixedHeadings, ∃ name ∈ g.1, lowered g.2 = name.toList := by decide
    unfold Section.HasHeading
    rw [htitle]
    exact hown h hh
  · -- by a heading, under the title of it
    have hline : s.kind = .freeText → s.callout? = none := fun hkind => by simpa [hkind] using hcallout
    rw [Section.landmark?_line hline, Option.map_eq_some_iff] at hl
    obtain ⟨g, hg, rfl⟩ := hl
    have htitles : ∀ a ∈ fixedHeadings, ∀ b ∈ fixedHeadings, a.2 = b.2 → a = b := by decide
    obtain rfl := htitles g (List.mem_of_find?_eq_some hg) h hh hname
    exact (find?_fixedHeadings hh).mp hg

/-- **The landmarks under the title of a heading** are those of its sections, if these have no admonition. -/
theorem mem_landmarks_title {r : Rules} (hplain : ∀ s ∈ r.sections, s.HasHeading h → s.admonition = none)
    {l : Landmark} :
    l ∈ r.landmarks ∧ l.name = h.2 ↔ l = headingLandmark h.2 ∧ ∃ s ∈ r.sections, s.HasHeading h := by
  have hsections : ∀ s, s ∈ r.ordered ++ r.floating ↔ s ∈ r.sections := by
    intro s
    rw [List.mem_append, Rules.mem_ordered, Rules.floating, List.mem_filter, ← and_or_left]
    cases s.order <;> simp
  unfold Rules.landmarks
  constructor
  · rintro ⟨hl, hname⟩
    rcases List.mem_append.mp hl with hl | hl
    · obtain ⟨s, hs, hlandmark⟩ := List.mem_filterMap.mp hl
      have hs := (hsections s).mp hs
      have hheading := hasHeading_of_landmark? hh hlandmark hname
      rw [landmark?_of_hasHeading hh hheading (hplain s hs hheading)] at hlandmark
      exact ⟨(Option.some.inj hlandmark).symm, s, hs, hheading⟩
    · -- no common header has the title of a heading
      obtain ⟨common, hcommon, rfl⟩ := List.mem_map.mp hl
      have hnone : ∀ g ∈ fixedHeadings, ∀ c ∈ commonHeaders, c.2 ≠ g.2 := by decide
      exact absurd hname (hnone h hh common hcommon)
  · rintro ⟨rfl, s, hs, hheading⟩
    refine ⟨List.mem_append_left _ (List.mem_filterMap.mpr ⟨s, (hsections s).mpr hs, ?_⟩), rfl⟩
    exact landmark?_of_hasHeading hh hheading (hplain s hs hheading)

end Headings

/-! ## §3. What is found beyond the headings. -/

/-- **What the checks find beyond headings is prose that mentions them.** Let no section with a fixed heading have an
admonition. Then the order takes the section for found exactly if it has one by this heading, and a line is the heading
or a line of prose mentions it; a docstring returns and yields exactly if lines hold both titles with their colons as
they are spelled, and each of these is a heading or prose. -/
theorem heading_found_iff (r : Rules) (doc : Text) (h : List String × String) (hh : h ∈ fixedHeadings)
    (hplain : ∀ s ∈ r.sections, s.HasHeading h → s.admonition = none) :
    (findsLine (Section.linePieces (lowered h.2)) doc = true ↔ ∃ line ∈ lines doc, IsHeading h.2.toList line) ∧
    (h.2 ∈ (findLandmarks r.landmarks doc).map (·.2) ↔
      (∃ s ∈ r.sections, s.HasHeading h) ∧
        ∃ line ∈ lines doc, IsHeading h.2.toList line ∨ InProse h.2.toList line) ∧
    (returnsAndYields doc = true ↔
      ∀ title ∈ ["Returns", "Yields"], ∃ line ∈ lines doc, title.toList ++ [':'] <:+: line) ∧
    (h.2 ∈ ["Returns", "Yields"] → returnsAndYields doc = true →
      ∃ line ∈ lines doc, IsHeading h.2.toList line ∨ InProse h.2.toList line) := by
  have htitle := newline_of_fixedHeadings hh
  have hreturns : returnsAndYields doc = true ↔
      ∀ title ∈ ["Returns", "Yields"], ∃ line ∈ lines doc, title.toList ++ [':'] <:+: line := by
    unfold returnsAndYields
    rw [Bool.and_eq_true, Text.contains_iff, Text.contains_iff, Text.infix_iff_exists_line (by decide),
      Text.infix_iff_exists_line (by decide)]
    simp
  refine ⟨?_, ?_, hreturns, ?_⟩
  · rw [findsLine_linePieces_iff (newline_of_lowered hh)]
    simp only [isHeading_lowered hh]
  · simp only [mem_names_findLandmarks, ← mentions_iff, ← fitsIn_title_iff htitle]
    constructor
    · rintro ⟨l, hl, hname, hfits⟩
      obtain ⟨rfl, hsection⟩ := (mem_landmarks_title hh hplain).mp ⟨hl, hname⟩
      exact ⟨hsection, hfits⟩
    · rintro ⟨hsection, hfits⟩
      obtain ⟨hl, hname⟩ := (mem_landmarks_title hh hplain).mpr ⟨rfl, hsection⟩
      exact ⟨_, hl, hname, hfits⟩
  · intro hmem hboth
    obtain ⟨line, hline, hinfix⟩ := hreturns.mp hboth h.2 hmem
    exact ⟨line, hline, mentions_iff.mp ⟨_, Text.sameLetters_refl _, hinfix⟩⟩

/-- A docstring with a heading in capitals. -/
def capitalReturns : Text :=
  "!!! note \"Summary\"\n    S.\n\n  RETURNS:\n    (int):\n        The value.".toList

theorem heading_found_capitals :
    (∀ s ∈ defaultRules.sections, s.HasHeading (["returns", "return"], "Returns") → s.admonition = none) ∧
    "Returns" ∈ (findLandmarks defaultRules.landmarks capitalReturns).map (·.2) := by
  have hplain : ∀ s ∈ defaultRules.sections, s.HasHeading (["returns", "return"], "Returns") →
      s.admonition = none := by decide
  obtain ⟨hline, hfound, -, -⟩ :=
    heading_found_iff defaultRules capitalReturns (["returns", "return"], "Returns") (by decide) hplain
  obtain ⟨line, hmem, hheading⟩ := hline.mp (by decide)
  exact ⟨hplain, hfound.mpr ⟨by decide, line, hmem, .inl hheading⟩⟩

/-- A docstring whose only text is a summary that speaks of what is returned and what is yielded. -/
def wrapping : Text :=
  "!!! note \"Summary\"\n    Wraps f. Returns: what f returns. Yields: nothing.".toList

/-- **Prose is taken for sections**: no line is a heading for what is returned or yielded, and the sections of the
default rules have no admonition, but both are found, and the docstring counts as returning and yielding. -/
theorem prose_taken_for_sections :
    (∀ title ∈ ["Returns", "Yields"], ∀ line ∈ lines wrapping, ¬ IsHeading title.toList line) ∧
    (∀ h ∈ fixedHeadings, ∀ s ∈ defaultRules.sections, s.HasHeading h → s.admonition = none) ∧
    (∀ title ∈ ["Returns", "Yields"], title ∈ (findLandmarks defaultRules.landmarks wrapping).map (·.2)) ∧
    returnsAndYields wrapping = true := by
  have hplain : ∀ h ∈ fixedHeadings, ∀ s ∈ defaultRules.sections, s.HasHeading h → s.admonition = none := by decide
  have hfixed : ∀ title ∈ ["Returns", "Yields"], ∃ h ∈ fixedHeadings, h.2 = title ∧
      (∃ s ∈ defaultRules.sections, s.HasHeading h) ∧
      findsLine (Section.linePieces (lowered h.2)) wrapping = false ∧
      Text.FitsIn (headingLandmark h.2).pieces wrapping := by decide
  refine ⟨?_, hplain, ?_, by decide⟩
  · intro title htitle line hline hheading
    obtain ⟨h, hh, rfl, -, hnone, -⟩ := hfixed title htitle
    rw [← Bool.not_eq_true, findsLine_linePieces_iff (newline_of_lowered hh)] at hnone
    exact hnone ⟨line, hline, (isHeading_lowered hh).mpr hheading⟩
  · intro title htitle
    obtain ⟨h, hh, rfl, hsection, -, hfits⟩ := hfixed title htitle
    obtain ⟨hl, hname⟩ := (mem_landmarks_title hh (hplain h hh)).mpr ⟨rfl, hsection⟩
    exact mem_names_findLandmarks.mpr ⟨_, hl, hname, hfits⟩

end DocLint
