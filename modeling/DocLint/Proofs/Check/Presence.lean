import DocLint.Check.Docstring
import DocLint.Proofs.Check.Heading

/-!
DocLint.Proofs.Check.Presence: when a section with an admonition counts as present.

Free text is looked for by the mark and the word of its admonition and a title that holds its name. A section of
any other kind is looked for by the mark and the word alone, or by a heading. Main result: the docstring of a
section that is present holds the name of the section, unless the section is no free text and its mark and word
stand in the docstring; these are enough, under whatever title.
-/

namespace DocLint

open Text (isSpace SameLetters lowered Fits)

/-! ## §1. Parts of an admonition. -/

/-- The mark and the word of an admonition up to case, with blanks between them. -/
inductive IsCallout (marker admonition : String) : (header : Text) → Prop
  | mk (mark gap word : Text) (hmark : SameLetters marker.toList mark) (hgap : gap ≠ [])
      (hblank : ∀ c ∈ gap, isSpace c = true) (hword : SameLetters admonition.toList word) :
      IsCallout marker admonition (mark ++ (gap ++ word))

/-- Blanks and a title in quotes that holds a name up to case. -/
inductive IsTitleWith (name : String) : (title : Text) → Prop
  | mk (gap front word back : Text) (hgap : gap ≠ []) (hblank : ∀ c ∈ gap, isSpace c = true)
      (hfront : '"' ∉ front) (hword : SameLetters name.toList word) (hback : '"' ∉ back) :
      IsTitleWith name (gap ++ '"' :: (front ++ (word ++ (back ++ ['"']))))

section Pieces

variable {marker admonition name : String} {ps : List Text.Piece} {cs : Text}

theorem fits_calloutPieces_append_iff :
    Fits (Section.calloutPieces marker admonition ++ ps) cs ↔
      ∃ header rest, cs = header ++ rest ∧ IsCallout marker admonition header ∧ Fits ps rest := by
  constructor
  · intro h
    -- one part of the header for each piece
    cases h with
    | @letters _ mark _ _ hmark h =>
    cases h with
    | @some _ gap _ _ hgap hblank h =>
    cases h with
    | @letters _ word rest _ hword h =>
    exact ⟨_, rest, by simp, .mk mark gap word hmark hgap hblank hword, h⟩
  · intro h
    obtain ⟨-, rest, rfl, ⟨mark, gap, word, hmark, hgap, hblank, hword⟩, hrest⟩ := h
    rw [List.append_assoc, List.append_assoc]
    exact .letters hmark (.some hgap hblank (.letters hword hrest))

theorem fits_title_iff :
    Fits [.some isSpace, .letters ['"'], .any (· != '"'), .letters name.toList, .any (· != '"'), .letters ['"']] cs
      ↔ ∃ title rest, cs = title ++ rest ∧ IsTitleWith name title := by
  have hquote : ∀ {word : Text}, SameLetters ['"'] word ↔ word = ['"'] := Text.sameLetters_sign (by decide)
  have hinside : ∀ {part : Text}, (∀ c ∈ part, (c != '"') = true) ↔ '"' ∉ part := by
    intro part
    simp only [bne_iff_ne]
    constructor
    · intro h hmem
      exact h _ hmem rfl
    · intro h c hc heq
      exact h (heq ▸ hc)
  constructor
  · intro h
    -- one part of the title for each piece; case has no hold on quotes
    cases h with
    | @some _ gap _ _ hgap hblank h =>
    cases h with
    | letters hopen h =>
    cases h with
    | @any _ front _ _ hfront h =>
    cases h with
    | @letters _ word _ _ hword h =>
    cases h with
    | @any _ back _ _ hback h =>
    cases h with
    | @letters _ _ rest _ hclose h =>
    rw [hquote.mp hopen, hquote.mp hclose]
    exact ⟨_, rest, by simp, .mk gap front word back hgap hblank (hinside.mp hfront) hword (hinside.mp hback)⟩
  · intro h
    obtain ⟨-, rest, rfl, ⟨gap, front, word, back, hgap, hblank, hfront, hword, hback⟩⟩ := h
    have hcut : gap ++ '"' :: (front ++ (word ++ (back ++ ['"']))) ++ rest
        = gap ++ (['"'] ++ (front ++ (word ++ (back ++ (['"'] ++ rest))))) := by simp
    rw [hcut]
    refine .some hgap hblank (.letters (hquote.mpr rfl) (.any (hinside.mpr hfront) (.letters hword ?_)))
    exact .any (hinside.mpr hback) (.letters (hquote.mpr rfl) (.nil rest))

end Pieces

/-! ## §2. What a search finds. -/

/-- The mark and the word of an admonition stand in a docstring. -/
def CalledOut (marker admonition : String) (doc : Text) : Prop :=
  ∃ header, IsCallout marker admonition header ∧ header <:+: doc

/-- An admonition with a name in its title stands in a docstring. -/
def TitledIn (marker admonition name : String) (doc : Text) : Prop :=
  ∃ header title, IsCallout marker admonition header ∧ IsTitleWith name title ∧ header ++ title <:+: doc

/-- A docstring holds a name up to case, as it is spelled or in lower case. -/
def HoldsName (name : String) (doc : Text) : Prop :=
  ∃ word, (SameLetters name.toList word ∨ SameLetters (lowered name) word) ∧ word <:+: doc

section Searches

variable {marker admonition name : String} {doc : Text}

theorem finds_calloutPieces_iff :
    Text.finds (Section.calloutPieces marker admonition) doc = true ↔ CalledOut marker admonition doc := by
  rw [Text.finds_iff]
  refine Text.fitsIn_iff_infix fun cs => ?_
  have hparts := @fits_calloutPieces_append_iff marker admonition [] cs
  rw [List.append_nil] at hparts
  rw [hparts]
  simp only [Fits.nil, and_true]

theorem finds_titledPieces_iff :
    Text.finds (Section.titledPieces marker admonition name) doc = true ↔ TitledIn marker admonition name doc := by
  have hparts : ∀ cs, Fits (Section.titledPieces marker admonition name) cs ↔ ∃ written rest, cs = written ++ rest ∧
      ∃ header title, written = header ++ title ∧ IsCallout marker admonition header ∧ IsTitleWith name title := by
    intro cs
    unfold Section.titledPieces
    rw [fits_calloutPieces_append_iff]
    constructor
    · intro h
      obtain ⟨header, after, rfl, hheader, hafter⟩ := h
      obtain ⟨title, rest, rfl, htitle⟩ := fits_title_iff.mp hafter
      exact ⟨header ++ title, rest, (List.append_assoc _ _ _).symm, header, title, rfl, hheader, htitle⟩
    · intro h
      obtain ⟨-, rest, rfl, header, title, rfl, hheader, htitle⟩ := h
      exact ⟨header, title ++ rest, List.append_assoc _ _ _, hheader, fits_title_iff.mpr ⟨title, rest, rfl, htitle⟩⟩
  rw [Text.finds_iff, Text.fitsIn_iff_infix hparts]
  constructor
  · intro h
    obtain ⟨-, ⟨header, title, rfl, hheader, htitle⟩, hinfix⟩ := h
    exact ⟨header, title, hheader, htitle, hinfix⟩
  · intro ⟨header, title, hheader, htitle, hinfix⟩
    exact ⟨header ++ title, ⟨header, title, rfl, hheader, htitle⟩, hinfix⟩

theorem holdsName_iff_fitsIn :
    HoldsName name doc ↔ Text.FitsIn [.letters name.toList] doc ∨ Text.FitsIn [.letters (lowered name)] doc := by
  rw [Text.fitsIn_letters_iff, Text.fitsIn_letters_iff, ← exists_or]
  simp only [← or_and_right]
  rfl

instance : Decidable (HoldsName name doc) :=
  decidable_of_iff _ holdsName_iff_fitsIn.symm

theorem TitledIn.holdsName (h : TitledIn marker admonition name doc) : HoldsName name doc := by
  obtain ⟨header, -, -, ⟨gap, front, word, back, -, -, -, hword, -⟩, hinfix⟩ := h
  refine ⟨word, .inl hword, .trans ⟨header ++ (gap ++ '"' :: front), back ++ ['"'], ?_⟩ hinfix⟩
  simp

theorem HeadedBy.holdsName (h : HeadedBy (lowered name) doc) : HoldsName name doc := by
  obtain ⟨above, -, below, rfl, -, ⟨margin, word, tail, rfl, hword, -⟩, -⟩ := h
  obtain ⟨spelled, colon, rfl, hspelled, -⟩ := Text.sameLetters_append_iff.mp hword
  exact ⟨spelled, .inr hspelled, above ++ margin, colon ++ (tail ++ below), by simp⟩

end Searches

/-! ## §3. Sections with an admonition. -/

theorem Section.presentIn_iff_of_callout {s : Section} {doc : Text} {marker admonition : String}
    (h : s.callout? = some (marker, admonition)) :
    s.presentIn doc = true ↔
      s.kind = .freeText ∧ TitledIn marker admonition s.name doc ∨
      s.kind ≠ .freeText ∧ (CalledOut marker admonition doc ∨ HeadedBy (lowered s.name) doc) := by
  unfold presentIn freeTextIn
  rw [h]
  simp only [← finds_titledPieces_iff, ← finds_calloutPieces_iff, ← findsLine_iff_headedBy]
  cases s.kind <;> simp

/-- **When a section counts as present under another name.** A section with an admonition is present in a docstring
exactly if it is free text and stands there with its name in the title, or it is of another kind and its mark and
word stand there, under any title, or it has a heading. So a docstring that does not hold its name has it only if it
is no free text, and then as soon as its mark and word are found. -/
theorem present_unnamed_iff (s : Section) (doc : Text) (admonition : String)
    (hadmonition : s.admonition = some admonition) (hword : admonition ≠ "") (hmark : s.marker ≠ "") :
    (s.presentIn doc = true ↔
      s.kind = .freeText ∧ TitledIn s.marker admonition s.name doc ∨
      s.kind ≠ .freeText ∧ (CalledOut s.marker admonition doc ∨ HeadedBy (lowered s.name) doc)) ∧
    (s.presentIn doc = true ∧ ¬ HoldsName s.name doc ↔
      s.kind ≠ .freeText ∧ CalledOut s.marker admonition doc ∧ ¬ HoldsName s.name doc) := by
  have hcallout : s.callout? = some (s.marker, admonition) := by
    unfold Section.callout?
    simp [hadmonition, hword, hmark]
  have hpresent := @Section.presentIn_iff_of_callout s doc _ _ hcallout
  refine ⟨hpresent, ?_⟩
  rw [hpresent]
  constructor
  · intro ⟨hfound, hunnamed⟩
    -- a title and a heading hold the name, so it was found by its mark and word alone
    rcases hfound with ⟨-, htitled⟩ | ⟨hkind, hcalled | hheaded⟩
    · exact absurd htitled.holdsName hunnamed
    · exact ⟨hkind, hcalled, hunnamed⟩
    · exact absurd hheaded.holdsName hunnamed
  · intro ⟨hkind, hcalled, hunnamed⟩
    exact ⟨.inr ⟨hkind, .inl hcalled⟩, hunnamed⟩

/-- A docstring whose summary has a longer title, in capitals. -/
def longTitle : Text :=
  "!!!  NOTE \"A SUMMARY of it\"\n    S.".toList

theorem present_unnamed_summary :
    defaultSections[0].presentIn longTitle = true ∧ HoldsName "summary" longTitle := by
  have hpresent : defaultSections[0].presentIn longTitle = true := by decide
  refine ⟨hpresent, ?_⟩
  by_contra hunnamed
  have h := (present_unnamed_iff defaultSections[0] longTitle "note" rfl (by decide) (by decide)).2.mp
    ⟨hpresent, hunnamed⟩
  exact h.1 rfl

/-- A required list of exceptions that is headed by a note. -/
def notedRaises : Section :=
  { name := "raises", kind := .listType, admonition := some "note", marker := "!!!", required := true }

/-- A docstring with nothing but a summary. -/
def summaryNote : Text :=
  "!!! note \"Summary\"\n    S.".toList

/-- **Any other note counts as the list of exceptions**: the docstring does not hold the name of the section, which is
present all the same and not reported as missing. -/
theorem raises_present_in_summary :
    notedRaises.presentIn summaryNote = true ∧ ¬ HoldsName notedRaises.name summaryNote ∧
    ({ sections := [notedRaises] } : Rules).missingIssues
      { kind := .function, name := "f", line := 1, signature := some default } summaryNote = [] := by
  decide

end DocLint
