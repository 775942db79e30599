import DocLint.Proofs.Params.Reading

/-!
DocLint.Proofs.Params.Agreement: where the readings of names and of types agree.

A typed name is a name without stars, unless its entry is loose: blanks stand before the colon, which only
the rule for types allows, or a title of several words stands between the heading and the entry, which ends
the list of names only. Main result: the typed names are the names without stars and those of loose entries,
so both readings agree exactly if every name with a loose entry has another one.
-/

namespace DocLint.Params

open Docstring (isTitleChar)
open Text (lines)

/-! ## §1. Names and types by their lines. -/

theorem mem_names_iff {doc : Text} {name : String} (hstar : name.toList.head? ≠ some '*') :
    name ∈ names doc
      ↔ ∃ inside line type, IsListed closesNames (lines doc) inside line ∧
        EntryShape line [] name.toList type [] := by
  rw [mem_names]
  constructor
  · rintro ⟨line, hline, hentry⟩
    obtain ⟨inside, hlisted⟩ := mem_listLines.mp hline
    obtain ⟨type, hshape⟩ := shape_of_entryName? hentry hstar
    exact ⟨inside, line, type, hlisted, hshape⟩
  · rintro ⟨inside, line, type, hlisted, hshape⟩
    refine ⟨line, mem_listLines.mpr ⟨inside, hlisted⟩, entryName?_eq_some_iff.mpr ?_⟩
    exact ⟨[], name.toList, type, rfl, Nat.zero_le 2, hshape⟩

theorem mem_keys_types_iff {doc : Text} {name : String} :
    name ∈ (types doc).keys
      ↔ ∃ inside line type gap, IsListed closesTypes (lines doc) inside line ∧
        EntryShape line [] name.toList type gap := by
  rw [Entries.mem_keys, has_types_iff]
  constructor
  · rintro ⟨line, hline, type, hentry⟩
    obtain ⟨inside, hlisted⟩ := mem_listLines.mp hline
    obtain ⟨gap, hshape⟩ := entryType?_eq_some_iff.mp hentry
    exact ⟨inside, line, type, gap, hlisted, hshape⟩
  · rintro ⟨inside, line, type, gap, hlisted, hshape⟩
    exact ⟨line, mem_listLines.mpr ⟨inside, hlisted⟩, type, entryType?_eq_some_iff.mpr ⟨gap, hshape⟩⟩

/-! ## §2. Loose entries. -/

/-- A name with a loose entry in the list of types: there are blanks before its colon, or a title stands
between the heading and the entry. -/
def IsLoose (ls : List Text) (name : Text) : Prop :=
  ∃ inside line type gap, IsListed closesTypes ls inside line ∧ EntryShape line [] name type gap ∧
    (gap ≠ [] ∨ ∃ l ∈ inside, mentions l = false ∧ TitleShape isTitleChar l)

theorem EntryShape.head?_ne_star {line name type gap : Text} (h : EntryShape line [] name type gap) :
    name.head? ≠ some '*' := by
  obtain ⟨lead, mid, rest, -, -, hne, hword, -⟩ := h
  obtain ⟨c, hc, hw⟩ := head?_word hne hword []
  rw [List.append_nil] at hc
  rw [hc]
  rintro ⟨⟩
  exact absurd hw (by decide)

/-- An entry in the list of types stands in the list of names too if no title stands above it. -/
theorem IsListed.closesNames {ls inside : List Text} {line name type gap : Text}
    (hlisted : IsListed closesTypes ls inside line) (hshape : EntryShape line [] name type gap)
    (htitle : ∀ l ∈ inside, mentions l = false → ¬ TitleShape isTitleChar l) :
    IsListed closesNames ls inside line := by
  obtain ⟨front, _, after, first, _, hfront, hfirst, -, hline, -⟩ := hlisted
  refine .mk front inside after first line hfront hfirst ?_ hline hshape.closesNames_eq_false
  intro l hl
  by_cases hmentions : mentions l = true
  · exact .inl hmentions
  · refine .inr ?_
    rw [← Bool.not_eq_true, closesNames_iff]
    exact htitle l hl (by simpa using hmentions)

/-- **The typed names are the names without stars and those of loose entries.** So the two readings agree
exactly if each name with a loose entry is among the names. -/
theorem keys_types_iff_names_or_loose (doc : Text) :
    (∀ n : String, n ∈ (types doc).keys
      ↔ (n ∈ names doc ∧ n.toList.head? ≠ some '*') ∨ IsLoose (lines doc) n.toList) ∧
    ((∀ n : String, (n ∈ names doc ∧ n.toList.head? ≠ some '*') ↔ n ∈ (types doc).keys)
      ↔ ∀ n : String, IsLoose (lines doc) n.toList → n ∈ names doc) := by
  have hkeys : ∀ n : String, n ∈ (types doc).keys
      ↔ (n ∈ names doc ∧ n.toList.head? ≠ some '*') ∨ IsLoose (lines doc) n.toList := by
    intro n
    constructor
    · intro hn
      obtain ⟨inside, line, type, gap, hlisted, hshape⟩ := mem_keys_types_iff.mp hn
      have hstar := hshape.head?_ne_star
      by_cases hloose : gap ≠ [] ∨ ∃ l ∈ inside, mentions l = false ∧ TitleShape isTitleChar l
      · exact .inr ⟨inside, line, type, gap, hlisted, hshape, hloose⟩
      · -- without blanks and titles the line is an entry of the list of names as well
        rw [not_or, not_not] at hloose
        obtain ⟨rfl, htitle⟩ := hloose
        have hnames := hlisted.closesNames hshape fun l hl hm ht => htitle ⟨l, hl, hm, ht⟩
        exact .inl ⟨(mem_names_iff hstar).mpr ⟨inside, line, type, hnames, hshape⟩, hstar⟩
    · rintro (⟨hn, hstar⟩ | ⟨inside, line, type, gap, hlisted, hshape, -⟩)
      · exact Entries.mem_keys.mpr (has_types_of_mem_names hn hstar)
      · exact mem_keys_types_iff.mpr ⟨inside, line, type, gap, hlisted, hshape⟩
  refine ⟨hkeys, fun hagree n hloose => ((hagree n).mpr ((hkeys n).mpr (.inr hloose))).1, ?_⟩
  intro hstrict n
  rw [hkeys n]
  refine ⟨.inl, ?_⟩
  rintro (hn | hloose)
  · exact hn
  · have hn := hstrict n hloose
    obtain ⟨inside, line, type, gap, -, hshape, -⟩ := hloose
    exact ⟨hn, hshape.head?_ne_star⟩

/-- A docstring in which a section with a title of two words follows the list of parameters. -/
def titledDoc : Text :=
  "Params:\n    x (int):\n        X.\n\nSide Effects:\n    y (str):\n        Y.\n".toList

/-- Its entries are read as types of parameters, but not as names. -/
theorem types_titledDoc :
    ¬ ∀ n : String, (n ∈ names titledDoc ∧ n.toList.head? ≠ some '*') ↔ n ∈ (types titledDoc).keys := by
  intro h
  have hnames : names titledDoc = ["x"] := by decide
  have hkeys : (types titledDoc).keys = ["x", "y"] := by decide
  have hy := (h "y").mpr (by rw [hkeys]; decide)
  rw [hnames] at hy
  exact absurd hy.1 (by decide)

end DocLint.Params
