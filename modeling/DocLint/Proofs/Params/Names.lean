import DocLint.Params.Check
import DocLint.Proofs.Params.Reading
import DocLint.Proofs.Params.Types
import DocLint.Proofs.Text.Lines

/-!
DocLint.Proofs.Params.Names: what follows from names that are not reported.

The names of a docstring are not reported exactly if there are no parameters to describe, or the list of
parameters names all of them and nothing else. A name is read from one line of the list, so two looser readings
of the docstring find it too. Main results: every parameter occurs somewhere with a type in parentheses and a
colon, as the loose test asks, and every annotated parameter has a documented type, so that the comparison of
types never reports one without.
-/

namespace DocLint

/-! ## §1. Names that are not reported. -/

namespace Params

open Text (isSpace suffixes)

theorem filter_not_contains_eq_nil {xs ys : List String} :
    xs.filter (!ys.contains ·) = [] ↔ ∀ x ∈ xs, x ∈ ys := by
  simp [List.filter_eq_nil_iff]

/-- **The names are not reported** exactly if there are no parameters, or those of the list are the
parameters. -/
theorem nameIssue?_eq_none_iff {s : Signature} {doc : Text} :
    nameIssue? s doc = none
      ↔ s.params = [] ∨ mentions doc = true ∧ ∀ n, n ∈ names doc ↔ n ∈ s.params := by
  unfold nameIssue?
  by_cases hempty : s.params = []
  · simp [hempty]
  · cases mentions doc with
    | false => simp [hempty]
    | true =>
      -- neither side has a name that the other lacks
      have hboth : (s.params.filter (!(names doc).contains ·) = [] ∧ (names doc).filter (!s.params.contains ·) = [])
          ↔ ∀ n, n ∈ names doc ↔ n ∈ s.params := by
        rw [filter_not_contains_eq_nil, filter_not_contains_eq_nil]
        exact ⟨fun h n => ⟨h.2 n, h.1 n⟩, fun h => ⟨fun n => (h n).mpr, fun n => (h n).mp⟩⟩
      rw [← hboth]
      simp [-List.filter_eq_nil_iff, hempty]

/-! ## §2. The loose test. -/

/-- The text of an entry: the name, blanks, something in parentheses and a colon. -/
inductive EntryText (name : Text) : (entry : Text) → Prop
  | mk (mid type : Text) (hmid : ∀ c ∈ mid, isSpace c = true) (htype : type ≠ []) (hparen : ')' ∉ type) :
      EntryText name (name ++ (mid ++ '(' :: (type ++ [')', ':'])))

theorem startsEntry_iff {name cs : Text} :
    startsEntry name cs = true ↔ ∃ entry, EntryText name entry ∧ entry <+: cs := by
  constructor
  · intro h
    unfold startsEntry at h
    split at h
    · next after hname =>
      split at h
      · next type rest hparen =>
        obtain ⟨mid, hmid, hblank⟩ := Text.exists_trimLeft after
        obtain ⟨hopen, htype, hclose⟩ := parenthesized?_eq_some.mp hparen
        refine ⟨_, .mk mid type hblank htype hclose, rest, ?_⟩
        rw [Text.dropPrefix?_eq_some.mp hname, hmid, hopen]
        simp
      · cases h
    · cases h
  · intro h
    obtain ⟨-, ⟨mid, type, hmid, htype, hparen⟩, rest, rfl⟩ := h
    have hcut : name ++ (mid ++ '(' :: (type ++ [')', ':'])) ++ rest
        = name ++ (mid ++ '(' :: (type ++ ')' :: ':' :: rest)) := by simp
    rw [hcut]
    unfold startsEntry
    simp only [Text.dropPrefix?_eq_some.mpr rfl, trimLeft_gap hmid (by decide : isSpace '(' = false),
      parenthesized?_eq_some.mpr ⟨rfl, htype, hparen⟩]

/-- **The loose test** asks for the heading and an entry of each parameter, wherever they stand. -/
theorem listed_iff {s : Signature} {doc : Text} :
    listed s doc = true
      ↔ s.params = [] ∨ mentions doc = true ∧
        ∀ p ∈ s.params, ∃ entry, EntryText p.toList entry ∧ entry <:+: doc := by
  have hentry : ∀ p : String, (suffixes doc).any (startsEntry p.toList) = true ↔
      ∃ entry, EntryText p.toList entry ∧ entry <:+: doc := by
    intro p
    simp only [List.any_eq_true, Text.suffixes_eq_tails, List.mem_tails, startsEntry_iff,
      List.infix_iff_prefix_suffix]
    constructor
    · intro ⟨tail, htail, entry, hentry, hfront⟩
      exact ⟨entry, hentry, tail, hfront, htail⟩
    · intro ⟨entry, hentry, tail, hfront, htail⟩
      exact ⟨tail, htail, entry, hentry, hfront⟩
  unfold listed
  simp only [Bool.or_eq_true, List.isEmpty_iff, Bool.and_eq_true, List.all_eq_true, hentry]

/-- The line that a name is read from holds an entry of it, stars included. -/
theorem EntryShape.exists_entryText {line ss name type : Text} (h : EntryShape line ss name type []) :
    ∃ entry, EntryText (ss ++ name) entry ∧ entry <:+: line := by
  obtain ⟨lead, mid, rest, -, -, -, -, hmid, htype, hparen, -⟩ := h
  exact ⟨_, .mk mid type hmid htype hparen, lead, rest, by simp⟩

theorem IsListed.mem {closes : Text → Bool} {ls inside : List Text} {line : Text}
    (h : IsListed closes ls inside line) : line ∈ ls := by
  obtain ⟨front, _, after, first, _, -⟩ := h
  simp

/-- A name that is read from the list has an entry in the docstring. -/
theorem exists_entryText_of_mem_names {doc : Text} {n : String} (h : n ∈ names doc) :
    ∃ entry, EntryText n.toList entry ∧ entry <:+: doc := by
  -- the entry stands in a line of the list
  obtain ⟨line, hline, hname⟩ := mem_names.mp h
  obtain ⟨ss, name, type, hcut, -, hshape⟩ := entryName?_eq_some_iff.mp hname
  obtain ⟨entry, hentry, hinfix⟩ := hshape.exists_entryText
  -- and the line stands in the docstring
  obtain ⟨inside, hlisted⟩ := mem_listLines.mp hline
  obtain ⟨above, below, hplace⟩ := Text.mem_lines_iff.mp hlisted.mem
  have hdoc : line <:+: doc := ⟨above, below, by rw [hplace.cut, List.append_assoc]⟩
  rw [hcut]
  exact ⟨entry, hentry, hinfix.trans hdoc⟩

/-- **Names that are not reported pass the loose test.** -/
theorem listed_of_names_agree (s : Signature) (doc : Text) (h : nameIssue? s doc = none) :
    listed s doc = true := by
  rw [listed_iff]
  rcases nameIssue?_eq_none_iff.mp h with hempty | ⟨hmentions, hnames⟩
  · exact .inl hempty
  · refine .inr ⟨hmentions, ?_⟩
    intro p hp
    exact exists_entryText_of_mem_names ((hnames p).mpr hp)

/-- A method with a parameter and one for the remaining arguments. -/
def gatheringSignature : Signature :=
  { plain := [{ name := "self" }, { name := "x", annotation := some "int" }]
    vararg := some { name := "args", annotation := some "str" } }

/-- A docstring in which the heading stands in a sentence, blanks stand before the parentheses and the type of
the second parameter differs. -/
def sentenceDoc : Text :=
  "Its Params: are these.\n  x\t(int): the first.\nargs (bytes):\n    The rest (of x).".toList

theorem nameIssue?_sentenceDoc : nameIssue? gatheringSignature sentenceDoc = none := by
  decide

theorem listed_sentenceDoc :
    nameIssue? gatheringSignature sentenceDoc = none ∧ listed gatheringSignature sentenceDoc = true :=
  ⟨nameIssue?_sentenceDoc, listed_of_names_agree _ _ nameIssue?_sentenceDoc⟩

/-! ## §3. Annotated parameters. -/

theorem mem_params_of_mem_types {s : Signature} {p a : String} (h : (p, a) ∈ s.types) : p ∈ s.params := by
  have hkey : s.types.has p = true := List.any_eq_true.mpr ⟨(p, a), h, beq_self_eq_true p⟩
  obtain ⟨a', hpair⟩ := Entries.has_ofPairs.mp hkey
  obtain ⟨q, hq, hannotated⟩ := List.mem_filterMap.mp hpair
  obtain ⟨b, -, hname⟩ := Option.map_eq_some_iff.mp hannotated
  exact List.mem_map.mpr ⟨q, hq, congrArg Prod.fst hname⟩

/-- **Where the names are not reported, every annotated parameter has a documented type.** -/
theorem undocumented?_eq_none {s : Signature} {doc : Text} (hstar : ∀ n ∈ s.params, n.toList.head? ≠ some '*')
    (h : nameIssue? s doc = none) : undocumented? s doc = none := by
  unfold undocumented?
  rw [List.find?_eq_none]
  intro (p, a) hannotated
  have hp := mem_params_of_mem_types hannotated
  obtain ⟨-, hnames⟩ := (nameIssue?_eq_none_iff.mp h).resolve_left (List.ne_nil_of_mem hp)
  have htyped := has_types_of_mem_names ((hnames p).mpr hp) (hstar p hp)
  simp [htyped]

/-- Without such a parameter the comparison of types reports something else, or nothing. -/
theorem typeIssue?_ne_undocumented {style : OptionalStyle} {s : Signature} {doc : Text}
    (h : undocumented? s doc = none) (p a : String) : typeIssue? style s doc ≠ some (.undocumented p a) := by
  unfold typeIssue?
  rw [h]
  cases remarkIssues style s doc with
  | cons issue issues => simp
  | nil =>
    cases unannotated? s doc with
    | some q => simp
    | none => cases typeMismatches s.types (bareTypes doc) <;> simp

/-! ### The text of the report. -/

section Wording

variable {front back front' back' : String} {u : Text}

/-- Two texts differ if only the last part of one ends in `u`. -/
theorem append_ne_of_end (hu : u <:+ back.toList) (hne : ¬ u <:+ back'.toList)
    (hlen : u.length ≤ back'.toList.length) : front ++ back ≠ front' ++ back' := by
  intro h
  have hends : u <:+ front'.toList ++ back'.toList := by
    rw [← String.toList_append, ← h, String.toList_append]
    exact hu.trans (List.suffix_append _ _)
  exact hne (List.suffix_of_suffix_length_le hends (List.suffix_append _ _) hlen)

/-- Two texts differ if only the first part of one starts with `u`. -/
theorem append_ne_of_start (hu : u <+: front.toList) (hne : ¬ u <+: front'.toList)
    (hlen : u.length ≤ front'.toList.length) : front ++ back ≠ front' ++ back' := by
  intro h
  have hstarts : u <+: front'.toList ++ back'.toList := by
    rw [← String.toList_append, ← h, String.toList_append]
    exact hu.trans (List.prefix_append _ _)
  exact hne (List.prefix_of_prefix_length_le hstarts (List.prefix_append _ _) hlen)

end Wording

/-- The message about an annotation without a documented type cannot be taken for another one: the other
messages start or end in other words, whatever they quote. -/
theorem TypeIssue.eq_undocumented_of_message {issue : TypeIssue} {p a : String}
    (h : issue.message = (undocumented p a).message) : ∃ q b, issue = .undocumented q b := by
  have hstart : issue.message = "Parameter '" ++ (p ++ ("' has type annotation '" ++ (a ++
      "' in signature but no type in docstring"))) := by
    rw [h, ← String.append_assoc, ← String.append_assoc, ← String.append_assoc]
    rfl
  -- one part of the wording tells each other message apart
  cases issue with
  | undocumented q b => exact ⟨q, b, rfl⟩
  | unannotated q =>
    exact absurd h (append_ne_of_end (u := "signature".toList) (by decide) (by decide) (by decide))
  | mismatch ms =>
    exact absurd hstart (append_ne_of_start (u := "Parameter t".toList) (by decide) (by decide) (by decide))
  | optional issues =>
    match issues with
    | [.noDefault q] =>
      exact absurd h (append_ne_of_end (u := "signature".toList) (by decide) (by decide) (by decide))
    | [.noRemark q] =>
      exact absurd h (append_ne_of_end (u := "suffix in docstring".toList) (by decide) (by decide) (by decide))
    | [] | _ :: _ :: _ =>
      exact absurd hstart (append_ne_of_start (u := "Optional".toList) (by decide) (by decide) (by decide))

/-- **No annotated parameter is reported as untyped once the names are right.** If no parameter starts with a
star and the names are not reported, the comparison of types never gives the message about an annotation without
a documented type, under any style of remarks. -/
theorem untyped_message_unreachable (style : OptionalStyle) (s : Signature) (doc : Text)
    (hstar : ∀ n ∈ s.params, n.toList.head? ≠ some '*') (hnames : nameIssue? s doc = none) (p a : String) :
    (typeIssue? style s doc).map (·.message)
      ≠ some ("Parameter '" ++ p ++ "' has type annotation '" ++ a ++
        "' in signature but no type in docstring") := by
  intro h
  obtain ⟨issue, hissue, hmessage⟩ := Option.map_eq_some_iff.mp h
  obtain ⟨q, b, rfl⟩ := TypeIssue.eq_undocumented_of_message hmessage
  exact typeIssue?_ne_undocumented (undocumented?_eq_none hstar hnames) q b hissue

theorem untyped_message_sentenceDoc :
    (∀ n ∈ gatheringSignature.params, n.toList.head? ≠ some '*') ∧ nameIssue? gatheringSignature sentenceDoc = none ∧
    (typeIssue? .strict gatheringSignature sentenceDoc).isSome = true ∧
    ∀ p a : String, (typeIssue? .strict gatheringSignature sentenceDoc).map (·.message)
      ≠ some ("Parameter '" ++ p ++ "' has type annotation '" ++ a ++
        "' in signature but no type in docstring") := by
  have hstar : ∀ n ∈ gatheringSignature.params, n.toList.head? ≠ some '*' := by decide
  refine ⟨hstar, nameIssue?_sentenceDoc, by decide, ?_⟩
  exact untyped_message_unreachable .strict gatheringSignature sentenceDoc hstar nameIssue?_sentenceDoc

end Params

end DocLint
