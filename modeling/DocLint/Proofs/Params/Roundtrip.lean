import DocLint.Proofs.Params.Reading

/-!
DocLint.Proofs.Params.Roundtrip: a list of parameters is read as it was written.

A list is written as a heading with one line `name (type):` for each parameter, its description below it and
perhaps the header of another section at the end. Whatever stands around it, both readings give back what was
written: no entry and no line of a description is taken for a header, and what stands outside the list is
passed over. Main result: `read_written`.
-/

namespace DocLint.Params

open Docstring (isTitleChar)
open Text (isWord joinWith lines)

/-! ## §1. What is written. -/

/-- A line of a description: at least five spaces in front, and not the shape of an entry. -/
structure IsDescription (l : Text) : Prop where
  /-- It is one line. -/
  line : '\n' ∉ l
  /-- It is indented further than an entry. -/
  deep : List.replicate 5 ' ' <+: l
  /-- It cannot be read as an entry, with or without stars and with or without blanks before the colon. -/
  noEntry : ∀ ss name type gap, ss.length ≤ 2 → ¬ EntryShape l ss name type gap

/-- A parameter as it is written. -/
structure Written where
  /-- Its name. -/
  name : Text
  /-- Its type. -/
  type : Text
  /-- What follows the colon on the line of the entry. -/
  tail : Text
  /-- The lines below the entry. -/
  description : List Text
  name_ne : name ≠ []
  name_word : ∀ c ∈ name, isWord c = true
  type_ne : type ≠ []
  type_paren : ')' ∉ type
  type_line : '\n' ∉ type
  tail_line : '\n' ∉ tail
  description_lines : ∀ l ∈ description, IsDescription l

/-- The header of another section, and the lines below it. -/
structure Ending where
  /-- The header. -/
  header : Text
  /-- The lines below it. -/
  after : List Text
  header_title : TitleShape isWord header
  header_line : '\n' ∉ header
  after_lines : ∀ l ∈ after, '\n' ∉ l

namespace Written

/-- The line of the entry. -/
def entryLine (w : Written) : Text :=
  List.replicate 4 ' ' ++ (w.name ++ ' ' :: '(' :: (w.type ++ ')' :: ':' :: w.tail))

/-- The entry and its description. -/
def lines (w : Written) : List Text :=
  w.entryLine :: w.description

theorem shape (w : Written) : EntryShape w.entryLine [] w.name w.type [] :=
  .mk (List.replicate 4 ' ') [' '] w.tail (fun _ => Text.isSpace_of_mem_spaces) (List.forall_mem_nil _)
    w.name_ne w.name_word (List.forall_mem_singleton.mpr rfl) w.type_ne w.type_paren (List.forall_mem_nil _)

theorem newline_not_mem_entryLine (w : Written) : '\n' ∉ w.entryLine := by
  have hname : '\n' ∉ w.name := fun hin => absurd (w.name_word _ hin) (by decide)
  unfold entryLine
  simp only [List.mem_append, List.mem_cons, not_or]
  exact ⟨by decide, hname, by decide, by decide, w.type_line, by decide, by decide, w.tail_line⟩

end Written

/-- A docstring with a list of parameters, below the lines `before`. -/
def written (before : List Text) (ws : List Written) (ending : Option Ending) : Text :=
  joinWith ['\n'] (before ++ heading :: (ws.flatMap Written.lines
    ++ ending.elim [] fun e => e.header :: e.after))

/-! ## §2. The lines that are read. -/

theorem IsDescription.opensSection_eq_false {l : Text} (h : IsDescription l) (p : Char → Bool) :
    opensSection p l = false := by
  obtain ⟨rest, rfl⟩ := h.deep
  rfl

theorem mem_written_lines {ws : List Written} {l : Text} (h : l ∈ ws.flatMap Written.lines) :
    (∃ w ∈ ws, l = w.entryLine) ∨ IsDescription l := by
  obtain ⟨w, hw, hl⟩ := List.mem_flatMap.mp h
  rcases List.mem_cons.mp hl with rfl | hl
  · exact .inl ⟨w, hw, rfl⟩
  · exact .inr (w.description_lines l hl)

/-- The lines of a docstring are those it was written with. -/
theorem lines_written {before : List Text} (hbefore : ∀ l ∈ before, '\n' ∉ l) (ws : List Written)
    (ending : Option Ending) :
    lines (written before ws ending)
      = before ++ heading :: (ws.flatMap Written.lines ++ ending.elim [] fun e => e.header :: e.after) := by
  have hlines : ∀ l ∈ before ++ heading :: (ws.flatMap Written.lines
      ++ ending.elim [] fun e => e.header :: e.after), '\n' ∉ l := by
    intro l hl
    simp only [List.mem_append, List.mem_cons] at hl
    rcases hl with hl | rfl | hl | hl
    · exact hbefore l hl
    · decide
    · rcases mem_written_lines hl with ⟨w, -, rfl⟩ | hdescription
      · exact w.newline_not_mem_entryLine
      · exact hdescription.line
    · cases ending with
      | none => simp at hl
      | some e =>
        rcases List.mem_cons.mp hl with rfl | hl
        · exact e.header_line
        · exact e.after_lines l hl
  refine Text.splitBy_joinWith rfl (by simp) ?_
  intro l hl c hc
  by_contra hnewline
  obtain rfl : c = '\n' := by simpa using hnewline
  exact hlines l hl hc

/-- A rule that reads each entry and no line of a description reads what was written, in order. -/
theorem filterMap_written_lines {β : Type} {read : Text → Option β} {value : Written → β}
    (hentry : ∀ w : Written, read w.entryLine = some (value w))
    (hdescription : ∀ l, IsDescription l → read l = none) (ws : List Written) :
    (ws.flatMap Written.lines).filterMap read = ws.map value := by
  induction ws with
  | nil => rfl
  | cons w ws ih =>
    have hnone : w.description.filterMap read = [] :=
      List.filterMap_eq_nil_iff.mpr fun l hl => hdescription l (w.description_lines l hl)
    rw [List.flatMap_cons, List.filterMap_append, ih, Written.lines, List.filterMap_cons_some (hentry w), hnone]
    rfl

/-! ## §3. Names and types. -/

variable {before : List Text} {ws : List Written} {ending : Option Ending}
  (hbefore : ∀ l ∈ before, '\n' ∉ l)
  (hmentions : ∀ l ∈ before ++ ws.flatMap Written.lines ++ (ending.map (·.header)).toList,
    mentions l = false)
include hbefore hmentions

/-- **The list is made of the entries and their descriptions**, whatever stands around it. -/
theorem listLines_written {closes : Text → Bool} (hentry : ∀ w : Written, closes w.entryLine = false)
    (hdescription : ∀ l, IsDescription l → closes l = false)
    (hheader : ∀ l, TitleShape isWord l → closes l = true) :
    listLines closes (lines (written before ws ending)) = ws.flatMap Written.lines := by
  rw [lines_written hbefore]
  refine listLines_of_body ?_ (by decide) ?_ ?_
  · intro l hl
    exact hmentions l (by simp [hl])
  · intro l hl
    refine ⟨hmentions l (List.mem_append_left _ (List.mem_append_right _ hl)), ?_⟩
    rcases mem_written_lines hl with ⟨w, -, rfl⟩ | hl
    · exact hentry w
    · exact hdescription l hl
  · intro l hl
    cases ending with
    | none => cases hl
    | some e =>
      cases hl
      exact ⟨hmentions _ (by simp), hheader _ e.header_title⟩

theorem names_written :
    names (written before ws ending) = ws.map fun w => String.ofList w.name := by
  have hread : (ws.flatMap Written.lines).filterMap entryName? = ws.map (·.name) := by
    refine filterMap_written_lines (fun w => ?_) (fun l hl => ?_) ws
    · exact entryName?_eq_some_iff.mpr ⟨[], w.name, w.type, rfl, Nat.zero_le 2, w.shape⟩
    · -- a description that is read has the shape of an entry
      by_contra hsome
      obtain ⟨full, hfull⟩ := Option.ne_none_iff_exists'.mp hsome
      obtain ⟨ss, name, type, -, hlen, hshape⟩ := entryName?_eq_some_iff.mp hfull
      exact hl.noEntry ss name type [] hlen hshape
  have hlist : listLines closesNames (lines (written before ws ending)) = ws.flatMap Written.lines :=
    listLines_written hbefore hmentions (fun w => w.shape.closesNames_eq_false)
      (fun l hl => hl.opensSection_eq_false isTitleChar)
      (fun l hl => closesNames_of_closesTypes (closesTypes_iff.mpr hl))
  unfold names
  rw [hlist, hread, List.map_map]
  rfl

theorem types_written (hdistinct : (ws.map (·.name)).Nodup) :
    types (written before ws ending)
      = ws.map fun w => (String.ofList w.name, String.ofList w.type) := by
  have hread : (ws.flatMap Written.lines).filterMap entryType? = ws.map fun w => (w.name, w.type) := by
    refine filterMap_written_lines (fun w => ?_) (fun l hl => ?_) ws
    · exact entryType?_eq_some_iff.mpr ⟨[], w.shape⟩
    · by_contra hsome
      obtain ⟨⟨name, type⟩, hpair⟩ := Option.ne_none_iff_exists'.mp hsome
      obtain ⟨gap, hshape⟩ := entryType?_eq_some_iff.mp hpair
      exact hl.noEntry [] name type gap (Nat.zero_le 2) hshape
  have hlist : listLines closesTypes (lines (written before ws ending)) = ws.flatMap Written.lines := by
    refine listLines_written hbefore hmentions (fun w => ?_)
      (fun l hl => hl.opensSection_eq_false isWord) (fun l hl => closesTypes_iff.mpr hl)
    -- what ends the list of types ends that of names too, and no entry does
    by_contra hclose
    have hnames := closesNames_of_closesTypes (by simpa using hclose)
    rw [w.shape.closesNames_eq_false] at hnames
    cases hnames
  have hkeys : ((ws.map (·.name)).map String.ofList).Nodup :=
    hdistinct.map fun _ _ => String.ofList_injective
  unfold types
  rw [hlist, hread, List.map_map]
  refine Entries.ofPairs_of_nodup ?_
  rw [List.map_map] at hkeys ⊢
  exact hkeys

omit hbefore hmentions

/-- **A list of parameters is read as it was written.** Below any lines, with any descriptions and with or
without another section after it, the names that are read are those of the entries, in order, and so are the
types, as long as the words `Params:` stand on no line up to the end of the list but on the heading. -/
theorem read_written (before : List Text) (ws : List Written) (ending : Option Ending)
    (hbefore : ∀ l ∈ before, '\n' ∉ l) (hdistinct : (ws.map (·.name)).Nodup)
    (hmentions : ∀ l ∈ before ++ ws.flatMap Written.lines ++ (ending.map (·.header)).toList,
      mentions l = false) :
    names (written before ws ending) = ws.map (fun w => String.ofList w.name) ∧
    types (written before ws ending)
      = ws.map fun w => (String.ofList w.name, String.ofList w.type) :=
  ⟨names_written hbefore hmentions, types_written hbefore hmentions hdistinct⟩

/-- Two parameters: one whose name starts with a capital and whose type holds a colon and an opening
parenthesis, and one with a description that reads like a header. -/
def trickyParams : List Written :=
  [{ name := "Name".toList, type := "Callable: (int".toList, tail := " tail (x):".toList, description := []
     name_ne := by decide, name_word := List.all_eq_true.mp (by decide), type_ne := by decide
     type_paren := by decide, type_line := by decide, tail_line := by decide
     description_lines := List.forall_mem_nil _ },
   { name := "größe_2".toList, type := " ".toList, tail := [], description := ["     Returns: (x):".toList]
     name_ne := by decide, name_word := List.all_eq_true.mp (by decide), type_ne := by decide
     type_paren := by decide, type_line := by decide, tail_line := by decide
     description_lines := List.forall_mem_singleton.mpr
       ⟨by decide, ⟨"Returns: (x):".toList, rfl⟩, fun _ _ _ _ _ h => absurd h.find?_eq (by decide)⟩ }]

/-- The header of another section, with an entry and a heading below it. -/
def trickyEnding : Ending :=
  { header := "  Raises: (x):".toList, after := ["    y (int):".toList, "Params:".toList]
    header_title := .mk 2 'R' "aises".toList " (x):".toList (by decide) (by decide) (by decide)
      (List.all_eq_true.mp (by decide))
    header_line := by decide, after_lines := by decide }

theorem read_written_tricky :
    names (written ["x (int):".toList] trickyParams (some trickyEnding)) = ["Name", "größe_2"] ∧
    types (written ["x (int):".toList] trickyParams (some trickyEnding))
      = [("Name", "Callable: (int"), ("größe_2", " ")] :=
  read_written ["x (int):".toList] trickyParams (some trickyEnding) (by decide) (by decide) (by decide)

end DocLint.Params
