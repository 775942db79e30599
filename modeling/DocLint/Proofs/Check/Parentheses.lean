import DocLint.Check.Parentheses
import DocLint.Proofs.Params.Reading

/-!
DocLint.Proofs.Check.Parentheses: which lines are reported for their parentheses.

The lines of a docstring are read with a state that goes along: the section, and the indentation of the last
well-formed entry. Here the state is given by the lines above: the section by the last header among them
(`Rules.IsUnder`), the indentation by the last entry below that header (`Section.LastIndent`). Reading a line
keeps this relation, so that the lines which are reported are described without any state.

Main result: `parenIssues_exact`, the issues are those of the lines that lack their parentheses
(`Rules.Lacks`), one for each and in order.
-/

namespace DocLint

open Text (trim trimLeft indent lower words lines)

/-! ## §1. Lines and entries. -/

/-- Where the last line stands when the lines are cut at one of them: it is that line, or below it. -/
theorem snoc_eq_cut {ls front back : List Text} {l m : Text} (h : ls ++ [l] = front ++ m :: back) :
    (ls = front ∧ l = m ∧ back = []) ∨ ∃ upper, back = upper ++ [l] ∧ ls = front ++ m :: upper := by
  rcases List.eq_nil_or_concat back with rfl | ⟨upper, x, rfl⟩
  · obtain ⟨hfront, hlast⟩ := List.append_inj' h rfl
    exact .inl ⟨hfront, by simpa using hlast, rfl⟩
  · rw [List.concat_eq_append, ← List.cons_append, ← List.append_assoc] at h
    obtain ⟨hfront, hlast⟩ := List.append_inj' h rfl
    obtain rfl : l = x := by simpa using hlast
    exact .inr ⟨upper, List.concat_eq_append, hfront⟩

/-- A text that starts with a type in parentheses and a colon. -/
def StartsTyped (cs : Text) : Prop :=
  ∃ type rest, cs = '(' :: (type ++ ')' :: ':' :: rest) ∧ type ≠ [] ∧ ')' ∉ type

theorem startsTyped_iff {cs : Text} : startsTyped cs = true ↔ StartsTyped cs := by
  unfold startsTyped
  constructor
  · intro h
    split at h
    · next type rest hparen =>
      obtain ⟨hcut, hne, hnot⟩ := Params.parenthesized?_eq_some.mp hparen
      exact ⟨type, rest, hcut, hne, hnot⟩
    · cases h
  · rintro ⟨type, rest, rfl, hne, hnot⟩
    rw [Params.parenthesized?_eq_some.mpr ⟨rfl, hne, hnot⟩]
    rfl

theorem isNameTypeEntry_iff {cs : Text} :
    isNameTypeEntry cs = true ↔ ∃ front rest, cs = front ++ rest ∧ StartsTyped rest := by
  unfold isNameTypeEntry
  rw [List.any_eq_true, Text.suffixes_eq_tails]
  constructor
  · rintro ⟨rest, hrest, htyped⟩
    obtain ⟨front, hfront⟩ := (List.mem_tails _ _).mp hrest
    exact ⟨front, rest, hfront.symm, startsTyped_iff.mp htyped⟩
  · rintro ⟨front, rest, rfl, htyped⟩
    exact ⟨rest, (List.mem_tails _ _).mpr ⟨front, rfl⟩, startsTyped_iff.mpr htyped⟩

namespace Section

/-- A line that is well formed in a section: in a list of types the type stands in front, and in a list of
names and types it may stand anywhere. -/
def WellFormed (s : Section) (stripped : Text) : Prop :=
  (s.kind = .listType ∧ StartsTyped stripped) ∨
    (s.kind = .listNameAndType ∧ ∃ front rest, stripped = front ++ rest ∧ StartsTyped rest)

/-- A well-formed entry of a section. -/
def IsEntryLine (s : Section) (line : Text) : Prop :=
  isContentLine (trim line) = true ∧ isDescriptionLine (trim line) = false ∧ s.WellFormed (trim line)

/-- The indentation of the last well-formed entry among some lines. -/
def LastIndent (s : Section) (ls : List Text) (t : Nat) : Prop :=
  ∃ front line back, ls = front ++ line :: back ∧ s.IsEntryLine line ∧
    (∀ l ∈ back, ¬ s.IsEntryLine l) ∧ t = indent line

/-- A line that has to be an entry, where `last` tells the indentation of the last well-formed one: in a list
of types it is not indented further than that; in a list of names and types neither, if there is one, and it
does not read like a sentence. -/
def Asks (s : Section) (last : Nat → Prop) (line : Text) : Prop :=
  (s.kind = .listType ∧ ∃ t, last t ∧ indent line ≤ t) ∨
    (s.kind = .listNameAndType ∧
      (∀ w ∈ descriptionWords, ¬ w.toList <:+: lower (beforeColon (trim line))) ∧
      (words (beforeColon (trim line))).length ≤ 2 ∧ ∀ t, last t → indent line ≤ t)

theorem not_lastIndent_nil (s : Section) (t : Nat) : ¬ s.LastIndent [] t := by
  rintro ⟨front, line, back, h, -⟩
  simp at h

theorem lastIndent_snoc {s : Section} {ls : List Text} {l : Text} {t : Nat} :
    s.LastIndent (ls ++ [l]) t
      ↔ (s.IsEntryLine l ∧ t = indent l) ∨ (¬ s.IsEntryLine l ∧ s.LastIndent ls t) := by
  constructor
  · rintro ⟨front, line, back, hcut, hentry, hback, rfl⟩
    rcases snoc_eq_cut hcut with ⟨-, rfl, -⟩ | ⟨upper, rfl, rfl⟩
    · exact .inl ⟨hentry, rfl⟩
    · refine .inr ⟨hback l (by simp), front, line, upper, rfl, hentry, ?_, rfl⟩
      exact fun m hm => hback m (by simp [hm])
  · rintro (⟨hentry, rfl⟩ | ⟨hno, front, line, back, rfl, hentry, hback, rfl⟩)
    · exact ⟨ls, l, [], rfl, hentry, by simp, rfl⟩
    · refine ⟨front, line, back ++ [l], by simp, hentry, ?_, rfl⟩
      intro m hm
      rcases List.mem_append.mp hm with hm | hm
      · exact hback m hm
      · rw [List.mem_singleton.mp hm]
        exact hno

end Section

/-! ## §2. One line of a section. -/

theorem readsLikeText_iff {stripped : Text} :
    readsLikeText stripped = false
      ↔ (∀ w ∈ descriptionWords, ¬ w.toList <:+: lower (beforeColon stripped)) ∧
        (words (beforeColon stripped)).length ≤ 2 := by
  unfold readsLikeText
  simp only [Bool.or_eq_false_iff, List.any_eq_false, Text.contains_iff, decide_eq_false_iff_not,
    Nat.not_lt]

theorem not_startsWith_hash {line : Text} (hcontent : isContentLine (trim line) = true) :
    Text.startsWith (trim (trim line)) ['#'] = false := by
  rw [Text.trim_trim]
  unfold isContentLine at hcontent
  cases htrim : trim line with
  | nil => rfl
  | cons c cs =>
    rw [htrim] at hcontent
    simp only [Bool.and_eq_true, bne_iff_ne] at hcontent
    have hhash : ('#' == c) = false := by simpa using Ne.symm hcontent.1.2
    simp [Text.startsWith, Text.dropPrefix?, hhash]

/-- **What a line of a section brings**: nothing if it is a description; the indentation if it is well formed;
an issue if it has to be an entry; and otherwise nothing. -/
theorem checkLine_cases {s : Section} (hs : s.isTyped = true) (last : Option Nat) {line : Text}
    (hcontent : isContentLine (trim line) = true) :
    (isDescriptionLine (trim line) = true ∧ checkLine s last line (trim line) = ([], last)) ∨
    (isDescriptionLine (trim line) = false ∧ s.WellFormed (trim line) ∧
      checkLine s last line (trim line) = ([], some (indent line))) ∨
    (isDescriptionLine (trim line) = false ∧ ¬ s.WellFormed (trim line) ∧
      s.Asks (last = some ·) line ∧ checkLine s last line (trim line) = ([lineIssue s (trim line)], last)) ∨
    (isDescriptionLine (trim line) = false ∧ ¬ s.WellFormed (trim line) ∧
      ¬ s.Asks (last = some ·) line ∧ checkLine s last line (trim line) = ([], last)) := by
  have hkind : s.kind = .listType ∨ s.kind = .listNameAndType := by simpa [Section.isTyped] using hs
  unfold checkLine
  cases hdescription : isDescriptionLine (trim line) with
  | true => exact .inl ⟨rfl, by simp⟩
  | false =>
    right
    rcases hkind with hkind | hkind
    · -- ===== a list of types =====
      have hformed : s.WellFormed (trim line) ↔ isTypeEntry (trim line) = true := by
        unfold isTypeEntry
        rw [Text.trimLeft_trim, startsTyped_iff]
        simp [Section.WellFormed, hkind]
      have hasks : s.Asks (last = some ·) line ↔ ∃ t, last = some t ∧ indent line ≤ t := by
        simp [Section.Asks, hkind]
      rw [hformed, hasks]
      cases isTypeEntry (trim line) with
      | true => simp [hkind]
      | false =>
        cases last with
        | none => simp [hkind]
        | some t =>
          by_cases hdeep : t < indent line
          · simp [hkind, hdeep]
          · simp [hkind, hdeep, Nat.not_lt.mp hdeep]
    · -- ===== a list of names and types =====
      have hformed : s.WellFormed (trim line) ↔ isNameTypeEntry (trim line) = true := by
        rw [isNameTypeEntry_iff]
        simp [Section.WellFormed, hkind]
      have hasks : s.Asks (last = some ·) line
          ↔ readsLikeText (trim line) = false ∧ ∀ t, last = some t → indent line ≤ t := by
        rw [readsLikeText_iff]
        simp [Section.Asks, hkind, and_assoc]
      rw [hformed, hasks]
      cases isNameTypeEntry (trim line) with
      | true => simp [hkind]
      | false =>
        cases readsLikeText (trim line) with
        | true => simp [hkind]
        | false =>
          cases last with
          | none => simp [hkind, not_startsWith_hash hcontent]
          | some t =>
            by_cases hdeep : t < indent line
            · simp [hkind, hdeep]
            · simp [hkind, hdeep, Nat.not_lt.mp hdeep, not_startsWith_hash hcontent]

/-! ## §3. The lines above. -/

namespace Rules

/-- The section that lines below `above` belong to: the last header among them is that of `s`, and `between`
are the lines below it. -/
def IsUnder (r : Rules) (above : List Text) (s : Section) (between : List Text) : Prop :=
  ∃ before head, above = before ++ head :: between ∧ r.isHeader (trim head) head = true ∧
    r.typedHeader? (trim head) head = some s ∧ ∀ l ∈ between, r.isHeader (trim l) l = false

/-- The line below `above` is an entry of `s` that lacks its parentheses. -/
structure Lacks (r : Rules) (above : List Text) (line : Text) (s : Section) : Prop where
  /-- It is no header. -/
  plain : r.isHeader (trim line) line = false
  /-- It can be an entry. -/
  content : isContentLine (trim line) = true
  /-- It is no description. -/
  noDescription : isDescriptionLine (trim line) = false
  /-- It is not well formed. -/
  malformed : ¬ s.WellFormed (trim line)
  /-- It stands in the section, and has to be an entry there. -/
  asked : ∃ between, r.IsUnder above s between ∧ s.Asks (s.LastIndent between) line

variable {r : Rules} {above between : List Text} {l : Text} {s : Section} {st : ParenState}

theorem IsUnder.isTyped (h : r.IsUnder above s between) : s.isTyped = true := by
  obtain ⟨before, head, -, -, hsection, -⟩ := h
  unfold typedHeader? at hsection
  obtain ⟨title, -, hfind⟩ := Option.bind_eq_some_iff.mp hsection
  exact (List.mem_filter.mp (List.mem_of_find?_eq_some hfind)).2

theorem isUnder_snoc_header (hl : r.isHeader (trim l) l = true) :
    r.IsUnder (above ++ [l]) s between ↔ r.typedHeader? (trim l) l = some s ∧ between = [] := by
  constructor
  · rintro ⟨before, head, hcut, -, hsection, hbetween⟩
    rcases snoc_eq_cut hcut with ⟨-, rfl, rfl⟩ | ⟨upper, rfl, -⟩
    · exact ⟨hsection, rfl⟩
    · -- the last line below a header would be one itself
      rw [hbetween l (by simp)] at hl
      cases hl
  · rintro ⟨hsection, rfl⟩
    exact ⟨above, l, rfl, hl, hsection, by simp⟩

theorem isUnder_snoc (hl : r.isHeader (trim l) l = false) :
    r.IsUnder (above ++ [l]) s between ↔ ∃ upper, between = upper ++ [l] ∧ r.IsUnder above s upper := by
  constructor
  · rintro ⟨before, head, hcut, hheader, hsection, hbetween⟩
    rcases snoc_eq_cut hcut with ⟨-, rfl, -⟩ | ⟨upper, rfl, rfl⟩
    · rw [hheader] at hl
      cases hl
    · refine ⟨upper, rfl, before, head, rfl, hheader, hsection, ?_⟩
      exact fun m hm => hbetween m (by simp [hm])
  · rintro ⟨upper, rfl, before, head, rfl, hheader, hsection, hupper⟩
    refine ⟨before, head, by simp, hheader, hsection, ?_⟩
    intro m hm
    rcases List.mem_append.mp hm with hm | hm
    · exact hupper m hm
    · rw [List.mem_singleton.mp hm]
      exact hl

/-! ## §4. The state. -/

/-- Where the reader stands after some lines. -/
structure Stands (r : Rules) (above : List Text) (st : ParenState) : Prop where
  /-- The section is the one that the next line belongs to. -/
  current : ∀ s, st.current = some s ↔ ∃ between, r.IsUnder above s between
  /-- The indentation is that of its last well-formed entry. -/
  last : ∀ s between, r.IsUnder above s between → ∀ t, st.last = some t ↔ s.LastIndent between t

theorem stands_nil (r : Rules) : r.Stands [] {} := by
  have hnone : ∀ s between, ¬ r.IsUnder [] s between := by
    rintro s between ⟨before, head, h, -⟩
    simp at h
  refine ⟨fun s => ?_, fun s between h => absurd h (hnone s between)⟩
  refine iff_of_false (by simp) ?_
  rintro ⟨between, h⟩
  exact hnone s between h

theorem parenStep_header (hl : r.isHeader (trim l) l = true) :
    r.parenStep st l = ([], { current := r.typedHeader? (trim l) l }) := by
  unfold parenStep
  simp only [hl, if_true]

theorem parenStep_content (hl : r.isHeader (trim l) l = false) (hs : st.current = some s)
    (hcontent : isContentLine (trim l) = true) :
    r.parenStep st l = ((checkLine s st.last l (trim l)).1,
      { st with last := (checkLine s st.last l (trim l)).2 }) := by
  unfold parenStep
  simp only [hl, hs, hcontent, if_true, Bool.false_eq_true, if_false]

theorem parenStep_other (hl : r.isHeader (trim l) l = false)
    (hother : st.current = none ∨ isContentLine (trim l) = false) : r.parenStep st l = ([], st) := by
  unfold parenStep
  simp only [hl, Bool.false_eq_true, if_false]
  cases hs : st.current with
  | none => rfl
  | some s =>
    rw [hs] at hother
    rcases hother with h | h
    · cases h
    · simp only [h, Bool.false_eq_true, if_false]

/-- **Reading a line keeps the relation to the lines above.** -/
theorem Stands.step (h : r.Stands above st) (l : Text) :
    r.Stands (above ++ [l]) (r.parenStep st l).2 := by
  cases hl : r.isHeader (trim l) l with
  | true =>
    -- a header opens its section, and nothing stands below it yet
    rw [parenStep_header hl]
    refine ⟨fun s => ?_, fun s between hunder t => ?_⟩
    · simp [isUnder_snoc_header hl]
    · obtain ⟨-, rfl⟩ := (isUnder_snoc_header hl).mp hunder
      exact iff_of_false (by simp) (s.not_lastIndent_nil t)
  | false =>
    -- any other line stays in the section, and only a well-formed entry moves the indentation
    have hcurrent : (r.parenStep st l).2.current = st.current := by
      cases hs : st.current with
      | none => rw [parenStep_other hl (.inl hs), hs]
      | some s =>
        cases hcontent : isContentLine (trim l) with
        | true => rw [parenStep_content hl hs hcontent, ← hs]
        | false => rw [parenStep_other hl (.inr hcontent), hs]
    refine ⟨fun s => ?_, fun s between hunder t => ?_⟩
    · rw [hcurrent, h.current]
      constructor
      · rintro ⟨upper, hupper⟩
        exact ⟨upper ++ [l], (isUnder_snoc hl).mpr ⟨upper, rfl, hupper⟩⟩
      · rintro ⟨between, hunder⟩
        obtain ⟨upper, -, hupper⟩ := (isUnder_snoc hl).mp hunder
        exact ⟨upper, hupper⟩
    · obtain ⟨upper, rfl, hupper⟩ := (isUnder_snoc hl).mp hunder
      have hs : st.current = some s := (h.current s).mpr ⟨upper, hupper⟩
      rw [Section.lastIndent_snoc, ← h.last s upper hupper]
      cases hcontent : isContentLine (trim l) with
      | false => simp [parenStep_other hl (.inr hcontent), Section.IsEntryLine, hcontent]
      | true =>
        rw [parenStep_content hl hs hcontent]
        unfold Section.IsEntryLine
        rcases checkLine_cases hupper.isTyped st.last hcontent with
          ⟨hdesc, hcheck⟩ | ⟨hdesc, hformed, hcheck⟩ | ⟨hdesc, hformed, -, hcheck⟩ | ⟨hdesc, hformed, -, hcheck⟩
        · simp [hcheck, hdesc]
        · simp [hcheck, hdesc, hformed, hcontent, eq_comm]
        · simp [hcheck, hformed]
        · simp [hcheck, hformed]

theorem Stands.asks_iff (h : r.Stands above st) (hunder : r.IsUnder above s between) :
    s.Asks (st.last = some ·) l ↔ s.Asks (s.LastIndent between) l := by
  have hlast : (st.last = some ·) = s.LastIndent between :=
    funext fun t => propext (h.last s between hunder t)
  rw [hlast]

/-- **What reading a line reports**: one issue if it lacks its parentheses, and nothing if it does not. -/
theorem Stands.issues (h : r.Stands above st) (l : Text) :
    (∃ s, (∀ s', r.Lacks above l s' ↔ s' = s) ∧ (r.parenStep st l).1 = [lineIssue s (trim l)]) ∨
      ((∀ s, ¬ r.Lacks above l s) ∧ (r.parenStep st l).1 = []) := by
  cases hl : r.isHeader (trim l) l with
  | true =>
    refine .inr ⟨fun s hlacks => ?_, by rw [parenStep_header hl]⟩
    rw [hlacks.plain] at hl
    cases hl
  | false =>
    -- a line can lack its parentheses in the section of the state only
    have hcurrent : ∀ s, r.Lacks above l s → st.current = some s := by
      intro s hlacks
      obtain ⟨between, hunder, -⟩ := hlacks.asked
      exact (h.current s).mpr ⟨between, hunder⟩
    cases hs : st.current with
    | none =>
      refine .inr ⟨fun s hlacks => ?_, by rw [parenStep_other hl (.inl hs)]⟩
      rw [hcurrent s hlacks] at hs
      cases hs
    | some s =>
      obtain ⟨between, hunder⟩ := (h.current s).mp hs
      have hsection : ∀ s', r.Lacks above l s' → s' = s := by
        intro s' hlacks
        rw [hcurrent s' hlacks] at hs
        exact Option.some.inj hs
      cases hcontent : isContentLine (trim l) with
      | false =>
        refine .inr ⟨fun s' hlacks => ?_, by rw [parenStep_other hl (.inr hcontent)]⟩
        rw [hlacks.content] at hcontent
        cases hcontent
      | true =>
        rw [parenStep_content hl hs hcontent]
        rcases checkLine_cases hunder.isTyped st.last hcontent with
          ⟨hdesc, hcheck⟩ | ⟨-, hformed, hcheck⟩ | ⟨hdesc, hformed, hasks, hcheck⟩ | ⟨-, -, hasks, hcheck⟩
        · refine .inr ⟨fun s' hlacks => ?_, by rw [hcheck]⟩
          rw [hlacks.noDescription] at hdesc
          cases hdesc
        · refine .inr ⟨fun s' hlacks => ?_, by rw [hcheck]⟩
          obtain rfl := hsection s' hlacks
          exact hlacks.malformed hformed
        · refine .inl ⟨s, fun s' => ⟨hsection s', ?_⟩, by rw [hcheck]⟩
          rintro rfl
          exact ⟨hl, hcontent, hdesc, hformed, between, hunder, (h.asks_iff hunder).mp hasks⟩
        · refine .inr ⟨fun s' hlacks => ?_, by rw [hcheck]⟩
          obtain rfl := hsection s' hlacks
          obtain ⟨between', hunder', hasks'⟩ := hlacks.asked
          exact hasks ((h.asks_iff hunder').mpr hasks')

/-! ## §5. All lines. -/

/-- The lines of `ls` that lack their parentheses, by number, where `above` are the lines above them. -/
structure IsReport (r : Rules) (above ls : List Text) (found : List (Nat × Text × Section)) : Prop where
  /-- They come in order, and each line once. -/
  sorted : found.Pairwise fun a b => a.1 < b.1
  /-- They are the lines that lack their parentheses. -/
  exact : ∀ i line s, (i, line, s) ∈ found ↔ ls[i]? = some line ∧ r.Lacks (above ++ ls.take i) line s

/-- The numbers below one more line. -/
def below (found : List (Nat × Text × Section)) : List (Nat × Text × Section) :=
  found.map fun e => (e.1 + 1, e.2)

section Report

variable {ls : List Text} {found : List (Nat × Text × Section)}

theorem not_mem_below {line : Text} : (0, line, s) ∉ below found := by
  simp [below]

theorem IsReport.sorted_below (h : r.IsReport above ls found) :
    (below found).Pairwise fun a b => a.1 < b.1 := by
  unfold below
  rw [List.pairwise_map]
  exact h.sorted.imp fun hlt => Nat.succ_lt_succ hlt

theorem IsReport.mem_below (h : r.IsReport (above ++ [l]) ls found) {i : Nat} {line : Text} :
    (i + 1, line, s) ∈ below found
      ↔ (l :: ls)[i + 1]? = some line ∧ r.Lacks (above ++ (l :: ls).take (i + 1)) line s := by
  have hmem : (i + 1, line, s) ∈ below found ↔ (i, line, s) ∈ found := by simp [below]
  rw [hmem, h.exact, List.getElem?_cons_succ, List.take_succ_cons, List.append_assoc]
  rfl

/-- A line that does not lack its parentheses only moves the numbers. -/
theorem IsReport.skip (h : r.IsReport (above ++ [l]) ls found) (hl : ∀ s, ¬ r.Lacks above l s) :
    r.IsReport above (l :: ls) (below found) := by
  refine ⟨h.sorted_below, fun i line s => ?_⟩
  cases i with
  | zero =>
    refine iff_of_false not_mem_below ?_
    rintro ⟨hline, hlacks⟩
    obtain rfl : l = line := by simpa using hline
    rw [List.take_zero, List.append_nil] at hlacks
    exact hl s hlacks
  | succ i => exact h.mem_below

/-- A line that lacks its parentheses is the first of the report. -/
theorem IsReport.cons (h : r.IsReport (above ++ [l]) ls found) (hl : ∀ s', r.Lacks above l s' ↔ s' = s) :
    r.IsReport above (l :: ls) ((0, l, s) :: below found) := by
  refine ⟨.cons ?_ h.sorted_below, fun i line s' => ?_⟩
  · rintro ⟨i, line, s'⟩ hmem
    cases i with
    | zero => exact absurd hmem not_mem_below
    | succ i => exact Nat.succ_pos i
  · rw [List.mem_cons]
    cases i with
    | zero =>
      rw [or_iff_left not_mem_below, List.take_zero, List.append_nil]
      constructor
      · intro heq
        obtain ⟨-, hpair⟩ := Prod.mk.inj heq
        obtain ⟨rfl, rfl⟩ := Prod.mk.inj hpair
        exact ⟨rfl, (hl s').mpr rfl⟩
      · rintro ⟨hline, hlacks⟩
        obtain rfl : l = line := by simpa using hline
        rw [(hl s').mp hlacks]
    | succ i => rw [or_iff_right (by simp), h.mem_below]

end Report

/-- The lines below `above` are reported as they lack their parentheses. -/
theorem exists_isReport (h : r.Stands above st) (ls : List Text) :
    ∃ found, r.IsReport above ls found ∧
      r.parenLines st ls = found.map fun e => lineIssue e.2.2 (trim e.2.1) := by
  induction ls generalizing above st with
  | nil => exact ⟨[], ⟨.nil, by simp⟩, rfl⟩
  | cons l ls ih =>
    -- the report of the other lines counts from the line below `l`
    obtain ⟨found, hreport, hrest⟩ := ih (h.step l)
    have hbelow : r.parenLines (r.parenStep st l).2 ls
        = (below found).map fun e => lineIssue e.2.2 (trim e.2.1) := by
      rw [hrest, below, List.map_map]
      rfl
    rw [parenLines]
    rcases h.issues l with ⟨s, hlacks, hissues⟩ | ⟨hlacks, hissues⟩
    · refine ⟨(0, l, s) :: below found, hreport.cons hlacks, ?_⟩
      simp only [hissues, hbelow, List.map_cons, List.singleton_append]
    · refine ⟨below found, hreport.skip hlacks, ?_⟩
      simp only [hissues, hbelow, List.nil_append]

end Rules

/-- **Which lines are reported for their parentheses.** Each line that is an entry of its section without its
parentheses is reported once, with its text, and no other line is; the issues come in the order of the
lines. -/
theorem parenIssues_exact (r : Rules) (doc : Text) :
    ∃ found : List (Nat × Text × Section),
      found.Pairwise (fun a b => a.1 < b.1) ∧
      (∀ i line s, (i, line, s) ∈ found
        ↔ (lines doc)[i]? = some line ∧ r.Lacks ((lines doc).take i) line s) ∧
      r.parenIssues doc = found.map fun e =>
        .unparenthesized e.2.2.name e.2.2.kind.label (String.ofList (trim e.2.1)) := by
  obtain ⟨found, hreport, hissues⟩ := Rules.exists_isReport r.stands_nil (lines doc)
  exact ⟨found, hreport.sorted, hreport.exact, hissues⟩

end DocLint
