import DocLint.Proofs.Text.Basic
import DocLint.Text.Pattern

/-!
DocLint.Proofs.Text.Lines: lines and where they stand.

A line of a text goes from a newline, or the start of the text, up to the next newline, or its end (`IsLine`). The
lines that cutting gives are these (`mem_lines_iff`), a pattern that must stand at the start of a line is looked for
where one starts (`mem_lineStarts_iff`), and what holds no newline stands in one line (`exists_isLine`).
-/

namespace DocLint.Text

/-! ## §1. Cutting at newlines. -/

/-- Where a line can start: at the start of the text, or behind a newline. -/
def EndsLine (above : Text) : Prop :=
  above = [] ∨ above.getLast? = some '\n'

/-- Where a line can end: at the end of the text, or in front of a newline. -/
def StartsBreak (below : Text) : Prop :=
  below = [] ∨ below.head? = some '\n'

theorem lines_of_solid {line : Text} (h : '\n' ∉ line) : lines line = [line] := by
  refine splitBy_of_forall fun c hc => beq_false_of_ne ?_
  rintro rfl
  exact h hc

theorem lines_cons {line : Text} (h : '\n' ∉ line) (below : Text) :
    lines (line ++ '\n' :: below) = line :: lines below := by
  refine splitBy_append_cons (fun c hc => beq_false_of_ne ?_) rfl below
  rintro rfl
  exact h hc

/-- The first line goes up to the first newline, and the others are the lines behind it. -/
theorem exists_lines (cs : Text) :
    ∃ line rest, lines cs = line :: rest ∧ '\n' ∉ line ∧
      (cs = line ∧ rest = [] ∨ ∃ below, cs = line ++ '\n' :: below ∧ rest = lines below) := by
  by_cases h : '\n' ∈ cs
  · obtain ⟨line, below, rfl, hsolid⟩ := List.eq_append_cons_of_mem h
    exact ⟨line, lines below, lines_cons hsolid below, hsolid, .inr ⟨below, rfl, rfl⟩⟩
  · exact ⟨cs, [], lines_of_solid h, h, .inl ⟨rfl, rfl⟩⟩

/-- Cutting goes on behind each newline. -/
theorem lines_append_newline (xs ys : Text) : lines (xs ++ '\n' :: ys) = lines xs ++ lines ys := by
  obtain ⟨line, rest, hlines, hsolid, ⟨rfl, rfl⟩ | ⟨below, rfl, rfl⟩⟩ := exists_lines xs
  · rw [lines_cons hsolid, hlines, List.singleton_append]
  · have hshorter : below.length < (line ++ '\n' :: below).length := by simp; omega
    rw [List.append_assoc, List.cons_append, lines_cons hsolid, lines_append_newline below ys, hlines,
      List.cons_append]
termination_by xs.length

/-! ## §2. Lines and their places. -/

/-- A line of a text, with what stands above it and below it. -/
structure IsLine (doc above line below : Text) : Prop where
  /-- The text is cut around the line. -/
  cut : doc = above ++ (line ++ below)
  /-- The line starts where one can start. -/
  starts : EndsLine above
  /-- It goes over no newline. -/
  solid : '\n' ∉ line
  /-- It ends where one can end. -/
  ends : StartsBreak below

theorem IsLine.mem_lines {doc above line below : Text} (h : IsLine doc above line below) : line ∈ lines doc := by
  have hfirst : line ∈ lines (line ++ below) := by
    rcases h.ends with rfl | hbelow
    · rw [List.append_nil, lines_of_solid h.solid]
      exact List.mem_singleton_self line
    · obtain ⟨rest, rfl⟩ := List.head?_eq_some_iff.mp hbelow
      rw [lines_cons h.solid]
      exact List.mem_cons_self
  rw [h.cut]
  rcases h.starts with rfl | habove
  · exact hfirst
  · obtain ⟨front, rfl⟩ := List.getLast?_eq_some_iff.mp habove
    rw [List.append_assoc, List.singleton_append, lines_append_newline]
    exact List.mem_append_right _ hfirst

theorem exists_isLine_of_mem (doc : Text) {line : Text} (h : line ∈ lines doc) :
    ∃ above below, IsLine doc above line below := by
  obtain ⟨first, rest, hlines, hsolid, hcut⟩ := exists_lines doc
  rw [hlines, List.mem_cons] at h
  rcases hcut with ⟨rfl, rfl⟩ | ⟨behind, rfl, rfl⟩
  · obtain rfl : line = doc := by simpa using h
    exact ⟨[], [], by simp, .inl rfl, hsolid, .inl rfl⟩
  · rcases h with rfl | h
    · exact ⟨[], '\n' :: behind, rfl, .inl rfl, hsolid, .inr rfl⟩
    · have hshorter : behind.length < (first ++ '\n' :: behind).length := by simp; omega
      obtain ⟨above, below, hcut, hstarts, hsolid', hends⟩ := exists_isLine_of_mem behind h
      refine ⟨first ++ '\n' :: above, below, by simp [hcut], .inr ?_, hsolid', hends⟩
      rcases hstarts with rfl | habove
      · simp
      · rw [List.getLast?_append, List.getLast?_cons, habove]
        rfl
termination_by doc.length

/-- **The lines that cutting gives are the lines of the text.** -/
theorem mem_lines_iff {doc line : Text} : line ∈ lines doc ↔ ∃ above below, IsLine doc above line below :=
  ⟨exists_isLine_of_mem doc, fun ⟨_, _, h⟩ => h.mem_lines⟩

/-- Back from a place, a line starts. -/
theorem exists_endsLine (before : Text) :
    ∃ above lead, before = above ++ lead ∧ EndsLine above ∧ '\n' ∉ lead := by
  by_cases h : '\n' ∈ before.reverse
  · obtain ⟨lead, above, hcut, hsolid⟩ := List.eq_append_cons_of_mem h
    refine ⟨(above.reverse ++ ['\n']), lead.reverse, ?_, .inr (by simp), by simpa using hsolid⟩
    rw [← List.reverse_reverse before, hcut]
    simp
  · exact ⟨[], before, rfl, .inl rfl, by simpa using h⟩

/-- On from a place, a line ends. -/
theorem exists_startsBreak (after : Text) :
    ∃ tail below, after = tail ++ below ∧ '\n' ∉ tail ∧ StartsBreak below := by
  by_cases h : '\n' ∈ after
  · obtain ⟨tail, below, rfl, hsolid⟩ := List.eq_append_cons_of_mem h
    exact ⟨tail, '\n' :: below, rfl, hsolid, .inr rfl⟩
  · exact ⟨after, [], by simp, h, .inl rfl⟩

/-- **What holds no newline stands in one line.** -/
theorem exists_isLine {pat : Text} (h : '\n' ∉ pat) (before after : Text) :
    ∃ above lead tail below, IsLine (before ++ (pat ++ after)) above (lead ++ (pat ++ tail)) below := by
  obtain ⟨above, lead, rfl, hstarts, hlead⟩ := exists_endsLine before
  obtain ⟨tail, below, rfl, htail, hends⟩ := exists_startsBreak after
  exact ⟨above, lead, tail, below, by simp, hstarts, by simp [h, hlead, htail], hends⟩

/-- A text without a newline stands in a text exactly if it stands in one of its lines. -/
theorem infix_iff_exists_line {pat doc : Text} (h : '\n' ∉ pat) :
    pat <:+: doc ↔ ∃ line ∈ lines doc, pat <:+: line := by
  constructor
  · rintro ⟨before, after, rfl⟩
    obtain ⟨above, lead, tail, below, hline⟩ := exists_isLine h before after
    rw [List.append_assoc]
    exact ⟨_, hline.mem_lines, lead, tail, List.append_assoc _ _ _⟩
  · rintro ⟨line, hline, hpat⟩
    obtain ⟨above, below, hline⟩ := mem_lines_iff.mp hline
    exact hpat.trans ⟨above, below, by rw [hline.cut, List.append_assoc]⟩

theorem mem_afterNewlines {doc rest : Text} :
    rest ∈ lineStarts.afterNewlines doc ↔ ∃ front, doc = front ++ '\n' :: rest := by
  induction doc with
  | nil => simp [lineStarts.afterNewlines]
  | cons c cs ih =>
    rw [lineStarts.afterNewlines]
    constructor
    · intro h
      split at h
      · next hc =>
        rcases List.mem_cons.mp h with rfl | h
        · exact ⟨[], by rw [beq_iff_eq.mp hc]; rfl⟩
        · obtain ⟨front, rfl⟩ := ih.mp h
          exact ⟨c :: front, rfl⟩
      · obtain ⟨front, rfl⟩ := ih.mp h
        exact ⟨c :: front, rfl⟩
    · rintro ⟨front, hcut⟩
      cases front with
      | nil =>
        obtain ⟨rfl, rfl⟩ := List.cons.inj hcut
        simp
      | cons d front =>
        have hmem := ih.mpr ⟨front, (List.cons.inj hcut).2⟩
        split
        · exact List.mem_cons_of_mem _ hmem
        · exact hmem

/-- **The rests at the starts of lines** are those behind a place where a line can start. -/
theorem mem_lineStarts_iff {doc rest : Text} :
    rest ∈ lineStarts doc ↔ ∃ above, doc = above ++ rest ∧ EndsLine above := by
  unfold lineStarts
  rw [List.mem_cons, mem_afterNewlines]
  constructor
  · rintro (rfl | ⟨front, rfl⟩)
    · exact ⟨[], rfl, .inl rfl⟩
    · exact ⟨front ++ ['\n'], by simp, .inr (by simp)⟩
  · rintro ⟨above, rfl, rfl | habove⟩
    · exact .inl rfl
    · obtain ⟨front, rfl⟩ := List.getLast?_eq_some_iff.mp habove
      exact .inr ⟨front, by simp⟩

end DocLint.Text
