import DocLint.Changelog.Entry
import DocLint.Proofs.Text.Replace
import Mathlib.Data.List.Forall2
import Mathlib.Data.List.TakeWhile

/-!
DocLint.Proofs.Changelog.Notes: the lines of release notes.

Notes are written without their newlines: what were lines of theirs stand behind each other on one line of the
changelog, with eight spaces between them (`lines_releaseNotes`). So the lines of notes are kept only where there is
nothing to keep apart: notes of blank lines, and notes whose last line is the only one with something on it, with
spaces and newlines in front. Even there the signs of a heading must not stand inside the line, since they gain a
sign wherever they stand (`notes_keep_lines_iff`).
-/

namespace DocLint.Changelog

open Text (isSpace trimLeft trimRight startsWith contains joinWith lines replace)

/-! ## §1. Headings one level lower. -/

/-- The end of the signs of a heading, and the space behind them. -/
def headingMark : Text := "## ".toList

/-- Whether the first signs of a line are those of a heading: two hash signs or more, and a space behind them. -/
def isHeading (line : Text) : Bool :=
  2 ≤ ((trimLeft line).takeWhile (· == '#')).length && ((trimLeft line).dropWhile (· == '#')).head? == some ' '

/-- A line one level lower: a heading gains one hash sign. -/
def lowered (line : Text) : Text :=
  if isHeading line then line.takeWhile isSpace ++ '#' :: trimLeft line else line

/-- What a line says: of a heading, what stands behind its signs. -/
def wording (line : Text) : Text :=
  if isHeading line then (trimLeft line).dropWhile (· == '#') else line

/-- A text in which each mark of a heading has one hash sign more, wherever it stands. -/
def deepen : Text → Text
  | [] => []
  | c :: cs => if startsWith (c :: cs) headingMark then '#' :: c :: deepen cs else c :: deepen cs

theorem startsMark_iff {c : Char} {cs : Text} :
    startsWith (c :: cs) headingMark = true ↔ c = '#' ∧ ∃ rest, cs = '#' :: ' ' :: rest := by
  rw [Text.startsWith_iff]
  constructor
  · rintro ⟨rest, hcut⟩
    obtain ⟨rfl, rfl⟩ := List.cons.inj hcut
    exact ⟨rfl, rest, rfl⟩
  · rintro ⟨rfl, rest, rfl⟩
    exact ⟨rest, rfl⟩

theorem deepen_cons {c : Char} (h : c ≠ '#') (cs : Text) : deepen (c :: cs) = c :: deepen cs := by
  rw [deepen, if_neg]
  intro hstart
  exact h (startsMark_iff.mp hstart).1

/-- A hash sign right in front of a space is the last sign of a mark, and none begins with it. -/
theorem deepen_sign (text : Text) : deepen ('#' :: ' ' :: text) = '#' :: deepen (' ' :: text) := by
  rw [deepen, if_neg]
  intro hmark
  obtain ⟨-, rest, hcut⟩ := startsMark_iff.mp hmark
  exact absurd (List.cons.inj hcut).1 (by decide)

/-- **Marks are replaced one by one.** No mark begins inside another one, so that nothing is passed over. -/
theorem replace_headingMark (cs : Text) : replace headingMark "### ".toList cs = deepen cs := by
  match cs with
  | [] => rfl
  | c :: cs =>
    rw [Text.replace_cons, deepen]
    split
    · next hstart =>
      obtain ⟨rfl, rest, rfl⟩ := startsMark_iff.mp hstart
      rw [deepen_sign, deepen_cons (by decide), ← replace_headingMark rest]
      rfl
    · rw [replace_headingMark cs]
termination_by cs.length

theorem deepen_of_not_mem {cs : Text} (h : '#' ∉ cs) : deepen cs = cs := by
  induction cs with
  | nil => rfl
  | cons c cs ih =>
    obtain ⟨hc, hcs⟩ := not_or.mp (List.mem_cons.not.mp h)
    rw [deepen_cons (Ne.symm hc), ih hcs]

theorem deepen_append_of_not_mem {lead : Text} (h : '#' ∉ lead) (cs : Text) :
    deepen (lead ++ cs) = lead ++ deepen cs := by
  induction lead with
  | nil => rfl
  | cons c lead ih =>
    obtain ⟨hc, hlead⟩ := not_or.mp (List.mem_cons.not.mp h)
    rw [List.cons_append, deepen_cons (Ne.symm hc), ih hlead, List.cons_append]

theorem length_le_deepen (cs : Text) : cs.length ≤ (deepen cs).length := by
  induction cs with
  | nil => exact Nat.le_refl 0
  | cons c cs ih =>
    rw [deepen]
    split <;> simp only [List.length_cons] <;> omega

/-- A text stays as it is exactly if no mark stands in it. -/
theorem deepen_eq_self_iff {cs : Text} : deepen cs = cs ↔ contains cs headingMark = false := by
  induction cs with
  | nil => exact ⟨fun _ => rfl, fun _ => rfl⟩
  | cons c cs ih =>
    rw [deepen, Text.contains_cons]
    by_cases hstart : startsWith (c :: cs) headingMark = true
    · rw [if_pos hstart, hstart, Bool.true_or]
      refine ⟨fun hself => ?_, fun h => Bool.noConfusion h⟩
      have hlonger := length_le_deepen cs
      have hlength := congrArg List.length hself
      simp only [List.length_cons] at hlength
      omega
    · rw [if_neg hstart, Bool.eq_false_iff.mpr hstart, Bool.false_or, ← ih, List.cons.injEq]
      exact and_iff_right rfl

/-- Whether a text without a newline stands in front is seen on the first line. -/
theorem prefix_append_newline_iff {pat : Text} (hpat : '\n' ∉ pat) (line below : Text) :
    pat <+: line ++ '\n' :: below ↔ pat <+: line := by
  induction pat generalizing line with
  | nil => simp
  | cons p ps ih =>
    obtain ⟨hp, hps⟩ := not_or.mp (List.mem_cons.not.mp hpat)
    cases line with
    | nil => simp [Ne.symm hp]
    | cons c line => rw [List.cons_append, List.cons_prefix_cons, List.cons_prefix_cons, ih hps]

/-- **Marks stand inside lines**, so that each line is changed apart. -/
theorem lines_deepen (cs : Text) : lines (deepen cs) = (lines cs).map deepen := by
  induction cs with
  | nil => rfl
  | cons c cs ih =>
    by_cases hc : c = '\n'
    · subst hc
      have hnewline : ∀ text, lines ('\n' :: text) = [] :: lines text := Text.lines_cons List.not_mem_nil
      rw [deepen_cons (by decide), hnewline, hnewline, ih]
      rfl
    · obtain ⟨line, rest, hlines, -, hcut⟩ := Text.exists_lines cs
      -- a mark in front of the text is one in front of its first line
      have hstart : startsWith (c :: cs) headingMark = startsWith (c :: line) headingMark := by
        rcases hcut with ⟨rfl, -⟩ | ⟨below, rfl, -⟩
        · rfl
        · rw [Bool.eq_iff_iff, Text.startsWith_iff, Text.startsWith_iff, ← List.cons_append,
            prefix_append_newline_iff (by decide)]
      rw [hlines, List.map_cons] at ih
      rw [Text.lines_cons_char hc hlines, List.map_cons, deepen, deepen, hstart]
      split
      · exact Text.lines_cons_char (by decide) (Text.lines_cons_char hc ih)
      · exact Text.lines_cons_char hc ih

/-! ## §2. Notes stand on one line. -/

/-- The indentation of notes, which also stands between what were lines of theirs. -/
def notesIndent : Text := List.replicate 8 ' '

theorem notesText_eq (body : Text) :
    notesText body = joinWith notesIndent ((lines (replace ['\n', '\n'] ['\n'] body)).map deepen) := by
  unfold notesText
  rw [Text.replace_newline]
  show joinWith _ (lines (replace headingMark _ _)) = _
  rw [replace_headingMark, lines_deepen]
  rfl

theorem newline_of_mem_lines {cs line : Text} (h : line ∈ lines cs) : '\n' ∉ line := by
  intro hnewline
  have hfree := Text.forall_of_mem_splitBy h '\n' hnewline
  cases hfree

theorem newline_not_mem_notesText (body : Text) : '\n' ∉ notesText body := by
  rw [notesText_eq, ← lines_deepen]
  intro h
  rcases Text.mem_joinWith h with h | ⟨line, hline, h⟩
  · exact absurd h (by decide)
  · exact newline_of_mem_lines hline h

/-- What stands above notes. -/
def notesHead : Text := (tab ++ "??? note \"Release Notes\"").toList

/-- **The lines of what is written for notes.** -/
theorem lines_releaseNotes (body : String) :
    lines (releaseNotes body).toList = [notesHead, [], notesIndent ++ notesText body.toList, [], []] := by
  have htext : (releaseNotes body).toList
      = notesHead ++ '\n' :: ([] ++ '\n' :: (notesIndent ++ notesText body.toList ++ '\n' :: ([] ++ '\n' :: []))) := by
    have hhead : (tab ++ "??? note \"Release Notes\"\n\n").toList = notesHead ++ ['\n', '\n'] := by decide
    have hindent : (tabs 2).toList = notesIndent := by decide
    have hend : "\n\n".toList = ['\n', '\n'] := by decide
    unfold releaseNotes
    rw [String.toList_append, String.toList_append, String.toList_append, String.toList_ofList, hhead, hindent, hend]
    simp
  have hnotes : '\n' ∉ notesIndent ++ notesText body.toList := by
    rw [List.mem_append, not_or]
    exact ⟨by decide, newline_not_mem_notesText _⟩
  rw [htext, Text.lines_cons (by decide), Text.lines_cons List.not_mem_nil, Text.lines_cons hnotes,
    Text.lines_cons List.not_mem_nil]
  rfl

/-! ## §3. Lines that are kept. -/

/-- Whether a line holds blanks only. -/
def isBlank (line : Text) : Bool :=
  line.all isSpace

/-- A line as it should be shown: indented by at least eight spaces, and unchanged but for the level of a heading. -/
def IsShownAs (line shown : Text) : Prop :=
  ∃ n, 8 ≤ n ∧ shown = List.replicate n ' ' ++ lowered line

/-- A text keeps the lines of notes: those that are not blank have lines of their own there, in their order. -/
def KeepsLines (body text : Text) : Prop :=
  ∃ shown, shown.Sublist (lines text) ∧ List.Forall₂ IsShownAs ((lines body).filter (!isBlank ·)) shown

/-- The only place for a line of notes is the one line on which all of them stand. -/
theorem keepsLines_releaseNotes_iff (body : String) :
    KeepsLines body.toList (releaseNotes body).toList ↔
      (lines body.toList).filter (!isBlank ·) = [] ∨ ∃ line, (lines body.toList).filter (!isBlank ·) = [line] ∧
        IsShownAs line (notesIndent ++ notesText body.toList) := by
  have hindented : ∀ {line shown}, IsShownAs line shown → startsWith shown notesIndent = true := by
    rintro line shown ⟨n, hn, rfl⟩
    rw [Text.startsWith_iff]
    exact (List.prefix_replicate_iff.mpr ⟨by simpa [notesIndent] using hn, rfl⟩).trans (List.prefix_append _ _)
  -- the lines around it are not indented enough
  have hplace : (lines (releaseNotes body).toList).filter (startsWith · notesIndent)
      = [notesIndent ++ notesText body.toList] := by
    have hnotes : startsWith (notesIndent ++ notesText body.toList) notesIndent = true :=
      Text.startsWith_iff.mpr (List.prefix_append _ _)
    rw [lines_releaseNotes, List.filter_cons_of_neg (by decide), List.filter_cons_of_neg (by decide),
      List.filter_cons, if_pos hnotes]
    rfl
  unfold KeepsLines
  constructor
  · rintro ⟨shown, hsub, hshown⟩
    have hsub' := hsub.filter (startsWith · notesIndent)
    rw [hplace] at hsub'
    generalize (lines body.toList).filter (!isBlank ·) = solid at hshown ⊢
    cases hshown with
    | nil => exact .inl rfl
    | cons hfirst hrest =>
      cases hrest with
      | nil =>
        rw [List.filter_cons, if_pos (hindented hfirst)] at hsub'
        obtain rfl := List.mem_singleton.mp (hsub'.subset List.mem_cons_self)
        exact .inr ⟨_, rfl, hfirst⟩
      | cons hsecond _ =>
        rw [List.filter_cons, if_pos (hindented hfirst), List.filter_cons, if_pos (hindented hsecond)] at hsub'
        have hlength := hsub'.length_le
        simp only [List.length_cons, List.length_nil] at hlength
        omega
  · rintro (hnone | ⟨line, hone, hshown⟩)
    · exact ⟨[], List.nil_sublist _, by rw [hnone]; exact .nil⟩
    · refine ⟨[notesIndent ++ notesText body.toList], ?_, by rw [hone]; exact .cons hshown .nil⟩
      rw [← hplace]
      exact List.filter_sublist

/-! ## §4. A line among blank ones. -/

section Ends

variable {line lead rest front tail : Text} {c : Char}

/-- A line with something on it has a first character that is no blank. -/
theorem exists_first_of_not_blank (h : isBlank line = false) :
    ∃ lead c rest, line = lead ++ c :: rest ∧ (∀ d ∈ lead, isSpace d = true) ∧ isSpace c = false := by
  have hcut : line = line.takeWhile isSpace ++ line.dropWhile isSpace := List.takeWhile_append_dropWhile.symm
  cases hdrop : line.dropWhile isSpace with
  | nil =>
    have hall : line.all isSpace = true := List.all_eq_true.mpr (List.dropWhile_eq_nil_iff.mp hdrop)
    rw [isBlank, hall] at h
    cases h
  | cons c rest =>
    refine ⟨line.takeWhile isSpace, c, rest, hdrop ▸ hcut, List.all_eq_true.mp List.all_takeWhile, ?_⟩
    have hsolid := List.head?_dropWhile_not isSpace line
    rw [hdrop] at hsolid
    simpa using hsolid

/-- It has a last one as well. -/
theorem exists_last_of_not_blank (h : isBlank line = false) :
    ∃ front c tail, line = front ++ c :: tail ∧ (∀ d ∈ tail, isSpace d = true) ∧ isSpace c = false := by
  have hreverse : isBlank line.reverse = false := by rw [isBlank, List.all_reverse, ← isBlank, h]
  obtain ⟨lead, c, rest, hcut, hlead, hc⟩ := exists_first_of_not_blank hreverse
  refine ⟨rest.reverse, c, lead.reverse, ?_, by simpa using hlead, hc⟩
  rw [← List.reverse_reverse line, hcut]
  simp

theorem hash_not_mem_of_blank (h : ∀ d ∈ lead, isSpace d = true) : '#' ∉ lead := by
  intro hhash
  have hspace := h '#' hhash
  cases hspace

theorem trimRight_append (htail : ∀ d ∈ tail, isSpace d = true) (hc : isSpace c = false) :
    trimRight (front ++ c :: tail) = front ++ [c] := by
  have htext : (front ++ c :: tail).reverse = tail.reverse ++ (c :: front.reverse) := by simp
  unfold trimRight Text.dropRightWhile
  rw [htext, ← trimLeft, Text.trimLeft_append (by simpa using htail) (by simpa using hc)]
  simp

/-- Behind its last character a line is deepened to itself. -/
theorem exists_deepen_concat (htail : ∀ d ∈ tail, isSpace d = true) (c : Char) (front : Text) :
    ∃ front', deepen (front ++ c :: tail) = front' ++ c :: tail := by
  induction front with
  | nil =>
    have hhash := hash_not_mem_of_blank htail
    refine ⟨[], ?_⟩
    rw [List.nil_append, deepen, if_neg, deepen_of_not_mem hhash]
    intro hstart
    obtain ⟨-, rest, rfl⟩ := startsMark_iff.mp hstart
    exact hhash List.mem_cons_self
  | cons d front ih =>
    obtain ⟨front', hfront'⟩ := ih
    rw [List.cons_append, deepen, hfront']
    split
    · exact ⟨'#' :: d :: front', rfl⟩
    · exact ⟨d :: front', rfl⟩

theorem trimLeft_solid (hlead : ∀ d ∈ lead, isSpace d = true) (hc : isSpace c = false) (rest : Text) :
    trimLeft (lead ++ c :: rest) = c :: rest :=
  Text.trimLeft_append hlead (by simpa using hc)

/-- In front of its first character a line is lowered to itself. -/
theorem lowered_eq (hlead : ∀ d ∈ lead, isSpace d = true) (hc : isSpace c = false) (rest : Text) :
    lowered (lead ++ c :: rest)
      = lead ++ if isHeading (lead ++ c :: rest) then '#' :: c :: rest else c :: rest := by
  have htake : (lead ++ c :: rest).takeWhile isSpace = lead := by
    rw [List.takeWhile_append_of_pos hlead, List.takeWhile_cons_of_neg (by simp [hc]), List.append_nil]
  unfold lowered
  rw [htake, trimLeft_solid hlead hc]
  split <;> rfl

theorem exists_lowered_concat (hc : isSpace c = false) (front tail : Text) :
    ∃ front', lowered (front ++ c :: tail) = front' ++ c :: tail := by
  unfold lowered
  split
  · unfold trimLeft
    rw [List.dropWhile_append]
    split
    · rw [List.dropWhile_cons_of_neg (by simp [hc])]
      exact ⟨(front ++ c :: tail).takeWhile isSpace ++ ['#'], by simp⟩
    · exact ⟨(front ++ c :: tail).takeWhile isSpace ++ '#' :: front.dropWhile isSpace, by simp⟩
  · exact ⟨front, rfl⟩

end Ends

theorem joinWith_cons (sep line : Text) (post : List Text) :
    joinWith sep (line :: post) = line ++ (post.map (sep ++ ·)).flatten := by
  induction post generalizing line with
  | nil => exact (List.append_nil line).symm
  | cons l post ih =>
    rw [joinWith, ih, List.map_cons, List.flatten_cons, List.append_assoc, List.append_assoc]
    simp

/-- Blank lines are not changed. -/
theorem map_deepen_of_blank {ls : List Text} (h : ∀ l ∈ ls, isBlank l = true) : ls.map deepen = ls := by
  have hid : ∀ l ∈ ls, deepen l = id l := fun l hl =>
    deepen_of_not_mem (hash_not_mem_of_blank (List.all_eq_true.mp (h l hl)))
  rw [List.map_congr_left hid, List.map_id]

/-- What stands in front of a line on the line of all notes. -/
def leadIn (pre : List Text) : Text :=
  notesIndent ++ (pre.map (· ++ notesIndent)).flatten

theorem mem_leadIn {pre : List Text} {c : Char} (h : c ∈ leadIn pre) : c = ' ' ∨ ∃ l ∈ pre, c ∈ l := by
  rcases List.mem_append.mp h with h | h
  · exact .inl (List.eq_of_mem_replicate h)
  · obtain ⟨piece, hpiece, h⟩ := List.mem_flatten.mp h
    obtain ⟨l, hl, rfl⟩ := List.mem_map.mp hpiece
    rcases List.mem_append.mp h with h | h
    · exact .inr ⟨l, hl, h⟩
    · exact .inl (List.eq_of_mem_replicate h)

/-- Behind the last character of a line that is shown nothing is added. Without the blanks at the end both sides are
equally long. -/
theorem eq_nil_of_shown {before line : Text} {post : List Text} {n : Nat} (hpost : ∀ l ∈ post, isBlank l = true)
    (hline : isBlank line = false)
    (h : before ++ (deepen line ++ (post.map (notesIndent ++ ·)).flatten) = List.replicate n ' ' ++ lowered line) :
    post = [] := by
  obtain ⟨front, c, tail, rfl, htail, hc⟩ := exists_last_of_not_blank hline
  obtain ⟨deep, hdeep⟩ := exists_deepen_concat htail c front
  obtain ⟨low, hlow⟩ := exists_lowered_concat hc front tail
  have hends : before ++ deep ++ c :: (tail ++ (post.map (notesIndent ++ ·)).flatten)
      = List.replicate n ' ' ++ low ++ c :: tail := by
    rw [hdeep, hlow] at h
    simpa using h
  have htail' : ∀ d ∈ tail ++ (post.map (notesIndent ++ ·)).flatten, isSpace d = true := by
    refine List.forall_mem_append.mpr ⟨htail, fun d hd => ?_⟩
    obtain ⟨piece, hpiece, hd⟩ := List.mem_flatten.mp hd
    obtain ⟨l, hl, rfl⟩ := List.mem_map.mp hpiece
    rcases List.mem_append.mp hd with hd | hd
    · exact Text.isSpace_of_mem_spaces hd
    · exact List.all_eq_true.mp (hpost l hl) d hd
  have htrim := congrArg trimRight hends
  rw [trimRight_append htail' hc, trimRight_append htail hc] at htrim
  have hlength := congrArg List.length hends
  have hlength' := congrArg List.length htrim
  cases post with
  | nil => rfl
  | cons l post =>
    simp only [List.map_cons, List.flatten_cons, List.length_append, List.length_cons, notesIndent,
      List.length_replicate] at hlength hlength'
    omega

/-- In front of the first character of a line that is shown stand spaces only. Without the blanks in front both sides
are the same text. -/
theorem lead_of_shown {before line : Text} {n : Nat} (hbefore : ∀ c ∈ before, isSpace c = true)
    (hline : isBlank line = false) (h : before ++ deepen line = List.replicate n ' ' ++ lowered line) :
    before = List.replicate n ' ' ∧ deepen line = lowered line := by
  obtain ⟨lead, c, rest, rfl, hlead, hc⟩ := exists_first_of_not_blank hline
  obtain ⟨d, deep, hdeep, hd⟩ : ∃ d deep, deepen (lead ++ c :: rest) = lead ++ d :: deep ∧ isSpace d = false := by
    rw [deepen_append_of_not_mem (hash_not_mem_of_blank hlead), deepen]
    split
    · exact ⟨'#', c :: deepen rest, rfl, rfl⟩
    · exact ⟨c, deepen rest, rfl, hc⟩
  obtain ⟨e, low, hlow, he⟩ : ∃ e low, lowered (lead ++ c :: rest) = lead ++ e :: low ∧ isSpace e = false := by
    rw [lowered_eq hlead hc]
    split
    · exact ⟨'#', c :: rest, rfl, rfl⟩
    · exact ⟨c, rest, rfl, hc⟩
  have hblank : ∀ {front : Text}, (∀ b ∈ front, isSpace b = true) → ∀ b ∈ front ++ lead, isSpace b = true := by
    intro front hfront
    exact List.forall_mem_append.mpr ⟨hfront, hlead⟩
  rw [hdeep, hlow, ← List.append_assoc, ← List.append_assoc] at h
  have htrim := congrArg trimLeft h
  rw [trimLeft_solid (hblank hbefore) hd, trimLeft_solid (hblank fun b => Text.isSpace_of_mem_spaces) he] at htrim
  rw [htrim, List.append_cancel_right_eq, List.append_cancel_right_eq] at h
  exact ⟨h, by rw [hdeep, hlow, htrim]⟩

/-- **A line among blank ones is shown as it should be** exactly if it is the last one, spaces are all that stands in
front, and no mark of a heading is changed but its own. -/
theorem isShownAs_iff {pre post : List Text} {line : Text} (hpre : ∀ l ∈ pre, isBlank l = true)
    (hpost : ∀ l ∈ post, isBlank l = true) (hline : isBlank line = false) :
    IsShownAs line (notesIndent ++ joinWith notesIndent ((pre ++ line :: post).map deepen)) ↔
      post = [] ∧ (∀ l ∈ pre, ∀ c ∈ l, c = ' ') ∧ deepen line = lowered line := by
  have htext : notesIndent ++ joinWith notesIndent ((pre ++ line :: post).map deepen)
      = leadIn pre ++ (deepen line ++ (post.map (notesIndent ++ ·)).flatten) := by
    rw [List.map_append, List.map_cons, map_deepen_of_blank hpre, map_deepen_of_blank hpost,
      Text.joinWith_append _ _ (by simp), joinWith_cons, leadIn, List.append_assoc]
  rw [htext]
  constructor
  · rintro ⟨n, -, hshown⟩
    obtain rfl := eq_nil_of_shown hpost hline hshown
    have hblank : ∀ c ∈ leadIn pre, isSpace c = true := by
      intro c hc
      rcases mem_leadIn hc with rfl | ⟨l, hl, hc⟩
      · rfl
      · exact List.all_eq_true.mp (hpre l hl) c hc
    obtain ⟨hlead, hlevel⟩ := lead_of_shown hblank hline (by simpa using hshown)
    refine ⟨rfl, fun l hl c hc => ?_, hlevel⟩
    have hmem : c ∈ leadIn pre :=
      List.mem_append_right _ (List.mem_flatten.mpr ⟨l ++ notesIndent, List.mem_map.mpr ⟨l, hl, rfl⟩,
        List.mem_append_left _ hc⟩)
    rw [hlead] at hmem
    exact List.eq_of_mem_replicate hmem
  · rintro ⟨rfl, hspaces, hlevel⟩
    have hlead : leadIn pre = List.replicate (leadIn pre).length ' ' := by
      rw [List.eq_replicate_iff]
      refine ⟨rfl, fun c hc => ?_⟩
      rcases mem_leadIn hc with rfl | ⟨l, hl, hc⟩
      · rfl
      · exact hspaces l hl c hc
    refine ⟨(leadIn pre).length, ?_, ?_⟩
    · rw [leadIn, List.length_append]
      exact Nat.le_add_right 8 _
    · rw [← hlead, hlevel]
      simp

theorem deepen_marks (k : Nat) (text : Text) :
    deepen (List.replicate (k + 2) '#' ++ ' ' :: text) = List.replicate (k + 3) '#' ++ deepen (' ' :: text) := by
  induction k with
  | zero =>
    show deepen ('#' :: '#' :: ' ' :: text) = '#' :: '#' :: '#' :: deepen (' ' :: text)
    rw [deepen, if_pos (startsMark_iff.mpr ⟨rfl, text, rfl⟩), deepen_sign]
  | succ k ih =>
    rw [List.replicate_succ, List.cons_append, deepen, if_neg, ih]
    · rfl
    · intro hmark
      obtain ⟨-, rest, hcut⟩ := startsMark_iff.mp hmark
      -- a third hash sign stands where the space of the mark would
      exact absurd (List.cons.inj (List.cons.inj hcut).2).1 (by decide)

/-- A heading is blanks, its signs and what it says. -/
theorem exists_of_isHeading {line : Text} (h : isHeading line = true) :
    ∃ lead k text, (∀ d ∈ lead, isSpace d = true) ∧ line = lead ++ (List.replicate (k + 2) '#' ++ ' ' :: text) ∧
      wording line = ' ' :: text := by
  have hwording : wording line = (trimLeft line).dropWhile (· == '#') := if_pos h
  unfold isHeading at h
  rw [Bool.and_eq_true, decide_eq_true_eq, beq_iff_eq] at h
  obtain ⟨htwo, hspace⟩ := h
  obtain ⟨text, htext⟩ := List.head?_eq_some_iff.mp hspace
  obtain ⟨lead, hlead, hblank⟩ := Text.exists_trimLeft line
  obtain ⟨k, hk⟩ := Nat.exists_eq_add_of_le' htwo
  have hsigns : (trimLeft line).takeWhile (· == '#') = List.replicate (k + 2) '#' := by
    rw [List.eq_replicate_iff]
    refine ⟨hk, fun c hc => ?_⟩
    exact beq_iff_eq.mp (List.all_eq_true.mp List.all_takeWhile c hc)
  refine ⟨lead, k, text, hblank, ?_, hwording.trans htext⟩
  rw [← hsigns, ← htext, List.takeWhile_append_dropWhile]
  exact hlead

/-- **Only the level of a heading changes** exactly if no mark stands in what a line says. -/
theorem deepen_eq_lowered_iff {line : Text} :
    deepen line = lowered line ↔ contains (wording line) headingMark = false := by
  by_cases h : isHeading line = true
  · obtain ⟨lead, k, text, hlead, hcut, hwording⟩ := exists_of_isHeading h
    have hlowered : lowered line = lead ++ (List.replicate (k + 3) '#' ++ ' ' :: text) := by
      rw [List.replicate_succ, List.cons_append] at hcut
      have heq := lowered_eq hlead (c := '#') rfl (List.replicate (k + 1) '#' ++ ' ' :: text)
      rw [← hcut, if_pos h] at heq
      exact heq
    rw [hlowered, hwording, ← deepen_eq_self_iff, hcut, deepen_append_of_not_mem (hash_not_mem_of_blank hlead),
      deepen_marks, List.append_cancel_left_eq, List.append_cancel_left_eq]
  · rw [lowered, if_neg h, wording, if_neg h]
    exact deepen_eq_self_iff

/-! ## §5. Which notes keep their lines. -/

/-- What is left of the lines of notes: all that are not empty, and the last one. -/
theorem exists_kept (body : Text) :
    ∃ kept : List Text, notesText body = joinWith notesIndent (kept.map deepen) ∧ Text.DropsEmpty (lines body) kept := by
  obtain ⟨first, kept, rest, hkept, hrest, hdrops⟩ := Text.exists_lines_replace_pairs body
  refine ⟨first :: kept, by rw [notesText_eq, hkept], ?_⟩
  rw [hrest]
  exact hdrops.cons first

theorem filter_not_blank (ls : List Text) :
    (ls.filter (!·.isEmpty)).filter (!isBlank ·) = ls.filter (!isBlank ·) := by
  rw [List.filter_filter]
  refine List.filter_congr fun l _ => ?_
  cases l <;> simp [isBlank]

/-- Notes that are one line, with spaces and newlines in front. -/
structure IsSoleLine (body front line : Text) : Prop where
  /-- The line ends the notes. -/
  isLine : Text.IsLine body front line []
  /-- In front stand spaces and newlines. -/
  front : ∀ c ∈ front, c = ' ' ∨ c = '\n'
  /-- There is something on the line. -/
  solid : isBlank line = false

/-- The lines in front hold spaces only. -/
theorem IsSoleLine.exists_lines {body front line : Text} (h : IsSoleLine body front line) :
    ∃ pre, lines body = pre ++ [line] ∧ ∀ l ∈ pre, ∀ c ∈ l, c = ' ' := by
  have hcut : body = front ++ line := by simpa using h.isLine.cut
  rcases h.isLine.starts with rfl | habove
  · exact ⟨[], by rw [hcut, List.nil_append, Text.lines_of_solid h.isLine.solid, List.nil_append], by simp⟩
  · obtain ⟨above, rfl⟩ := List.getLast?_eq_some_iff.mp habove
    refine ⟨lines above, ?_, fun l hl c hc => ?_⟩
    · rw [hcut, List.append_assoc, List.singleton_append, Text.lines_append_newline,
        Text.lines_of_solid h.isLine.solid]
    · obtain ⟨before, below, hline⟩ := Text.exists_isLine_of_mem above hl
      have hmem : c ∈ above ++ ['\n'] := by
        rw [hline.cut]
        simp [hc]
      rcases h.front c hmem with rfl | rfl
      · rfl
      · exact absurd hc hline.solid

/-- Lines of spaces in front of a last one make it the sole line. -/
theorem isSoleLine_of_lines {body line : Text} {pre : List Text} (hlines : lines body = pre ++ [line])
    (hspaces : ∀ l ∈ pre, ∀ c ∈ l, c = ' ') (hline : isBlank line = false) :
    IsSoleLine body (pre.map (· ++ ['\n'])).flatten line := by
  have hcut : body = (pre.map (· ++ ['\n'])).flatten ++ line := by
    rw [← Text.joinWith_lines body, hlines, Text.joinWith_append _ _ (by simp)]
    rfl
  have hsolid : '\n' ∉ line := by
    have hmem : line ∈ lines body := by simp [hlines]
    exact newline_of_mem_lines hmem
  refine ⟨⟨by simpa using hcut, ?_, hsolid, .inl rfl⟩, ?_, hline⟩
  · rcases List.eq_nil_or_concat pre with rfl | ⟨pre', l, rfl⟩
    · exact .inl rfl
    · exact .inr (by simp)
  · intro c hc
    obtain ⟨piece, hpiece, hc⟩ := List.mem_flatten.mp hc
    obtain ⟨l, hl, rfl⟩ := List.mem_map.mp hpiece
    rcases List.mem_append.mp hc with hc | hc
    · exact .inl (hspaces l hl c hc)
    · exact .inr (List.mem_singleton.mp hc)

/-- **A sole line is seen on the lines that are left.** -/
theorem exists_isSoleLine_iff {body line : Text} {kept : List Text} (hdrops : Text.DropsEmpty (lines body) kept)
    (hline : isBlank line = false) :
    (∃ front, IsSoleLine body front line) ↔ ∃ pre, kept = pre ++ [line] ∧ ∀ l ∈ pre, ∀ c ∈ l, c = ' ' := by
  constructor
  · rintro ⟨front, hsole⟩
    obtain ⟨pre, hlines, hspaces⟩ := hsole.exists_lines
    have hlast := hdrops.last
    rw [hlines, List.getLast?_concat] at hlast
    obtain ⟨left, rfl⟩ := List.getLast?_eq_some_iff.mp hlast
    have hsub := hdrops.sublist
    rw [hlines, List.append_sublist_append_right] at hsub
    exact ⟨left, rfl, fun l hl => hspaces l (hsub.subset hl)⟩
  · rintro ⟨left, rfl, hspaces⟩
    have hlast := hdrops.last
    rw [List.getLast?_concat] at hlast
    obtain ⟨pre, hlines⟩ := List.getLast?_eq_some_iff.mp hlast.symm
    have hfilter := hdrops.filter
    rw [hlines, List.filter_append, List.filter_append, List.append_cancel_right_eq] at hfilter
    refine ⟨_, isSoleLine_of_lines hlines (fun l hl c hc => ?_) hline⟩
    -- a line with a character on it is left
    have hleft : l ∈ left.filter (!·.isEmpty) := by
      rw [hfilter, List.mem_filter]
      exact ⟨hl, by simpa using List.ne_nil_of_mem hc⟩
    exact hspaces l (List.mem_of_mem_filter hleft) c hc

/-- What is written for notes has one line for all that is left of them: the lines that are not blank stand there in
their order, each with one hash sign more in every mark of a heading. The notes keep their lines exactly if there is
nothing on them, or if there is something on the last one only, spaces and newlines stand in front of it, and no mark
of a heading stands in what it says. -/
theorem notes_keep_lines_iff (body : String) :
    (∃ kept : List Text, kept.Sublist (lines body.toList) ∧
        kept.filter (!isBlank ·) = (lines body.toList).filter (!isBlank ·) ∧
        lines (releaseNotes body).toList = [notesHead, [],
          notesIndent ++ joinWith notesIndent (kept.map (replace headingMark "### ".toList)), [], []]) ∧
      (KeepsLines body.toList (releaseNotes body).toList ↔
        (∀ line ∈ lines body.toList, isBlank line = true) ∨
        ∃ front line, IsSoleLine body.toList front line ∧ contains (wording line) headingMark = false) := by
  obtain ⟨kept, hnotes, hdrops⟩ := exists_kept body.toList
  have hsolid : kept.filter (!isBlank ·) = (lines body.toList).filter (!isBlank ·) := by
    rw [← filter_not_blank kept, hdrops.filter, filter_not_blank]
  constructor
  · refine ⟨kept, hdrops.sublist, hsolid, ?_⟩
    rw [lines_releaseNotes, hnotes, funext replace_headingMark]
  · rw [keepsLines_releaseNotes_iff, hnotes]
    refine or_congr (by simp) ⟨?_, ?_⟩
    · rintro ⟨line, hone, hshown⟩
      obtain ⟨pre, post, rfl, hpre, hline, hpost⟩ := List.filter_eq_cons_iff.mp (hsolid.trans hone)
      have hline' : isBlank line = false := by simpa using hline
      obtain ⟨rfl, hspaces, hlevel⟩ := (isShownAs_iff (by simpa using hpre) (by simpa using hpost) hline').mp hshown
      obtain ⟨front, hsole⟩ := (exists_isSoleLine_iff hdrops hline').mpr ⟨pre, rfl, hspaces⟩
      exact ⟨front, line, hsole, deepen_eq_lowered_iff.mp hlevel⟩
    · rintro ⟨front, line, hsole, hmark⟩
      obtain ⟨pre, rfl, hspaces⟩ := (exists_isSoleLine_iff hdrops hsole.solid).mp ⟨front, hsole⟩
      have hpre : ∀ l ∈ pre, isBlank l = true := by
        intro l hl
        refine List.all_eq_true.mpr fun c hc => ?_
        rw [hspaces l hl c hc]
        rfl
      refine ⟨line, ?_, ?_⟩
      · rw [← hsolid, List.filter_append, List.filter_eq_nil_iff.mpr (by simpa using hpre)]
        simp [hsole.solid]
      · exact (isShownAs_iff hpre (List.forall_mem_nil _) hsole.solid).mpr
          ⟨rfl, hspaces, deepen_eq_lowered_iff.mpr hmark⟩

/-- Two lines of notes stand on one line. -/
theorem two_lines_on_one :
    lines (releaseNotes "a\nb").toList = [notesHead, [], "        a        b".toList, [], []] ∧
      ¬ KeepsLines "a\nb".toList (releaseNotes "a\nb").toList := by
  refine ⟨lines_releaseNotes "a\nb", ?_⟩
  rw [keepsLines_releaseNotes_iff]
  have hsolid : (lines "a\nb".toList).filter (!isBlank ·) = [['a'], ['b']] := by decide
  rw [hsolid]
  simp

end DocLint.Changelog
