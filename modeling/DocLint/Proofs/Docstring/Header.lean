import DocLint.Docstring.Header
import DocLint.Proofs.Text.Class
import Mathlib.Data.List.TakeWhile

/-!
DocLint.Proofs.Docstring.Header: how headers are written.

A run is the longest front part of a text in one class. The classes of a header change from part to part, so
that there is one way to read it: a word with a colon is read where it stands (`colonWord?_eq_some_iff`), and an
admonition is read exactly where it is written (`admonitionAt?_eq_some_iff`).
-/

namespace DocLint.Docstring

open Text (isSpace isWord)

/-! ## §1. Runs of characters. -/

/-- What a run is: a front part of the text, not empty, all of the class, which the rest does not
continue. -/
theorem run?_eq_some {p : Char → Bool} {cs ds rest : Text} :
    run? p cs = some (ds, rest)
      ↔ ds ≠ [] ∧ cs = ds ++ rest ∧ (∀ c ∈ ds, p c = true)
        ∧ ∀ c, rest.head? = some c → p c = false := by
  have hall : ∀ c ∈ cs.takeWhile p, p c = true := List.all_eq_true.mp List.all_takeWhile
  have hstop : ∀ c, (cs.dropWhile p).head? = some c → p c = false := by
    intro c hc
    have h := List.head?_dropWhile_not p cs
    rw [hc] at h
    simpa using h
  have hcut : cs.takeWhile p ++ cs.dropWhile p = cs := List.takeWhile_append_dropWhile
  constructor
  · intro h
    unfold run? at h
    split at h
    · cases h
    · next hne =>
      cases h
      exact ⟨hne, hcut.symm, hall, hstop⟩
  · rintro ⟨hne, rfl, hds, hrest⟩
    have htake : (ds ++ rest).takeWhile p = ds := by
      rw [List.takeWhile_append_of_pos hds]
      cases rest with
      | nil => simp
      | cons c rest => simp [hrest c rfl]
    have hdrop : (ds ++ rest).dropWhile p = rest := by
      rw [htake] at hcut
      exact List.append_cancel_left hcut
    unfold run?
    rw [htake, hdrop]
    cases ds with
    | nil => exact absurd rfl hne
    | cons d ds => rfl

/-- One or more characters of a class. -/
def IsRun (p : Char → Bool) (cs : Text) : Prop :=
  cs ≠ [] ∧ ∀ c ∈ cs, p c = true

/-- A run ends where the next part starts with a character of another class. -/
theorem IsRun.run? {p : Char → Bool} {cs rest : Text} (h : IsRun p cs)
    (hrest : ∀ c, rest.head? = some c → p c = false) : run? p (cs ++ rest) = some (cs, rest) :=
  run?_eq_some.mpr ⟨h.1, rfl, h.2, hrest⟩

theorem IsRun.head?_append {p : Char → Bool} {cs : Text} (h : IsRun p cs) (rest : Text) {c : Char}
    (hc : (cs ++ rest).head? = some c) : p c = true := by
  cases cs with
  | nil => exact absurd rfl h.1
  | cons d ds =>
    obtain rfl : d = c := Option.some.inj hc
    exact h.2 d List.mem_cons_self

/-! ## §2. Words with a colon. -/

theorem colonWord?_eq_some_iff {cs word : Text} :
    colonWord? cs = some word ↔ IsRun isWord word ∧ ∃ rest, cs = word ++ ':' :: rest := by
  constructor
  · intro h
    unfold colonWord? at h
    split at h
    · next w rest hrun =>
      obtain rfl : w = word := Option.some.inj h
      obtain ⟨hne, hcut, hword, -⟩ := run?_eq_some.mp hrun
      exact ⟨⟨hne, hword⟩, rest, hcut⟩
    · cases h
  · rintro ⟨hword, rest, rfl⟩
    have hcolon : ∀ c, (':' :: rest).head? = some c → isWord c = false := by
      rintro c ⟨⟩
      decide
    unfold colonWord?
    simp only [hword.run? hcolon]

/-! ## §3. Admonitions. -/

/-- The marks in front of admonitions. -/
def marks : List Text :=
  [['?', '?', '?', '+'], ['?', '?', '?'], ['!', '!', '!']]

/-- **How an admonition is written**: a mark, a word and a title in quotes, with blanks between them. -/
inductive Admonition.IsWritten : Admonition → Prop where
  /-- The parts, in this order. -/
  | mk {mark gap word gap' title : Text} :
      mark ∈ marks → IsRun isSpace gap → IsRun isWord word → IsRun isSpace gap' →
      IsRun (· != '"') title →
      IsWritten ⟨word, title, mark ++ gap ++ word ++ gap' ++ '"' :: title ++ ['"']⟩

theorem mark?_eq_some {cs mark rest : Text} (h : mark? cs = some (mark, rest)) :
    mark ∈ marks ∧ cs = mark ++ rest := by
  unfold mark? at h
  split at h
  all_goals first
    | cases h; exact ⟨by decide, rfl⟩
    | cases h

/-- The plus is never left behind by the shorter mark. -/
theorem mark?_append {mark rest : Text} (hmark : mark ∈ marks) (hplus : rest.head? ≠ some '+') :
    mark? (mark ++ rest) = some (mark, rest) := by
  simp only [marks, List.mem_cons, List.not_mem_nil, or_false] at hmark
  rcases hmark with rfl | rfl | rfl
  · rfl
  · refine mark?.eq_2 rest ?_
    rintro after rfl
    exact hplus rfl
  · rfl

theorem quotedTitle?_eq_some_iff {cs title rest : Text} :
    quotedTitle? cs = some (title, rest)
      ↔ IsRun (· != '"') title ∧ cs = '"' :: (title ++ '"' :: rest) := by
  constructor
  · intro h
    unfold quotedTitle? at h
    split at h
    · split at h
      · next t after hrun =>
        cases h
        obtain ⟨hne, rfl, htitle, -⟩ := run?_eq_some.mp hrun
        exact ⟨⟨hne, htitle⟩, rfl⟩
      · cases h
    · cases h
  · rintro ⟨htitle, rfl⟩
    have hquote : ∀ c, ('"' :: rest).head? = some c → (c != '"') = false := by
      rintro c ⟨⟩
      rfl
    unfold quotedTitle?
    simp only [htitle.run? hquote]

/-- **An admonition is read exactly where it is written.** -/
theorem admonitionAt?_eq_some_iff {cs rest : Text} {a : Admonition} :
    admonitionAt? cs = some (a, rest) ↔ a.IsWritten ∧ cs = a.written ++ rest := by
  constructor
  · intro h
    unfold admonitionAt? at h
    simp only [Option.bind_eq_bind, Option.bind_eq_some_iff, Prod.exists] at h
    obtain ⟨mark, s₁, hmark, gap, s₂, hgap, word, s₃, hword, gap', s₄, hgap', title, s₅, htitle, heq⟩ := h
    cases heq
    obtain ⟨hmarks, rfl⟩ := mark?_eq_some hmark
    obtain ⟨hne₁, rfl, hblank₁, -⟩ := run?_eq_some.mp hgap
    obtain ⟨hne₂, rfl, hletters, -⟩ := run?_eq_some.mp hword
    obtain ⟨hne₃, rfl, hblank₃, -⟩ := run?_eq_some.mp hgap'
    obtain ⟨hquoted, rfl⟩ := quotedTitle?_eq_some_iff.mp htitle
    exact ⟨.mk hmarks ⟨hne₁, hblank₁⟩ ⟨hne₂, hletters⟩ ⟨hne₃, hblank₃⟩ hquoted, by simp⟩
  · rintro ⟨@⟨mark, gap, word, gap', title, hmark, hgap, hword, hgap', htitle⟩, rfl⟩
    -- each part ends where the class of the next one begins
    have htail : quotedTitle? ('"' :: (title ++ '"' :: rest)) = some (title, rest) :=
      quotedTitle?_eq_some_iff.mpr ⟨htitle, rfl⟩
    have hgap₃ : run? isSpace (gap' ++ ('"' :: (title ++ '"' :: rest)))
        = some (gap', '"' :: (title ++ '"' :: rest)) := by
      refine hgap'.run? ?_
      rintro c ⟨⟩
      rfl
    have hword₂ : run? isWord (word ++ (gap' ++ ('"' :: (title ++ '"' :: rest))))
        = some (word, gap' ++ ('"' :: (title ++ '"' :: rest))) := by
      refine hword.run? fun c hc => ?_
      by_contra hletter
      have hspace := hgap'.head?_append _ hc
      rw [Text.isSpace_of_isWord (by simpa using hletter)] at hspace
      cases hspace
    have hgap₁ : run? isSpace (gap ++ (word ++ (gap' ++ ('"' :: (title ++ '"' :: rest)))))
        = some (gap, word ++ (gap' ++ ('"' :: (title ++ '"' :: rest)))) :=
      hgap.run? fun c hc => Text.isSpace_of_isWord (hword.head?_append _ hc)
    have hmark₀ : mark? (mark ++ (gap ++ (word ++ (gap' ++ ('"' :: (title ++ '"' :: rest))))))
        = some (mark, gap ++ (word ++ (gap' ++ ('"' :: (title ++ '"' :: rest))))) := by
      refine mark?_append hmark fun hplus => ?_
      have hspace := hgap.head?_append _ hplus
      revert hspace
      decide
    have hcut : mark ++ gap ++ word ++ gap' ++ '"' :: title ++ ['"'] ++ rest
        = mark ++ (gap ++ (word ++ (gap' ++ ('"' :: (title ++ '"' :: rest))))) := by simp
    unfold admonitionAt?
    rw [hcut, hmark₀]
    simp [hgap₁, hword₂, hgap₃, htail]

theorem Admonition.IsWritten.length_pos {a : Admonition} (h : a.IsWritten) : 0 < a.written.length := by
  cases h
  simp only [List.length_append, List.length_cons]
  omega

/-- The characters that marks start with. -/
def StartsMark (c : Char) : Prop :=
  c = '?' ∨ c = '!'

theorem Admonition.IsWritten.exists_startsMark {a : Admonition} (h : a.IsWritten) :
    ∃ c rest, a.written = c :: rest ∧ StartsMark c := by
  obtain @⟨mark, gap, word, gap', title, hmark, -, -, -, -⟩ := h
  simp only [marks, List.mem_cons, List.not_mem_nil, or_false] at hmark
  rcases hmark with rfl | rfl | rfl
  · exact ⟨_, _, rfl, .inl rfl⟩
  · exact ⟨_, _, rfl, .inl rfl⟩
  · exact ⟨_, _, rfl, .inr rfl⟩

theorem isSpace_of_mem_mark {mark : Text} (hmark : mark ∈ marks) {c : Char} (hc : c ∈ mark) :
    isSpace c = false := by
  have hall : marks.all (·.all (!isSpace ·)) = true := rfl
  have hsolid := List.all_eq_true.mp (List.all_eq_true.mp hall mark hmark) c hc
  simpa using hsolid

theorem StartsMark.not_blank {c : Char} (h : StartsMark c) : isSpace c = false ∧ isWord c = false ∧ c ≠ '"' := by
  rcases h with rfl | rfl <;> decide

/-- **Where a mark can start inside an admonition**: behind a blank it stands in the title. -/
theorem Admonition.IsWritten.mark_in_title {a : Admonition} (h : a.IsWritten) {front back : Text} {blank c : Char}
    (hcut : a.written = (front ++ [blank]) ++ c :: back) (hblank : isSpace blank = true) (hc : StartsMark c) :
    ∃ head opened rest, front ++ [blank] = head ++ '"' :: opened ∧ a.title = opened ++ c :: rest := by
  obtain @⟨mark, gap, word, gap', title, hmark, hgap, hword, hgap', htitle⟩ := h
  obtain ⟨hspace, hletter, hquote⟩ := hc.not_blank
  have hmiddle : c ∉ gap ++ (word ++ gap') := by
    intro hmem
    rcases List.mem_append.mp hmem with hmem | hmem
    · exact absurd (hgap.2 c hmem) (by simp [hspace])
    · rcases List.mem_append.mp hmem with hmem | hmem
      · exact absurd (hword.2 c hmem) (by simp [hletter])
      · exact absurd (hgap'.2 c hmem) (by simp [hspace])
  have hparts : (mark ++ (gap ++ (word ++ gap'))) ++ ('"' :: (title ++ ['"'])) = (front ++ [blank]) ++ c :: back := by
    rw [← hcut]
    simp
  rcases List.append_eq_append_iff.mp hparts with ⟨seen, hfront, htail⟩ | ⟨unseen, hhead, htail⟩
  · -- the blank stands behind the opening quote
    cases seen with
    | nil => exact absurd (List.cons.inj htail).1.symm hquote
    | cons q opened =>
      obtain ⟨rfl, hopen⟩ := List.cons.inj htail
      obtain rfl | ⟨rest, last, rfl⟩ := List.eq_nil_or_concat back
      · have hlast : title ++ ['"'] = opened ++ [c] := hopen
        exact absurd (List.cons.inj (List.append_inj' hlast rfl).2).1.symm hquote
      · have hlast : title ++ ['"'] = (opened ++ c :: rest) ++ [last] := by
          rw [hopen, List.concat_eq_append, List.append_assoc]
          rfl
        exact ⟨_, opened, rest, hfront, (List.append_inj' hlast rfl).1⟩
  · -- in front of it no mark starts behind a blank
    cases unseen with
    | nil => exact absurd (List.cons.inj htail).1 hquote
    | cons d unseen =>
      obtain ⟨rfl, -⟩ := List.cons.inj htail
      rcases List.append_eq_append_iff.mp hhead with ⟨seen, hfront, hrest⟩ | ⟨inner, hinner, -⟩
      · exact absurd (hrest ▸ List.mem_append_right seen List.mem_cons_self) hmiddle
      · have hmem : blank ∈ mark := by
          rw [hinner]
          simp
        rw [isSpace_of_mem_mark hmark hmem] at hblank
        cases hblank

end DocLint.Docstring
