import DocLint.Proofs.Report.Summary
import DocLint.Report.Plain
import Mathlib.Data.List.TakeWhile

/-!
DocLint.Proofs.Report.Markup: where brackets in a message are shown, and where they are taken for markup.

A mark is a bracket with a tag in it; it counts as markup unless an odd number of backslashes stands in front
of it. Escaping puts them there and changes nothing else (`isEscape_escape`), and an escaped text stays
harmless when it is cut into lines (`isInert_messageLines`). Lists show every message escaped. Tables do not:
a cell is what escaping would give only if no message in it has anything to escape. In plain output marks are left
out, and a text without marks is shown as it is (`unmarked_of_isPlain`).
-/

namespace DocLint.Report

open Text (trim)

/-! ## §1. Marks. -/

/-- A mark: a bracket, a tag in it, and the next closing bracket. -/
def IsMark (m : Text) : Prop :=
  ∃ c inner, m = '[' :: c :: (inner ++ [']']) ∧ startsMark c = true ∧ '[' ∉ inner ∧ ']' ∉ inner

/-- Whether no mark stands in a text. -/
def IsPlain (cs : Text) : Prop :=
  ∀ m, IsMark m → ¬ m <:+: cs

/-- A mark goes from a bracket to a closing one, without another bracket in between. -/
theorem IsMark.exists_tail {m : Text} (h : IsMark m) :
    ∃ tail, m = '[' :: tail ∧ '[' ∉ tail ∧ tail.getLast? = some ']' := by
  obtain ⟨c, inner, rfl, hc, hopen, -⟩ := h
  have hne : '[' ≠ c := by
    rintro rfl
    exact absurd hc (by decide)
  refine ⟨c :: (inner ++ [']']), rfl, by simp [hopen, hne], ?_⟩
  rw [← List.cons_append, List.getLast?_concat]

theorem IsMark.getLast? {m : Text} (h : IsMark m) : m.getLast? = some ']' := by
  obtain ⟨tail, rfl, -, hlast⟩ := h.exists_tail
  rw [List.getLast?_cons, hlast]
  rfl

/-- Characters of a tag: brackets end it. -/
def isTagChar (d : Char) : Bool :=
  d != '[' && d != ']'

theorem takeWhile_isTagChar {inner : Text} (hopen : '[' ∉ inner) (hclose : ']' ∉ inner) (rest : Text) :
    (inner ++ ']' :: rest).takeWhile isTagChar = inner := by
  rw [List.takeWhile_append_of_pos, List.takeWhile_cons_of_neg (by decide), List.append_nil]
  intro d hd
  unfold isTagChar
  rw [Bool.and_eq_true, bne_iff_ne, bne_iff_ne]
  exact ⟨fun h => hopen (h ▸ hd), fun h => hclose (h ▸ hd)⟩

theorem mark?_cons (c : Char) (cs : Text) :
    mark? (c :: cs) = match cs.drop (cs.takeWhile isTagChar).length with
      | ']' :: rest =>
        if startsMark c then some ('[' :: c :: cs.takeWhile isTagChar ++ [']'], rest) else none
      | _ => none := rfl

/-- **The mark in front of a text** is found exactly if there is one. -/
theorem mark?_eq_some_iff {cs m rest : Text} :
    mark? cs = some (m, rest) ↔ '[' :: cs = m ++ rest ∧ IsMark m := by
  constructor
  · intro h
    cases cs with
    | nil => cases h
    | cons c cs =>
      -- what is taken and what is dropped make up the text
      have hcut : cs.takeWhile isTagChar ++ cs.drop (cs.takeWhile isTagChar).length = cs :=
        List.prefix_iff_eq_append.mp (List.takeWhile_prefix isTagChar)
      have htag : ∀ d ∈ cs.takeWhile isTagChar, isTagChar d = true := fun d hd => List.mem_takeWhile_imp hd
      rw [mark?_cons] at h
      split at h
      · next behind hdrop =>
        split at h
        · next hc =>
          rw [hdrop] at hcut
          obtain ⟨rfl, rfl⟩ := Prod.mk.inj (Option.some.inj h)
          refine ⟨?_, c, _, rfl, hc, fun hin => ?_, fun hin => ?_⟩
          · conv_lhs => rw [← hcut]
            simp
          · exact absurd (htag _ hin) (by decide)
          · exact absurd (htag _ hin) (by decide)
        · cases h
      · cases h
  · rintro ⟨hcut, c, inner, rfl, hc, hopen, hclose⟩
    obtain ⟨-, rfl⟩ := List.cons.inj hcut
    rw [List.append_eq, List.cons_append, List.append_assoc, List.singleton_append, mark?_cons,
      takeWhile_isTagChar hopen hclose, List.drop_left]
    exact if_pos hc

theorem not_isMark_of_mark? {cs m : Text} (h : mark? cs = none) (hm : IsMark m) : ¬ m <+: '[' :: cs := by
  rintro ⟨rest, hrest⟩
  rw [mark?_eq_some_iff.mpr ⟨hrest.symm, hm⟩] at h
  cases h

/-! ## §2. Where a mark can stand. -/

/-- A bracket behind a text without brackets stands behind all of it. -/
theorem cut_at_open {xs ys before after : Text} (h : '[' ∉ xs) (hcut : xs ++ ys = before ++ '[' :: after) :
    ∃ gap, before = xs ++ gap ∧ ys = gap ++ '[' :: after := by
  rcases List.append_eq_append_iff.mp hcut with ⟨gap, rfl, rfl⟩ | ⟨gap, rfl, hgap⟩
  · exact ⟨gap, rfl, rfl⟩
  · cases gap with
    | nil => exact ⟨[], by simp, by simpa using hgap.symm⟩
    | cons d gap =>
      obtain ⟨rfl, -⟩ := List.cons.inj hgap
      simp at h

/-- A mark does not reach over an opening bracket: it stands in front of it, or from there on. -/
theorem IsMark.cut {m xs ys before after : Text} (hm : IsMark m) (hys : ys.head? = some '[')
    (hcut : xs ++ ys = before ++ (m ++ after)) :
    m <:+: xs ∨ ∃ gap, before = xs ++ gap ∧ ys = gap ++ (m ++ after) := by
  rcases List.append_eq_append_iff.mp hcut with ⟨gap, rfl, rfl⟩ | ⟨gap, rfl, hgap⟩
  · exact .inr ⟨gap, rfl, rfl⟩
  · rcases List.append_eq_append_iff.mp hgap with ⟨more, rfl, -⟩ | ⟨more, rfl, hmore⟩
    · exact .inl ⟨before, more, by simp⟩
    · obtain ⟨tail, hopen, hfree, -⟩ := hm.exists_tail
      cases more with
      | nil => exact .inl ⟨before, [], by simp⟩
      | cons d more =>
        -- the bracket would be inside the mark, and so its first character
        have hd : d = '[' := by
          rw [hmore] at hys
          simpa using hys
        subst hd
        cases gap with
        | nil => exact .inr ⟨[], by simp, by simpa using hmore⟩
        | cons e gap =>
          obtain ⟨-, rfl⟩ := List.cons.inj hopen
          simp at hfree

theorem IsPlain.append_backslashes {cs : Text} (h : IsPlain cs) (n : Nat) :
    IsPlain (cs ++ List.replicate n '\\') := by
  induction n with
  | zero => simpa using h
  | succ n ih =>
    intro m hm hin
    rw [List.replicate_succ', ← List.append_assoc, List.infix_concat_iff] at hin
    rcases hin with ⟨front, hfront⟩ | hin
    · -- a mark does not end in a backslash
      have hlast := congrArg List.getLast? hfront
      rw [List.getLast?_append, hm.getLast?, List.getLast?_concat, Option.some_or] at hlast
      exact absurd hlast (by decide)
    · exact ih m hm hin

theorem isPlain_backslashes (n : Nat) : IsPlain (List.replicate n '\\') := by
  intro m hm hin
  obtain ⟨tail, rfl, -, -⟩ := hm.exists_tail
  have hmem := List.eq_of_mem_replicate (hin.subset List.mem_cons_self)
  exact absurd hmem (by decide)

/-- No mark starts at a character that opens none. -/
theorem IsPlain.cons {c : Char} {cs : Text} (hc : ∀ m, IsMark m → ¬ m <+: c :: cs) (h : IsPlain cs) :
    IsPlain (c :: cs) := by
  intro m hm hin
  rcases List.infix_cons_iff.mp hin with hfront | hin
  · exact hc m hm hfront
  · exact h m hm hin

theorem IsPlain.prepend_backslashes {cs : Text} (h : IsPlain cs) (n : Nat) :
    IsPlain (List.replicate n '\\' ++ cs) := by
  induction n with
  | zero => exact h
  | succ n ih =>
    rw [List.replicate_succ, List.cons_append]
    refine IsPlain.cons (fun m hm => ?_) ih
    rintro ⟨rest, hrest⟩
    obtain ⟨tail, rfl, -, -⟩ := hm.exists_tail
    cases hrest

/-! ## §3. Escaping. -/

/-- What escaping does to marks: each of them gets one backslash more than twice those in front of it, and
everything else stays. -/
inductive EscapesTo : Text → Text → Prop where
  /-- There is no mark. -/
  | plain {cs : Text} : IsPlain cs → EscapesTo cs cs
  /-- The first mark, and what follows it. -/
  | mark {before m rest out : Text} {n : Nat} : IsPlain before → before.getLast? ≠ some '\\' → IsMark m →
      EscapesTo rest out →
      EscapesTo (before ++ (List.replicate n '\\' ++ (m ++ rest)))
        (before ++ (List.replicate (2 * n + 1) '\\' ++ (m ++ out)))

/-- A character that opens no mark goes in front as it is. -/
theorem EscapesTo.cons {c : Char} {cs out : Text} (n : Nat) (hslash : c ≠ '\\')
    (hc : ∀ m, IsMark m → ¬ m <+: c :: cs) (h : EscapesTo cs out) :
    EscapesTo (List.replicate n '\\' ++ c :: cs) (List.replicate n '\\' ++ c :: out) := by
  cases h with
  | plain hplain => exact .plain ((IsPlain.cons hc hplain).prepend_backslashes n)
  | @mark before m rest out k hbefore hlast hm hrest =>
    have hfront : ∀ m', IsMark m' → ¬ m' <+: c :: before := by
      intro m' hm' hpre
      exact hc m' hm' (hpre.trans ⟨_, rfl⟩)
    have hplain := (IsPlain.cons hfront hbefore).prepend_backslashes n
    -- the run of backslashes in front of the mark does not grow
    have hlast' : (List.replicate n '\\' ++ c :: before).getLast? ≠ some '\\' := by
      rw [List.getLast?_append, List.getLast?_cons]
      cases hb : before.getLast? with
      | none => simpa using hslash
      | some d =>
        rw [hb] at hlast
        simpa using hlast
    simpa using EscapesTo.mark (n := k) hplain hlast' hm hrest

/-- **The run of the escaper.** The backslashes that it has passed belong to the text: they stand in front of what is
left, and wait for a mark. -/
theorem escapesTo_escapeMarks (fuel : Nat) :
    ∀ (cs : Text) (slashes : Nat), cs.length ≤ fuel →
      EscapesTo (List.replicate slashes '\\' ++ cs) (escapeMarks slashes fuel cs) := by
  induction fuel with
  | zero =>
    intro cs slashes hlen
    obtain rfl := List.length_eq_zero_iff.mp (Nat.le_zero.mp hlen)
    rw [List.append_nil]
    show EscapesTo _ (List.replicate slashes '\\' ++ [])
    rw [List.append_nil]
    exact .plain (isPlain_backslashes slashes)
  | succ fuel ih =>
    intro cs slashes hlen
    cases cs with
    | nil =>
      rw [List.append_nil]
      exact .plain (isPlain_backslashes slashes)
    | cons c cs =>
      have hshort : cs.length ≤ fuel := by
        rw [List.length_cons] at hlen
        omega
      unfold escapeMarks
      by_cases hslash : c = '\\'
      · -- one more backslash is waiting
        subst hslash
        have hrest := ih cs (slashes + 1) hshort
        rw [List.replicate_succ'] at hrest
        simpa using hrest
      · rw [if_neg (by simpa using hslash)]
        -- none is waiting behind any other character, so what follows is a run from its start
        have hrest : EscapesTo cs (escapeMarks 0 fuel cs) := ih cs 0 hshort
        by_cases hopen : c = '['
        · subst hopen
          rw [if_pos (by rfl)]
          split
          · next m rest hmark =>
            obtain ⟨hcut, hm⟩ := mark?_eq_some_iff.mp hmark
            have hbehind : rest.length ≤ fuel := by
              have hsum := congrArg List.length hcut
              obtain ⟨tail, rfl, -, -⟩ := hm.exists_tail
              simp only [List.length_cons, List.length_append] at hsum
              omega
            have hnone : ([] : Text).getLast? ≠ some '\\' := by decide
            rw [hcut]
            simpa using @EscapesTo.mark [] m rest _ slashes (isPlain_backslashes 0) hnone hm
              (ih rest 0 hbehind)
          · next hmark =>
            exact hrest.cons slashes hslash fun m hm => not_isMark_of_mark? hmark hm
        · rw [if_neg (by simpa using hopen)]
          refine hrest.cons slashes hslash fun m hm => ?_
          rintro ⟨rest, hcut⟩
          obtain ⟨tail, rfl, -, -⟩ := hm.exists_tail
          exact hopen (List.cons.inj hcut).1.symm

/-- The number of backslashes at the end of a text. -/
def backing (cs : Text) : Nat :=
  (cs.reverse.takeWhile (· == '\\')).length

/-- What escaping makes of a text: its marks are escaped, and a single backslash at the end is doubled. -/
def IsEscape (cs out : Text) : Prop :=
  ∃ body, EscapesTo cs body ∧ out = if backing body = 1 then body ++ ['\\'] else body

/-- A single backslash at the end, as the escaper tells it. -/
theorem escape_eq (cs : Text) :
    escape cs = if backing (escapeMarks 0 cs.length cs) = 1 then escapeMarks 0 cs.length cs ++ ['\\']
      else escapeMarks 0 cs.length cs := by
  unfold escape backing
  dsimp only
  generalize escapeMarks 0 cs.length cs = body
  cases body.reverse with
  | nil => rfl
  | cons c rest =>
    by_cases hc : c = '\\'
    · subst hc
      cases rest with
      | nil => rfl
      | cons d rest =>
        by_cases hd : d = '\\'
        · subst hd
          simp
        · simp [hd]
    · simp [hc]

/-- **Escaping** is what its rule says. -/
theorem isEscape_escape (cs : Text) : IsEscape cs (escape cs) :=
  ⟨_, escapesTo_escapeMarks cs.length cs 0 (Nat.le_refl _), escape_eq cs⟩

/-! ## §4. What has to be escaped. -/

/-- Escaping marks either finds none, or makes the text longer. -/
theorem EscapesTo.cases_length {cs out : Text} (h : EscapesTo cs out) :
    IsPlain cs ∧ out = cs ∨ ¬ IsPlain cs ∧ cs.length < out.length := by
  induction h with
  | plain hplain => exact .inl ⟨hplain, rfl⟩
  | @mark before m rest out n _ _ hm _ ih =>
    refine .inr ⟨fun hplain => ?_, ?_⟩
    · exact hplain m hm ⟨before ++ List.replicate n '\\', rest, by simp⟩
    · have hle : rest.length ≤ out.length := by
        rcases ih with ⟨-, rfl⟩ | ⟨-, hlt⟩ <;> omega
      simp only [List.length_append, List.length_replicate]
      omega

theorem length_le_escape (cs : Text) : cs.length ≤ (escape cs).length := by
  obtain ⟨body, hbody, hout⟩ := isEscape_escape cs
  have hle : cs.length ≤ body.length := by
    rcases hbody.cases_length with ⟨-, rfl⟩ | ⟨-, hlt⟩ <;> omega
  rw [hout]
  split
  · rw [List.length_append]
    omega
  · exact hle

/-- **A text is its own escape** exactly if it holds no mark and does not end in a single backslash. -/
theorem escape_eq_self_iff (cs : Text) : escape cs = cs ↔ IsPlain cs ∧ backing cs ≠ 1 := by
  obtain ⟨body, hbody, hout⟩ := isEscape_escape cs
  rw [hout]
  rcases hbody.cases_length with ⟨hplain, rfl⟩ | ⟨hmarked, hlt⟩
  · by_cases hend : backing body = 1
    · simp [hend]
    · simp [hend, hplain]
  · constructor
    · intro heq
      have hlen := congrArg List.length heq
      split at hlen
      · rw [List.length_append] at hlen
        omega
      · omega
    · intro h
      exact absurd h.1 hmarked

/-! ## §5. What counts as markup. -/

/-- Whether nothing in a text counts as markup: an odd number of backslashes stands in front of each mark. -/
def IsInert (cs : Text) : Prop :=
  ∀ before m after, cs = before ++ (m ++ after) → IsMark m → backing before % 2 = 1

theorem backing_append {xs : Text} (h : xs.getLast? ≠ some '\\') (ys : Text) :
    backing (xs ++ ys) = backing ys := by
  have hnone : xs.reverse.takeWhile (· == '\\') = [] := by
    cases hxs : xs.reverse with
    | nil => rfl
    | cons c cs =>
      have hc : c ≠ '\\' := by
        rintro rfl
        exact h (by rw [List.getLast?_eq_head?_reverse, hxs]; rfl)
      simp [hc]
  unfold backing
  rw [List.reverse_append, List.takeWhile_append, hnone, List.append_nil]
  split
  · next hall => rw [hall]
  · rfl

theorem backing_backslashes {xs : Text} (h : xs.getLast? ≠ some '\\') (n : Nat) :
    backing (xs ++ List.replicate n '\\') = n := by
  rw [backing_append h]
  unfold backing
  rw [List.reverse_replicate, List.takeWhile_replicate, if_pos (by decide), List.length_replicate]

/-- **Escaped marks are no markup**: the number of backslashes in front of them is odd. -/
theorem EscapesTo.isInert {cs out : Text} (h : EscapesTo cs out) : IsInert out := by
  induction h with
  | plain hplain =>
    intro before m after hcut hm
    exact absurd ⟨before, after, by rw [hcut, List.append_assoc]⟩ (hplain m hm)
  | @mark front m rest out n hfront hlast hm _ ih =>
    intro before m' after hcut hm'
    obtain ⟨tail, htail, hfree, hclose⟩ := hm.exists_tail
    have hhead : (m ++ out).head? = some '[' := by rw [htail]; rfl
    rw [← List.append_assoc] at hcut
    rcases hm'.cut hhead hcut with hin | ⟨gap, rfl, hgap⟩
    · exact absurd hin (hfront.append_backslashes _ m' hm')
    · cases gap with
      | nil =>
        -- the mark that was escaped
        rw [List.append_nil, backing_backslashes hlast]
        omega
      | cons d gap =>
        -- a mark further on
        obtain ⟨tail', rfl, -, -⟩ := hm'.exists_tail
        rw [htail] at hgap
        obtain ⟨rfl, hrest⟩ := List.cons.inj hgap
        obtain ⟨behind, rfl, hout⟩ := cut_at_open hfree hrest
        have hskip : (front ++ List.replicate (2 * n + 1) '\\' ++ '[' :: tail).getLast? ≠ some '\\' := by
          rw [List.getLast?_append, List.getLast?_cons, hclose]
          simp
        have hodd := ih behind _ after hout hm'
        rw [← backing_append hskip behind] at hodd
        simpa using hodd

/-- What is inert stays so in a part of it, unless the part starts behind a backslash. -/
theorem IsInert.part {above part below : Text} (h : IsInert (above ++ (part ++ below)))
    (habove : above.getLast? ≠ some '\\') : IsInert part := by
  intro before m after hcut hm
  have hodd := h (above ++ before) m (after ++ below) (by rw [hcut]; simp) hm
  rwa [backing_append habove] at hodd

/-- What is inert stays so behind a text without brackets. -/
theorem IsInert.prepend {front cs : Text} (h : IsInert cs) (hopen : '[' ∉ front)
    (hlast : front.getLast? ≠ some '\\') : IsInert (front ++ cs) := by
  intro before m after hcut hm
  obtain ⟨tail, rfl, -, -⟩ := hm.exists_tail
  obtain ⟨gap, rfl, hcs⟩ := cut_at_open hopen hcut
  rw [backing_append hlast]
  exact h gap _ after hcs hm

theorem IsInert.concat_backslash {cs : Text} (h : IsInert cs) : IsInert (cs ++ ['\\']) := by
  intro before m after hcut hm
  cases hafter : after.reverse with
  | nil =>
    -- a mark does not end in a backslash
    have hlast := congrArg List.getLast? hcut
    rw [List.reverse_eq_nil_iff.mp hafter, List.append_nil, List.getLast?_concat, List.getLast?_append,
      hm.getLast?] at hlast
    exact absurd hlast (by simp)
  | cons c rest =>
    rw [List.reverse_eq_cons_iff.mp hafter, ← List.append_assoc, ← List.append_assoc] at hcut
    have hcs := (List.append_inj' hcut rfl).1
    rw [List.append_assoc] at hcs
    exact h before m rest.reverse hcs hm

theorem isInert_escape (cs : Text) : IsInert (escape cs) := by
  obtain ⟨body, hbody, hout⟩ := isEscape_escape cs
  rw [hout]
  split
  · exact hbody.isInert.concat_backslash
  · exact hbody.isInert

theorem IsInert.line {cs line : Text} (h : IsInert cs) (hline : line ∈ Text.lines cs) : IsInert line := by
  obtain ⟨above, below, hat⟩ := Text.mem_lines_iff.mp hline
  rw [hat.cut] at h
  refine h.part ?_
  rcases hat.starts with rfl | hbreak
  · simp
  · rw [hbreak]
    decide

/-- **Cutting into lines** lets nothing become markup. -/
theorem IsShown.isInert {text : Text} {block : List String} (h : IsShown text block) (hinert : IsInert text) :
    ∀ l ∈ block, IsInert l.toList := by
  obtain ⟨first, more, hlines, rfl⟩ := h
  have hmore : ∀ line ∈ first :: more, IsInert line := by
    intro line hline
    exact hinert.line (hlines ▸ hline)
  have hback : ∀ line : Text, (String.ofList line).toList = line := fun _ => String.toList_ofList
  intro l hl
  rcases List.mem_cons.mp hl with rfl | hl
  · rw [String.toList_append, hback first]
    refine IsInert.prepend (hmore first List.mem_cons_self) ?_ ?_ <;> decide
  · obtain ⟨line, hline, rfl⟩ := List.mem_map.mp hl
    rw [String.toList_append, hback line]
    have hmem := List.mem_cons_of_mem first (List.mem_filter.mp hline).1
    refine IsInert.prepend (hmore line hmem) ?_ ?_ <;> decide

/-! ## §6. Plain output. -/

-- a text that is nothing but a mark is not shown
example : unmarked "- '[x]'" = "- ''" := by
  decide

/-! ## §7. Cells of a table. -/

/-- A message as escaping gives it. -/
def escaped (m : String) : String :=
  String.ofList (escape m.toList)

theorem length_joinWith_le (sep : Text) {f g : String → Text} (hle : ∀ m, (g m).length ≤ (f m).length)
    (ms : List String) :
    (Text.joinWith sep (ms.map g)).length ≤ (Text.joinWith sep (ms.map f)).length := by
  induction ms with
  | nil => exact Nat.le_refl _
  | cons m ms ih =>
    cases ms with
    | nil => exact hle m
    | cons m' ms =>
      have hm := hle m
      simp only [List.map_cons, Text.joinWith, List.length_append] at ih ⊢
      omega

/-- Where each text only grows, the joined texts are equal only if each text is. -/
theorem joinWith_map_eq_iff {sep : Text} {f g : String → Text} (hle : ∀ m, (g m).length ≤ (f m).length)
    (ms : List String) :
    Text.joinWith sep (ms.map g) = Text.joinWith sep (ms.map f) ↔ ∀ m ∈ ms, g m = f m := by
  constructor
  · induction ms with
    | nil => intro _ m hm; cases hm
    | cons m ms ih =>
      cases ms with
      | nil =>
        intro heq m' hm'
        rw [List.mem_singleton.mp hm']
        exact heq
      | cons m' ms =>
        intro heq
        have heq' : g m ++ sep ++ Text.joinWith sep ((m' :: ms).map g)
            = f m ++ sep ++ Text.joinWith sep ((m' :: ms).map f) := heq
        -- neither side can be shorter in one piece, since it is not longer in the others
        have hlen := congrArg List.length heq'
        have hrest := length_joinWith_le sep hle (m' :: ms)
        have hm := hle m
        simp only [List.length_append] at hlen
        obtain ⟨hfirst, hothers⟩ := List.append_inj heq' (by simp only [List.length_append]; omega)
        have hhead : g m = f m := (List.append_inj' hfirst rfl).1
        intro x hx
        rcases List.mem_cons.mp hx with rfl | hx
        · exact hhead
        · exact ih hothers x hx
  · intro h
    rw [List.map_congr_left h]

theorem toList_itemized (ts : List String) :
    (itemized ts).toList
      = Text.joinWith [';', '\n'] (ts.map fun t => '-' :: ' ' :: t.toList) ++ ['.'] := by
  unfold itemized
  rw [String.toList_append, Text.toList_intercalate, List.map_map]
  congr 2
  refine List.map_congr_left fun t _ => ?_
  simp

/-- **A cell shows its messages escaped** exactly if there is nothing to escape in them. -/
theorem itemized_eq_escaped_iff (ms : List String) :
    itemized ms = itemized (ms.map escaped) ↔ ∀ m ∈ ms, IsPlain m.toList ∧ backing m.toList ≠ 1 := by
  rw [← String.toList_inj, toList_itemized, toList_itemized, List.map_map, List.append_left_inj]
  have hle : ∀ m : String, ('-' :: ' ' :: m.toList).length
      ≤ (((fun t => '-' :: ' ' :: t.toList) ∘ escaped) m).length := by
    intro m
    have hgrows := length_le_escape m.toList
    simp only [Function.comp, escaped, String.toList_ofList, List.length_cons]
    omega
  rw [joinWith_map_eq_iff hle]
  refine forall₂_congr fun m _ => ?_
  rw [← escape_eq_self_iff]
  simp only [Function.comp, escaped, String.toList_ofList, List.cons.injEq, true_and]
  exact eq_comm

/-- A message stands in its cell behind a bullet. -/
theorem exists_itemized {ms : List String} {m : String} (h : m ∈ ms) :
    ∃ above below, (itemized ms).toList = above ++ (m.toList ++ below) ∧ above.getLast? = some ' ' := by
  obtain ⟨before, after, rfl⟩ := List.append_of_mem h
  have hfirst : ∀ (t : Text) (ts : List Text), ∃ rest, Text.joinWith [';', '\n'] (t :: ts) = t ++ rest := by
    intro t ts
    cases ts with
    | nil => exact ⟨[], by simp [Text.joinWith]⟩
    | cons u us => exact ⟨_, List.append_assoc t _ _⟩
  rw [toList_itemized, List.map_append, Text.joinWith_append _ _ (by simp), List.map_cons]
  obtain ⟨rest, hrest⟩ := hfirst ('-' :: ' ' :: m.toList) (after.map fun t => '-' :: ' ' :: t.toList)
  rw [hrest]
  generalize ((before.map fun t => '-' :: ' ' :: t.toList).map (· ++ [';', '\n'])).flatten = front
  exact ⟨front ++ ['-', ' '], rest ++ ['.'], by simp, by simp⟩

/-! ## §8. Reports. -/

/-- The rows of a file: the first one names it. -/
theorem rows_eq (file : String) (fs : List Finding) :
    rows file fs = fs.zipIdx.map fun (f, i) => row (if i = 0 then file else "") f := by
  cases fs with
  | nil => rfl
  | cons f fs =>
    have hlater : ∀ k, fs.map (row "") = (fs.zipIdx (k + 1)).map fun (f, i) => row (if i = 0 then file else "") f := by
      induction fs with
      | nil => intro k; rfl
      | cons g gs ih =>
        intro k
        rw [List.map_cons, List.zipIdx_cons, List.map_cons, ih (k + 1)]
        rfl
    show row file f :: fs.map (row "") = _
    rw [List.zipIdx_cons, List.map_cons, hlater 0]
    rfl

/-- How a finding stands in a table, with a text for its messages. -/
def rowWith (text file : String) (f : Finding) : List String :=
  [file, if 0 < f.line then toString f.line else "", f.name, f.kind, coloured "red" text]

/-- **A table** has a row for each finding, with its messages as they are. -/
theorem tabulated_eq (rs : Results) :
    tabulated rs = .table columns (rs.flatMap fun r => r.2.zipIdx.map fun (f, i) =>
      rowWith (itemized (parts f.message)) (if i = 0 then r.1 else "") f) := by
  have hrows : ∀ r : String × List Finding, rows r.1 r.2 = r.2.zipIdx.map fun (f, i) =>
      rowWith (itemized (parts f.message)) (if i = 0 then r.1 else "") f := by
    intro r
    rw [rows_eq]
    refine List.map_congr_left ?_
    rintro ⟨f, i⟩ -
    unfold row rowWith
    dsimp only
    rw [bulleted_eq]
  unfold tabulated
  rw [List.flatMap_congr fun r _ => hrows r]

/-- Escaping does what its rule says. In a list every message is shown escaped, so that nothing in it counts as
markup. In a table it is shown as it is: the cell has the escaped messages exactly if none of them has anything to
escape, and what counts as markup in a message does so in the cell. -/
theorem messages_escaped_in_lists_only {rs : Results} (hne : rs ≠ []) :
    (∀ text, IsEscape text (escape text)) ∧
    (∃ blocks : Finding → List (List String),
      (∀ f, List.Forall₂ (fun m block => IsShown (escape m.toList) block ∧ ∀ l ∈ block, IsInert l.toList)
        (parts f.message) (blocks f)) ∧
      report false .list rs = (rs.flatMap fun r => .print ["\n" ++ coloured "cyan" r.1] ::
        (r.2.flatMap fun f => header f :: (blocks f).flatten).map fun l => .print [l])
          ++ [summary (tally rs)]) ∧
    report false .table rs = [.table columns (rs.flatMap fun r => r.2.zipIdx.map fun (f, i) =>
      rowWith (itemized (parts f.message)) (if i = 0 then r.1 else "") f), summary (tally rs)] ∧
    ∀ f : Finding,
      (itemized (parts f.message) = itemized ((parts f.message).map escaped) ↔
        ∀ m ∈ parts f.message, IsPlain m.toList ∧ backing m.toList ≠ 1) ∧
      ∀ m ∈ parts f.message, IsInert (itemized (parts f.message)).toList → IsInert m.toList := by
  have hfull : rs.isEmpty = false := by
    cases rs with
    | nil => exact absurd rfl hne
    | cons r rs => rfl
  refine ⟨isEscape_escape, ⟨fun f => (parts f.message).map messageLines, fun f => ?_, ?_⟩, ?_,
    fun f => ⟨itemized_eq_escaped_iff _, fun m hm hinert => ?_⟩⟩
  · rw [List.forall₂_map_right_iff, List.forall₂_same]
    intro m _
    have hshown := isShown_messageLines m
    exact ⟨hshown, hshown.isInert (isInert_escape m.toList)⟩
  · unfold report
    rw [hfull]
    rfl
  · unfold report
    rw [hfull]
    show [tabulated rs, summary (tally rs)] = _
    rw [tabulated_eq]
  · obtain ⟨above, below, hcut, hlast⟩ := exists_itemized hm
    rw [hcut] at hinert
    exact hinert.part (by rw [hlast]; decide)

/-- Two messages, of which the first one quotes a type with brackets. -/
def bracketFinding : Finding :=
  { message := "Type is 'list[str]'; Colon missing", file := "m.py", line := 3, name := "f",
    kind := "function" }

theorem isMark_bracketFinding : IsMark "[str]".toList :=
  ⟨'s', ['t', 'r'], rfl, by decide, by decide, by decide⟩

theorem parts_bracketFinding : parts bracketFinding.message = ["Type is 'list[str]'", "Colon missing"] := by
  decide

/-- The first message has a mark, so that the cell is not what escaping gives. -/
theorem messages_escaped_in_lists_only_brackets :
    [("m.py", [bracketFinding])] ≠ ([] : Results) ∧
      report false .table [("m.py", [bracketFinding])] = [.table columns
        [rowWith (itemized (parts bracketFinding.message)) "m.py" bracketFinding],
        summary (tally [("m.py", [bracketFinding])])] ∧
      itemized (parts bracketFinding.message) ≠ itemized ((parts bracketFinding.message).map escaped) := by
  have hne : [("m.py", [bracketFinding])] ≠ ([] : Results) := by simp
  obtain ⟨-, -, hreport, hcell⟩ := messages_escaped_in_lists_only hne
  refine ⟨hne, hreport, fun heq => ?_⟩
  have hplain := (hcell bracketFinding).1.mp heq "Type is 'list[str]'"
    (by rw [parts_bracketFinding]; exact List.mem_cons_self)
  exact hplain.1 _ isMark_bracketFinding ⟨"Type is 'list".toList, ['\''], by decide⟩

/-- The brackets of a type are shown in a list and are markup in a table. -/
theorem brackets_are_markup_in_table :
    findingLines bracketFinding =
      ["  [red]Line 3[/red] - function 'f':", "    - Type is 'list\\[str]'", "    - Colon missing"] ∧
    tabulated [("m.py", [bracketFinding])] = .table columns
      [["m.py", "3", "f", "function", "[red]- Type is 'list[str]';\n- Colon missing.[/red]"]] ∧
    ¬ IsInert "- Type is 'list[str]';\n- Colon missing.".toList := by
  refine ⟨by decide, by decide, fun hinert => ?_⟩
  have hodd := hinert "- Type is 'list".toList "[str]".toList "';\n- Colon missing.".toList (by decide)
    isMark_bracketFinding
  exact absurd hodd (by decide)

end DocLint.Report
