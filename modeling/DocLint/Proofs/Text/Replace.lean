import DocLint.Proofs.Text.Lines

/-!
DocLint.Proofs.Text.Replace: replacing, and the lines of the result.

Replacing goes from left to right: where the pattern stands, the new text is put and the search goes on behind it
(`replace_cons`). A newline is replaced by joining the lines with the new text (`replace_newline`). Where one newline
stands for two, some empty lines are gone, but neither the first line nor the last one (`exists_lines_replace_pairs`).
-/

namespace DocLint.Text

/-! ## §1. Replacing from left to right. -/

theorem splitAfter_drop (sep : Text) (skip : Nat) (cs : Text) :
    splitAfter sep skip cs = splitAfter sep 0 (cs.drop skip) := by
  induction skip generalizing cs with
  | zero => rfl
  | succ skip ih =>
    cases cs with
    | nil => rfl
    | cons c cs =>
      rw [List.drop_succ_cons, ← ih]
      rfl

theorem joinWith_cons_cons (sep : Text) (c : Char) (l : Text) (ls : List Text) :
    joinWith sep ((c :: l) :: ls) = c :: joinWith sep (l :: ls) := by
  cases ls <;> rfl

/-- **One step of replacing.** -/
theorem replace_cons (pat new : Text) (c : Char) (cs : Text) :
    replace pat new (c :: cs) =
      if startsWith (c :: cs) pat then new ++ replace pat new (cs.drop (pat.length - 1))
      else c :: replace pat new cs := by
  unfold replace splitOn
  rw [splitAfter]
  split
  · obtain ⟨l, ls, hsplit, -⟩ := splitAfter_head_prefix pat (cs.drop (pat.length - 1))
    rw [splitAfter_drop, hsplit]
    rfl
  · obtain ⟨l, ls, hsplit, -⟩ := splitAfter_head_prefix pat cs
    rw [hsplit]
    exact joinWith_cons_cons new c l ls

/-! ## §2. Replacing newlines. -/

theorem splitOn_newline (cs : Text) : splitOn ['\n'] cs = lines cs := by
  unfold splitOn lines
  induction cs with
  | nil => rfl
  | cons c cs ih =>
    have hstart : startsWith (c :: cs) ['\n'] = (c == '\n') := by
      by_cases h : c = '\n'
      · subst h
        rfl
      · simp [startsWith, dropPrefix?, h, Ne.symm h]
    rw [splitAfter, splitBy, hstart, splitAfter_drop, List.length_singleton, Nat.sub_self, List.drop_zero, ih]

/-- **To replace the newlines** is to join the lines with something else. -/
theorem replace_newline (new cs : Text) : replace ['\n'] new cs = joinWith new (lines cs) := by
  unfold replace
  rw [splitOn_newline]

theorem joinWith_lines (cs : Text) : joinWith ['\n'] (lines cs) = cs := by
  induction cs with
  | nil => rfl
  | cons c cs ih =>
    obtain ⟨line, rest, hlines, -⟩ := exists_lines cs
    unfold lines at ih hlines ⊢
    rw [splitBy]
    rw [hlines] at ih ⊢
    split
    · next hc =>
      rw [joinWith, List.nil_append, ih, beq_iff_eq.mp hc]
      · rfl
      · simp
    · rw [joinWith_cons_cons, ih]

theorem lines_cons_char {c : Char} (hc : c ≠ '\n') {cs line : Text} {rest : List Text} (h : lines cs = line :: rest) :
    lines (c :: cs) = (c :: line) :: rest := by
  unfold lines at h ⊢
  rw [splitBy, if_neg (by simpa using hc), h]

/-- Lines of which some empty ones are dropped, but not the last one. -/
structure DropsEmpty (ls kept : List Text) : Prop where
  /-- The others keep their order. -/
  sublist : kept.Sublist ls
  /-- The last line stays. -/
  last : kept.getLast? = ls.getLast?
  /-- All lines that are not empty stay. -/
  filter : kept.filter (!·.isEmpty) = ls.filter (!·.isEmpty)

theorem DropsEmpty.cons {ls kept : List Text} (h : DropsEmpty ls kept) (line : Text) :
    DropsEmpty (line :: ls) (line :: kept) where
  sublist := h.sublist.cons_cons line
  last := by rw [List.getLast?_cons, List.getLast?_cons, h.last]
  filter := by rw [List.filter_cons, List.filter_cons, h.filter]

/-- **One newline for two.** The first line and the last one stay, and only empty ones are dropped. -/
theorem exists_lines_replace_pairs (cs : Text) :
    ∃ first kept rest, lines (replace ['\n', '\n'] ['\n'] cs) = first :: kept ∧ lines cs = first :: rest ∧
      DropsEmpty rest kept := by
  match cs with
  | [] => exact ⟨[], [], [], rfl, rfl, .slnil, rfl, rfl⟩
  | c :: cs =>
    have hnewline : ∀ text, lines ('\n' :: text) = [] :: lines text := lines_cons List.not_mem_nil
    by_cases hpair : startsWith (c :: cs) ['\n', '\n'] = true
    · obtain ⟨below, hcut⟩ := startsWith_iff.mp hpair
      have hshorter : below.length < (c :: cs).length := by
        rw [← hcut, List.length_append]
        exact Nat.lt_add_of_pos_left (Nat.succ_pos 1)
      obtain ⟨rfl, rfl⟩ := List.cons.inj hcut
      obtain ⟨first, kept, rest, hkept, hrest, hdrops⟩ := exists_lines_replace_pairs below
      have hdrops' := hdrops.cons first
      -- the first of the two newlines ends an empty line that goes
      refine ⟨[], first :: kept, [] :: first :: rest, ?_, ?_, hdrops'.sublist.cons [], ?_, hdrops'.filter⟩
      · rw [replace_cons, if_pos hpair, ← hkept]
        exact hnewline _
      · rw [hnewline, ← hrest]
        exact congrArg _ (hnewline below)
      · rw [List.getLast?_cons_cons]
        exact hdrops'.last
    · obtain ⟨first, kept, rest, hkept, hrest, hdrops⟩ := exists_lines_replace_pairs cs
      rw [replace_cons, if_neg hpair]
      by_cases hc : c = '\n'
      · subst hc
        refine ⟨[], first :: kept, first :: rest, ?_, ?_, hdrops.cons first⟩
        · rw [hnewline, hkept]
        · rw [hnewline, hrest]
      · exact ⟨c :: first, kept, rest, lines_cons_char hc hkept, lines_cons_char hc hrest, hdrops⟩
termination_by cs.length

end DocLint.Text
