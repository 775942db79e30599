import DocLint.Proofs.Docstring.Header
import DocLint.Proofs.Text.Lines
import Mathlib.Data.List.Pairwise

/-!
DocLint.Proofs.Docstring.Scan: what the scans for headers find.

Both scans read a text from left to right and go on behind what they have found. For words with a colon this
makes no difference: what is passed over after a word holds no other one at the start of a line, so the scan
finds the word of every line that has one (`colonWords_eq_filterMap`). For admonitions it does: of all places
where an admonition stands, those inside one that was found before are passed over. `IsScan` says which are left,
and it leaves no choice (`IsScan.unique`). Main result: `exists_isScan`, the admonitions of a text are these.
-/

namespace DocLint.Docstring

open Text (isSpace isWord lines)

/-! ## §1. Words with a colon, line by line. -/

theorem colonWord?_eq_none {c : Char} (h : isWord c = false) (cs : Text) : colonWord? (c :: cs) = none := by
  rw [Option.eq_none_iff_forall_ne_some]
  intro word hword
  obtain ⟨hrun, rest, hcut⟩ := colonWord?_eq_some_iff.mp hword
  have hc : isWord c = true := hrun.head?_append (':' :: rest) (by rw [← hcut]; rfl)
  rw [h] at hc
  cases hc

/-- A word with a colon lies in the first line of a text. -/
theorem colonWord?_append_newline (line below : Text) :
    colonWord? (line ++ '\n' :: below) = colonWord? line := by
  refine Option.ext fun word => ?_
  rw [colonWord?_eq_some_iff, colonWord?_eq_some_iff]
  refine and_congr_right fun hword => ⟨?_, ?_⟩
  · rintro ⟨tail, htail⟩
    -- the newline is neither in the word nor its colon, so it stands behind them
    rcases List.append_eq_append_iff.mp htail with ⟨middle, hmiddle, hbelow⟩ | ⟨middle, rfl, hbelow⟩
    · cases middle with
      | nil => simp at hbelow
      | cons c middle =>
        obtain ⟨rfl, -⟩ := List.cons.inj hbelow
        exact absurd (hword.2 '\n' (by simp [hmiddle])) (by decide)
    · cases middle with
      | nil => simp at hbelow
      | cons c middle =>
        obtain ⟨rfl, -⟩ := List.cons.inj hbelow
        exact ⟨middle, rfl⟩
  · rintro ⟨tail, rfl⟩
    exact ⟨tail ++ '\n' :: below, by simp⟩

/-- The words with a colon at the starts of the lines of a text, with nothing passed over. -/
def lineWords : (starts : Bool) → Text → List Text
  | _, [] => []
  | starts, c :: cs =>
    (if starts then colonWord? (c :: cs) else none).toList ++ lineWords (c == '\n') cs

theorem lineWords_eq_filterMap (cs : Text) :
    lineWords true cs = (lines cs).filterMap colonWord? ∧
      lineWords false cs = (lines cs).tail.filterMap colonWord? := by
  induction cs with
  | nil => exact ⟨rfl, rfl⟩
  | cons c cs ih =>
    obtain ⟨line, rest, hlines, -, hcut⟩ := Text.exists_lines cs
    by_cases hc : c = '\n'
    · -- the first line is empty, and the others are those of `cs`
      subst hc
      have hcons : lines ('\n' :: cs) = [] :: lines cs := rfl
      have hnone : colonWord? ('\n' :: cs) = none := colonWord?_eq_none (by decide) cs
      have hnil : colonWord? [] = none := rfl
      rw [lineWords, lineWords, hcons, hnone, List.filterMap_cons_none hnil]
      exact ⟨ih.1, ih.1⟩
    · -- the first line goes on, and the others are the same
      have hflag : (c == '\n') = false := beq_false_of_ne hc
      have hcons : lines (c :: cs) = (c :: line) :: rest := by
        unfold lines at hlines ⊢
        simp [Text.splitBy, hc, hlines]
      have hfirst : colonWord? (c :: cs) = colonWord? (c :: line) := by
        rcases hcut with ⟨rfl, -⟩ | ⟨below, rfl, -⟩
        · rfl
        · exact colonWord?_append_newline (c :: line) below
      have hrest : lineWords false cs = rest.filterMap colonWord? := by rw [ih.2, hlines]; rfl
      rw [lineWords, lineWords, hflag, hrest, hcons, hfirst, List.filterMap_cons]
      constructor
      · cases colonWord? (c :: line) <;> rfl
      · rfl

/-! ## §2. Words with a colon, from left to right. -/

/-- Whether a line starts behind `front`, where `starts` tells whether one starts in front of it. -/
def startsAfter (starts : Bool) (front : Text) : Bool :=
  front.foldl (fun _ c => c == '\n') starts

theorem colonWordsFrom_skip (front cs : Text) :
    ∀ starts, colonWordsFrom starts front.length (front ++ cs)
      = colonWordsFrom (startsAfter starts front) 0 cs := by
  induction front with
  | nil => intro starts; rfl
  | cons c front ih =>
    intro starts
    show colonWordsFrom (c == '\n') front.length (front ++ cs) = _
    rw [ih]
    rfl

theorem newline_of_isWord {c : Char} (h : isWord c = true) : (c == '\n') = false := by
  refine beq_false_of_ne ?_
  rintro rfl
  exact absurd h (by decide)

/-- No line starts among the letters of a word. -/
theorem lineWords_word {word : Text} (hword : ∀ c ∈ word, isWord c = true) (cs : Text) :
    lineWords false (word ++ cs) = lineWords false cs := by
  induction word with
  | nil => rfl
  | cons c word ih =>
    show lineWords (c == '\n') (word ++ cs) = _
    rw [newline_of_isWord (hword c List.mem_cons_self), ih fun d hd => hword d (List.mem_cons_of_mem _ hd)]

/-- Lines may start among blanks, but no word does. -/
theorem lineWords_blanks {gap : Text} (hgap : ∀ c ∈ gap, isSpace c = true) (cs : Text) :
    ∀ starts, lineWords starts (gap ++ cs) = lineWords (startsAfter starts gap) cs := by
  induction gap with
  | nil => intro starts; rfl
  | cons c gap ih =>
    intro starts
    have hc : isWord c = false := by
      by_contra hword
      have hspace := hgap c List.mem_cons_self
      rw [Text.isSpace_of_isWord (by simpa using hword)] at hspace
      cases hspace
    rw [List.cons_append, lineWords, colonWord?_eq_none hc,
      ih fun d hd => hgap d (List.mem_cons_of_mem _ hd)]
    simp only [ite_self, Option.toList_none, List.nil_append]
    rfl

/-- What is passed over after a word: the rest of the word, its colon and the blanks behind them. -/
theorem exists_passed {c : Char} {cs word : Text} (h : colonWord? (c :: cs) = some word) :
    ∃ passed after, cs = passed ++ after ∧ passed.length = colonSpan word (c :: cs) - 1 ∧
      lineWords (c == '\n') (passed ++ after) = lineWords (startsAfter (c == '\n') passed) after := by
  obtain ⟨hword, rest, hcut⟩ := colonWord?_eq_some_iff.mp h
  obtain ⟨letters, rfl⟩ : ∃ letters, word = c :: letters := by
    cases word with
    | nil => exact absurd rfl hword.1
    | cons d letters =>
      obtain ⟨rfl, -⟩ := List.cons.inj hcut
      exact ⟨letters, rfl⟩
  obtain rfl : cs = letters ++ ':' :: rest := (List.cons.inj hcut).2
  have hblanks : ∀ d ∈ rest.takeWhile isSpace, isSpace d = true := List.all_eq_true.mp List.all_takeWhile
  have hsplit : rest.takeWhile isSpace ++ rest.dropWhile isSpace = rest := List.takeWhile_append_dropWhile
  have hc : (c == '\n') = false := newline_of_isWord (hword.2 c List.mem_cons_self)
  refine ⟨letters ++ ':' :: rest.takeWhile isSpace, rest.dropWhile isSpace, ?_, ?_, ?_⟩
  · rw [List.append_assoc, List.cons_append, hsplit]
  · have hdrop : (c :: (letters ++ ':' :: rest)).drop (letters.length + 1 + 1) = rest := by
      rw [List.drop_succ_cons, ← List.singleton_append, ← List.append_assoc]
      exact List.drop_left' (by simp)
    unfold colonSpan Text.indent
    rw [List.length_cons, hdrop, List.length_append, List.length_cons]
    omega
  · rw [hc, List.append_assoc, lineWords_word fun d hd => hword.2 d (List.mem_cons_of_mem _ hd)]
    show lineWords (':' == '\n') (rest.takeWhile isSpace ++ rest.dropWhile isSpace) = _
    rw [lineWords_blanks hblanks]
    unfold startsAfter
    rw [List.foldl_append]
    rfl

/-- **Nothing that the scan passes over is a word at the start of a line.** -/
theorem colonWordsFrom_eq_lineWords (cs : Text) (starts : Bool) :
    colonWordsFrom starts 0 cs = lineWords starts cs := by
  match cs with
  | [] => rfl
  | c :: cs =>
    rw [colonWordsFrom, lineWords]
    cases hfound : if starts then colonWord? (c :: cs) else none with
    | none =>
      rw [colonWordsFrom_eq_lineWords cs]
      rfl
    | some word =>
      obtain ⟨-, hword⟩ : starts = true ∧ colonWord? (c :: cs) = some word := by
        simpa using hfound
      obtain ⟨passed, after, rfl, hlength, hpassed⟩ := exists_passed hword
      have hshorter : after.length < (c :: (passed ++ after)).length := by
        rw [List.length_cons, List.length_append]
        omega
      simp only [← hlength]
      rw [colonWordsFrom_skip, colonWordsFrom_eq_lineWords after, hpassed]
      rfl
termination_by cs.length

/-- **The scan finds the word of every line that has one.** -/
theorem colonWords_eq_filterMap (doc : Text) : colonWords doc = (lines doc).filterMap colonWord? := by
  unfold colonWords
  rw [colonWordsFrom_eq_lineWords, (lineWords_eq_filterMap doc).1]

example : colonWords "One:\n \n\nTwo: Three:\n\tFour:".toList = ["One".toList, "Two".toList] := by decide

/-! ## §3. Admonitions. -/

/-- An admonition that stands at a place of a text. -/
def Admonition.StandsAt (a : Admonition) (cs : Text) (n : Nat) : Prop :=
  a.IsWritten ∧ a.written <+: cs.drop n

theorem standsAt_iff {a : Admonition} {cs : Text} {n : Nat} :
    a.StandsAt cs n ↔ ∃ rest, admonitionAt? (cs.drop n) = some (a, rest) := by
  constructor
  · rintro ⟨hwritten, rest, hrest⟩
    exact ⟨rest, admonitionAt?_eq_some_iff.mpr ⟨hwritten, hrest.symm⟩⟩
  · rintro ⟨rest, h⟩
    obtain ⟨hwritten, hcut⟩ := admonitionAt?_eq_some_iff.mp h
    exact ⟨hwritten, rest, hcut.symm⟩

/-- At most one admonition stands at a place. -/
theorem Admonition.StandsAt.unique {a b : Admonition} {cs : Text} {n : Nat} (ha : a.StandsAt cs n)
    (hb : b.StandsAt cs n) : a = b := by
  obtain ⟨rest, ha⟩ := standsAt_iff.mp ha
  obtain ⟨rest', hb⟩ := standsAt_iff.mp hb
  rw [ha] at hb
  exact (Prod.mk.inj (Option.some.inj hb)).1

theorem standsAt_append {a : Admonition} (front cs : Text) (n : Nat) :
    a.StandsAt (front ++ cs) (front.length + n) ↔ a.StandsAt cs n := by
  unfold Admonition.StandsAt
  rw [List.drop_append, List.drop_eq_nil_of_le (Nat.le_add_right _ _), Nat.add_sub_cancel_left,
    List.nil_append]

/-- A place lies in an admonition that stands at a place: at its start or behind it. -/
def Covers (h : Nat × Admonition) (n : Nat) : Prop :=
  h.1 ≤ n ∧ n < h.1 + h.2.written.length

/-- **What a scan finds**: admonitions that stand at their places and do not overlap, from left to right, such that
every place where one stands lies in one of them. -/
structure IsScan (cs : Text) (hits : List (Nat × Admonition)) : Prop where
  /-- Each stands at its place. -/
  stands : ∀ h ∈ hits, h.2.StandsAt cs h.1
  /-- Each starts behind the end of those before it. -/
  apart : hits.Pairwise fun x y => x.1 + x.2.written.length ≤ y.1
  /-- None is missed that does not overlap one before it. -/
  covers : ∀ (n : Nat) (a : Admonition), a.StandsAt cs n → ∃ h ∈ hits, Covers h n

/-- The same admonitions behind a text of length `k`. -/
def later (k : Nat) (hits : List (Nat × Admonition)) : List (Nat × Admonition) :=
  hits.map fun h => (k + h.1, h.2)

/-- A scan goes on behind what it has read: `first` are the admonitions that it has found there. -/
theorem IsScan.prepend {front cs : Text} {first hits : List (Nat × Admonition)} (h : IsScan cs hits)
    (hstands : ∀ x ∈ first, x.2.StandsAt (front ++ cs) x.1)
    (hapart : first.Pairwise fun x y => x.1 + x.2.written.length ≤ y.1)
    (hinside : ∀ x ∈ first, x.1 + x.2.written.length ≤ front.length)
    (hcovers : ∀ n < front.length, ∀ a : Admonition, a.StandsAt (front ++ cs) n → ∃ x ∈ first, Covers x n) :
    IsScan (front ++ cs) (first ++ later front.length hits) := by
  refine ⟨?_, ?_, ?_⟩
  · intro x hx
    rcases List.mem_append.mp hx with hx | hx
    · exact hstands x hx
    · obtain ⟨y, hy, rfl⟩ := List.mem_map.mp hx
      exact (standsAt_append front cs y.1).mpr (h.stands y hy)
  · refine List.pairwise_append.mpr ⟨hapart, ?_, ?_⟩
    · refine List.pairwise_map.mpr (h.apart.imp ?_)
      intro x y hxy
      show front.length + x.1 + x.2.written.length ≤ front.length + y.1
      omega
    · intro x hx y hy
      obtain ⟨z, -, rfl⟩ := List.mem_map.mp hy
      have hend := hinside x hx
      show x.1 + x.2.written.length ≤ front.length + z.1
      omega
  · intro n a hn
    by_cases hfront : n < front.length
    · obtain ⟨x, hx, hcover⟩ := hcovers n hfront a hn
      exact ⟨x, List.mem_append_left _ hx, hcover⟩
    · obtain ⟨m, rfl⟩ : ∃ m, n = front.length + m := ⟨n - front.length, by omega⟩
      obtain ⟨x, hx, hcover⟩ := h.covers m a ((standsAt_append front cs m).mp hn)
      refine ⟨_, List.mem_append_right _ (List.mem_map.mpr ⟨x, hx, rfl⟩), ?_⟩
      unfold Covers at hcover ⊢
      show front.length + x.1 ≤ front.length + m ∧
        front.length + m < front.length + x.1 + x.2.written.length
      omega

theorem map_snd_later (k : Nat) (hits : List (Nat × Admonition)) :
    (later k hits).map (·.2) = hits.map (·.2) := by
  unfold later
  rw [List.map_map]
  rfl

/-- **The admonitions of a text are what a scan finds.** -/
theorem exists_isScan (cs : Text) : ∃ hits, IsScan cs hits ∧ admonitions cs = hits.map (·.2) := by
  fun_induction admonitions cs with
  | case1 =>
    refine ⟨[], ⟨by simp, .nil, ?_⟩, rfl⟩
    rintro n a ⟨hwritten, hfront⟩
    have hpos := hwritten.length_pos
    rw [List.drop_nil, List.prefix_nil] at hfront
    rw [hfront] at hpos
    cases hpos
  | case2 c rest a after hfound hlt ih =>
    obtain ⟨hits, hscan, hmap⟩ := ih
    obtain ⟨hwritten, hcut⟩ := admonitionAt?_eq_some_iff.mp hfound
    have hhere : a.StandsAt (a.written ++ after) 0 := ⟨hwritten, after, rfl⟩
    refine ⟨[(0, a)] ++ later a.written.length hits, ?_, ?_⟩
    · rw [hcut]
      refine hscan.prepend ?_ (List.pairwise_singleton _ _) ?_ ?_
      · simpa using hhere
      · simp
      · intro n hn b _
        exact ⟨(0, a), by simp, Nat.zero_le n, by simpa using hn⟩
    · rw [List.map_append, map_snd_later, hmap]
      rfl
  | case3 c rest a after hfound hlt ih =>
    obtain ⟨hwritten, hcut⟩ := admonitionAt?_eq_some_iff.mp hfound
    have hpos := hwritten.length_pos
    rw [hcut, List.length_append] at hlt
    omega
  | case4 c rest hnone ih =>
    obtain ⟨hits, hscan, hmap⟩ := ih
    refine ⟨[] ++ later 1 hits, ?_, ?_⟩
    · show IsScan ([c] ++ rest) _
      refine hscan.prepend (by simp) .nil (by simp) ?_
      intro n hn a ha
      obtain rfl : n = 0 := by simpa using hn
      obtain ⟨after, hfound⟩ := standsAt_iff.mp ha
      rw [List.drop_zero, List.singleton_append, hnone] at hfound
      cases hfound
    · rw [List.nil_append, map_snd_later, hmap]

namespace IsScan

variable {cs : Text} {hits : List (Nat × Admonition)}

/-- No admonition that is found covers the start of another one. -/
theorem eq_of_covers (h : IsScan cs hits) {x y : Nat × Admonition} (hx : x ∈ hits) (hy : y ∈ hits)
    (hcover : Covers x y.1) : x = y := by
  let Apart (x y : Nat × Admonition) : Prop := x.1 + x.2.written.length ≤ y.1
  have hboth : hits.Pairwise fun x y => Apart x y ∨ Apart y x := h.apart.imp .inl
  have hsymm : Std.Symm fun x y => Apart x y ∨ Apart y x := ⟨fun _ _ => Or.symm⟩
  obtain ⟨hstart, hend⟩ := hcover
  have hpos := (h.stands y hy).1.length_pos
  by_contra hne
  rcases hboth.forall hx hy hne with hbefore | hbehind
  · have hle : x.1 + x.2.written.length ≤ y.1 := hbefore
    omega
  · have hle : y.1 + y.2.written.length ≤ x.1 := hbehind
    omega

/-- **An admonition that stands in a text is found unless one that is found before it runs over its start.** -/
theorem mem_iff (h : IsScan cs hits) {n : Nat} {a : Admonition} (ha : a.StandsAt cs n) :
    (n, a) ∈ hits ↔ ∀ x ∈ hits, x.1 < n → x.1 + x.2.written.length ≤ n := by
  constructor
  · intro hmem x hx hlt
    by_contra hover
    have heq : x = (n, a) := h.eq_of_covers hx hmem ⟨hlt.le, Nat.not_le.mp hover⟩
    rw [heq] at hlt
    exact Nat.lt_irrefl n hlt
  · intro hbefore
    obtain ⟨x, hx, hstart, hend⟩ := h.covers n a ha
    have hn : x.1 = n := by
      by_contra hne
      have hle := hbefore x hx (by omega)
      omega
    have hsame : x.2 = a := by
      refine (h.stands x hx).unique ?_
      rw [hn]
      exact ha
    rw [← hn, ← hsame]
    exact hx

/-- The places of what is found increase. -/
theorem pairwise_lt (h : IsScan cs hits) : hits.Pairwise fun x y => x.1 < y.1 := by
  refine h.apart.imp_of_mem ?_
  intro x y hx _ hxy
  have hpos := (h.stands x hx).1.length_pos
  omega

/-- **What a scan finds is determined by the text.** -/
theorem unique (h : IsScan cs hits) {hits' : List (Nat × Admonition)} (h' : IsScan cs hits') : hits = hits' := by
  -- whether one is found at a place depends on what is found before it
  have hmem : ∀ n a, (n, a) ∈ hits ↔ (n, a) ∈ hits' := by
    intro n
    induction n using Nat.strong_induction_on with
    | _ n ih =>
      intro a
      by_cases ha : a.StandsAt cs n
      · rw [h.mem_iff ha, h'.mem_iff ha]
        exact ⟨fun hall x hx hlt => hall x ((ih x.1 hlt x.2).mpr hx) hlt,
          fun hall x hx hlt => hall x ((ih x.1 hlt x.2).mp hx) hlt⟩
      · exact iff_of_false (fun hn => ha (h.stands _ hn)) (fun hn => ha (h'.stands _ hn))
  have hperm : hits.Perm hits' :=
    (List.perm_ext_iff_of_nodup (h.pairwise_lt.imp fun hlt heq => hlt.ne (congrArg Prod.fst heq))
      (h'.pairwise_lt.imp fun hlt heq => hlt.ne (congrArg Prod.fst heq))).mpr fun x => hmem x.1 x.2
  exact hperm.eq_of_pairwise (fun x y _ _ hxy hyx => absurd hxy hyx.asymm) h.pairwise_lt h'.pairwise_lt

theorem iff_eq (h : IsScan cs hits) (found : List (Nat × Admonition)) : IsScan cs found ↔ found = hits :=
  ⟨fun hfound => hfound.unique h, fun heq => heq ▸ h⟩

end IsScan

end DocLint.Docstring
