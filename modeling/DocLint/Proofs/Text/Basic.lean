import DocLint.Text.Basic
import Mathlib.Data.List.Infix

/-!
DocLint.Proofs.Text.Basic: laws of trimming, searching and cutting.

Trimming only takes blanks away, at the ends. Searching is about infixes: `contains` holds exactly if
one text is an infix of the other. Cutting at one character, or at a separator of two different ones,
undoes joining with it, as long as no piece holds the separator, and no piece that cutting at a separator
gives ever does.
-/

namespace DocLint.Text

/-! ## §1. Trimming. -/

theorem isSpace_of_mem_spaces {n : Nat} {c : Char} (h : c ∈ List.replicate n ' ') : isSpace c = true := by
  rw [List.eq_of_mem_replicate h]
  rfl

theorem trimLeft_cons {c : Char} (h : isSpace c = false) (cs : Text) :
    trimLeft (c :: cs) = c :: cs := by
  unfold trimLeft
  rw [List.dropWhile_cons, if_neg (by simp [h])]

/-- Blanks in front of a text that starts with none are dropped, and nothing else. -/
theorem trimLeft_append {lead cs : Text} (hlead : ∀ c ∈ lead, isSpace c = true)
    (hcs : ∀ c, cs.head? = some c → isSpace c = false) : trimLeft (lead ++ cs) = cs := by
  unfold trimLeft
  rw [List.dropWhile_append_of_pos hlead]
  cases cs with
  | nil => rfl
  | cons c cs => exact trimLeft_cons (hcs c rfl) cs

theorem exists_trimLeft (cs : Text) :
    ∃ lead, cs = lead ++ trimLeft cs ∧ ∀ c ∈ lead, isSpace c = true :=
  ⟨cs.takeWhile isSpace, List.takeWhile_append_dropWhile.symm,
    List.all_eq_true.mp List.all_takeWhile⟩

theorem filter_dropWhile (p : Char → Bool) (cs : Text) :
    (cs.dropWhile p).filter (!p ·) = cs.filter (!p ·) := by
  induction cs with
  | nil => rfl
  | cons c cs ih =>
    rw [List.dropWhile_cons]
    by_cases h : p c = true
    · rw [if_pos h, ih, List.filter_cons_of_neg (by simp [h])]
    · rw [if_neg h]

/-- **Trimming changes nothing but blanks.** -/
theorem filter_trim (cs : Text) : (trim cs).filter (!isSpace ·) = cs.filter (!isSpace ·) := by
  unfold trim trimRight dropRightWhile trimLeft
  rw [List.filter_reverse, filter_dropWhile, List.filter_reverse, List.reverse_reverse,
    filter_dropWhile]

theorem trim_infix (cs : Text) : trim cs <:+: cs := by
  unfold trim trimRight dropRightWhile trimLeft
  have hleft : cs.dropWhile isSpace <:+ cs := List.dropWhile_suffix isSpace
  have hright : (((cs.dropWhile isSpace).reverse.dropWhile isSpace).reverse)
      <+: cs.dropWhile isSpace := by
    rw [← List.reverse_suffix, List.reverse_reverse]
    exact List.dropWhile_suffix isSpace
  exact hright.isInfix.trans hleft.isInfix

/-- A text with no blank at either end is left as it is. -/
theorem trim_eq_self {cs : Text} (hhead : ∀ c, cs.head? = some c → isSpace c = false)
    (hlast : ∀ c, cs.getLast? = some c → isSpace c = false) : trim cs = cs := by
  have keep : ∀ ds : Text, (∀ c, ds.head? = some c → isSpace c = false) →
      ds.dropWhile isSpace = ds :=
    fun ds hds => trimLeft_append (List.forall_mem_nil _) hds
  unfold trim trimRight dropRightWhile trimLeft
  rw [keep cs hhead, keep cs.reverse (by simpa using hlast), List.reverse_reverse]

/-- Blanks in front of a text with no blank at either end are dropped, and nothing else. -/
theorem trim_append {lead cs : Text} (hlead : ∀ c ∈ lead, isSpace c = true)
    (hhead : ∀ c, cs.head? = some c → isSpace c = false)
    (hlast : ∀ c, cs.getLast? = some c → isSpace c = false) : trim (lead ++ cs) = cs := by
  have hsolid := trim_eq_self hhead hlast
  have hleft : trimLeft cs = cs := trimLeft_append (List.forall_mem_nil _) hhead
  unfold trim at hsolid ⊢
  rw [hleft] at hsolid
  rw [trimLeft_append hlead hhead, hsolid]

theorem exists_trim (cs : Text) : ∃ rest, trimLeft cs = trim cs ++ rest := by
  have hfront : trim cs <+: trimLeft cs := by
    unfold trim trimRight dropRightWhile
    rw [← List.reverse_suffix, List.reverse_reverse]
    exact List.dropWhile_suffix isSpace
  obtain ⟨rest, hrest⟩ := hfront
  exact ⟨rest, hrest.symm⟩

/-- A trimmed text starts with no blank. -/
theorem head?_trim {cs : Text} {c : Char} (h : (trim cs).head? = some c) : isSpace c = false := by
  obtain ⟨rest, hrest⟩ := exists_trim cs
  have hsolid := List.head?_dropWhile_not isSpace cs
  have hhead : (cs.dropWhile isSpace).head? = some c := by
    show (trimLeft cs).head? = some c
    rw [hrest, List.head?_append, h]
    rfl
  rw [hhead] at hsolid
  simpa using hsolid

/-- A trimmed text ends in no blank. -/
theorem getLast?_trim {cs : Text} {c : Char} (h : (trim cs).getLast? = some c) : isSpace c = false := by
  unfold trim trimRight dropRightWhile at h
  rw [List.getLast?_reverse] at h
  have hsolid := List.head?_dropWhile_not isSpace (trimLeft cs).reverse
  rw [h] at hsolid
  simpa using hsolid

theorem trim_trim (cs : Text) : trim (trim cs) = trim cs :=
  trim_eq_self (fun _ => head?_trim) (fun _ => getLast?_trim)

theorem trimLeft_trim (cs : Text) : trimLeft (trim cs) = trim cs :=
  trimLeft_append (List.forall_mem_nil _) fun _ => head?_trim

/-! ## §2. Searching. -/

theorem dropPrefix?_eq_some {pat cs rest : Text} :
    dropPrefix? pat cs = some rest ↔ cs = pat ++ rest := by
  induction pat generalizing cs with
  | nil => simp [dropPrefix?]
  | cons p ps ih =>
    cases cs with
    | nil => simp [dropPrefix?]
    | cons c cs =>
      rw [dropPrefix?]
      by_cases h : p = c
      · subst h
        simp [ih]
      · simp [h, Ne.symm h]

theorem startsWith_iff {cs pat : Text} : startsWith cs pat = true ↔ pat <+: cs := by
  unfold startsWith
  rw [Option.isSome_iff_exists]
  constructor
  · rintro ⟨rest, h⟩
    exact ⟨rest, (dropPrefix?_eq_some.mp h).symm⟩
  · rintro ⟨rest, h⟩
    exact ⟨rest, dropPrefix?_eq_some.mpr h.symm⟩

theorem suffixes_eq_tails (cs : Text) : suffixes cs = cs.tails := by
  induction cs with
  | nil => rfl
  | cons c cs ih => rw [suffixes, List.tails_cons, ih]

/-- **A text contains exactly its infixes.** -/
theorem contains_iff {cs pat : Text} : contains cs pat = true ↔ pat <:+: cs := by
  unfold contains
  rw [List.any_eq_true, suffixes_eq_tails]
  constructor
  · rintro ⟨tail, htail, h⟩
    exact (startsWith_iff.mp h).isInfix.trans ((List.mem_tails _ _).mp htail).isInfix
  · rintro ⟨before, after, rfl⟩
    refine ⟨pat ++ after, (List.mem_tails _ _).mpr ?_, startsWith_iff.mpr ⟨after, rfl⟩⟩
    exact ⟨before, by simp⟩

theorem contains_cons {c : Char} {cs pat : Text} :
    contains (c :: cs) pat = (startsWith (c :: cs) pat || contains cs pat) := by
  unfold contains
  rw [suffixes, List.any_cons]

theorem contains_of_infix {cs ds pat : Text} (h : ds <:+: cs) (hd : contains ds pat = true) :
    contains cs pat = true :=
  contains_iff.mpr ((contains_iff.mp hd).trans h)

/-! ## §3. Cutting at a class of characters. -/

section OneCharacter

variable {p : Char → Bool}

theorem splitBy_of_forall {m : Text} (h : ∀ c ∈ m, p c = false) : splitBy p m = [m] := by
  induction m with
  | nil => rfl
  | cons c m ih =>
    rw [splitBy, h c List.mem_cons_self, ih fun d hd => h d (List.mem_cons_of_mem _ hd)]
    rfl

/-- Cutting takes one piece off at a time. -/
theorem splitBy_append_cons {m : Text} (h : ∀ c ∈ m, p c = false) {s : Char} (hs : p s = true)
    (rest : Text) : splitBy p (m ++ s :: rest) = m :: splitBy p rest := by
  induction m with
  | nil => rw [List.nil_append, splitBy, if_pos hs]
  | cons c m ih =>
    rw [List.cons_append, splitBy, h c List.mem_cons_self,
      ih fun d hd => h d (List.mem_cons_of_mem _ hd)]
    rfl

/-- No piece holds a character of the class. -/
theorem forall_of_mem_splitBy {cs m : Text} (h : m ∈ splitBy p cs) : ∀ c ∈ m, p c = false := by
  induction cs generalizing m with
  | nil =>
    intro c hc
    rw [List.mem_singleton.mp h] at hc
    cases hc
  | cons c cs ih =>
    rw [splitBy] at h
    split at h
    · rcases List.mem_cons.mp h with rfl | h
      · intro d hd
        cases hd
      · exact ih h
    · rename_i hc
      -- the character goes to the piece that stands first
      split at h
      · rw [List.mem_singleton.mp h]
        simpa using hc
      · rename_i l ls hcut
        rw [hcut] at ih
        rcases List.mem_cons.mp h with rfl | h
        · intro d hd
          rcases List.mem_cons.mp hd with rfl | hd
          · simpa using hc
          · exact ih List.mem_cons_self d hd
        · exact ih (List.mem_cons_of_mem _ h)

/-- **Cutting undoes joining** if no piece holds a character of the class. -/
theorem splitBy_joinWith {s : Char} (hs : p s = true) {ms : List Text} (hne : ms ≠ [])
    (h : ∀ m ∈ ms, ∀ c ∈ m, p c = false) : splitBy p (joinWith [s] ms) = ms := by
  induction ms with
  | nil => exact absurd rfl hne
  | cons m ms ih =>
    cases ms with
    | nil => exact splitBy_of_forall (h m List.mem_cons_self)
    | cons n ns =>
      rw [joinWith, List.append_assoc]
      show splitBy p (m ++ s :: joinWith [s] (n :: ns)) = _
      rw [splitBy_append_cons (h m List.mem_cons_self) hs, ih (by simp)
        fun x hx => h x (List.mem_cons_of_mem _ hx)]
      simp

end OneCharacter

theorem joinWith_append (sep : Text) (xs : List Text) {ys : List Text} (hys : ys ≠ []) :
    joinWith sep (xs ++ ys) = (xs.map (· ++ sep)).flatten ++ joinWith sep ys := by
  induction xs with
  | nil => rfl
  | cons x xs ih =>
    have hne : xs ++ ys ≠ [] := by simp [hys]
    rw [List.cons_append, List.map_cons, List.flatten_cons, List.append_assoc, ← ih]
    cases hrest : xs ++ ys with
    | nil => exact absurd hrest hne
    | cons z zs => rfl

theorem mem_joinWith {sep : Text} {ls : List Text} {c : Char} (h : c ∈ joinWith sep ls) :
    c ∈ sep ∨ ∃ l ∈ ls, c ∈ l := by
  induction ls with
  | nil => cases h
  | cons l ls ih =>
    cases ls with
    | nil => exact .inr ⟨l, List.mem_cons_self, h⟩
    | cons l' ls =>
      rw [joinWith, List.mem_append, List.mem_append] at h
      · rcases h with (h | h) | h
        · exact .inr ⟨l, List.mem_cons_self, h⟩
        · exact .inl h
        · exact (ih h).imp id fun ⟨m, hm, hc⟩ => ⟨m, List.mem_cons_of_mem _ hm, hc⟩
      · simp

theorem toList_intercalate (sep : String) (ts : List String) :
    (sep.intercalate ts).toList = joinWith sep.toList (ts.map String.toList) := by
  induction ts with
  | nil => simp [joinWith]
  | cons t ts ih =>
    cases ts with
    | nil => simp [joinWith]
    | cons u us =>
      rw [String.intercalate_cons_cons, String.toList_append, String.toList_append, ih]
      rfl

/-! ## §4. Cutting at a separator of two characters. -/

section TwoCharacters

variable {a b : Char}

theorem startsWith_two {c : Char} {cs : Text} :
    startsWith (c :: cs) [a, b] = (a == c && cs.head? == some b) := by
  unfold startsWith
  rw [dropPrefix?]
  by_cases h : a = c
  · subst h
    cases cs with
    | nil => simp [dropPrefix?]
    | cons d ds =>
      by_cases hb : b = d
      · simp [dropPrefix?, hb]
      · simp [dropPrefix?, hb, Ne.symm hb]
  · simp [h]

/-- An occurrence in two texts put together lies in one of them or across the seam. -/
theorem contains_append_two (xs ys : Text) :
    contains (xs ++ ys) [a, b]
      = (contains xs [a, b] || contains ys [a, b]
          || (xs.getLast? == some a && ys.head? == some b)) := by
  induction xs with
  | nil => simp [contains, suffixes, startsWith, dropPrefix?]
  | cons x xs ih =>
    rw [List.cons_append, contains_cons, ih, startsWith_two, contains_cons, startsWith_two]
    cases xs with
    | nil =>
      have hnil : contains [] [a, b] = false := by simp [contains, suffixes, startsWith, dropPrefix?]
      simp only [List.nil_append, hnil, List.head?_nil, List.getLast?_nil, List.getLast?_singleton]
      by_cases hx : a = x
      · subst hx
        cases contains ys [a, b] <;> simp
      · simp [beq_false_of_ne hx, beq_false_of_ne (Ne.symm hx)]
    | cons y zs =>
      simp only [List.cons_append, List.head?_cons, List.getLast?_cons_cons, Bool.or_assoc]

theorem splitOn_of_not_contains {m : Text} (h : contains m [a, b] = false) :
    splitOn [a, b] m = [m] := by
  unfold splitOn
  induction m with
  | nil => rfl
  | cons c m ih =>
    rw [contains_cons, Bool.or_eq_false_iff] at h
    rw [splitAfter, if_neg (by simp [h.1]), ih h.2]

/-- Cutting takes one piece off at a time. The characters differ, so an occurrence of the separator
cannot begin inside the piece and end inside the first separator. -/
theorem splitOn_append (hab : a ≠ b) {m : Text} (h : contains m [a, b] = false) (rest : Text) :
    splitOn [a, b] (m ++ [a, b] ++ rest) = m :: splitOn [a, b] rest := by
  unfold splitOn
  induction m with
  | nil =>
    show splitAfter [a, b] 0 (a :: b :: rest) = _
    rw [splitAfter, if_pos (by simp [startsWith_two])]
    rfl
  | cons c m ih =>
    rw [contains_cons, Bool.or_eq_false_iff] at h
    have hseam : startsWith (c :: (m ++ [a, b] ++ rest)) [a, b] = false := by
      have hc := h.1
      rw [startsWith_two] at hc ⊢
      cases m with
      | nil => simp [hab]
      | cons d m => simpa using hc
    rw [List.cons_append, List.cons_append, splitAfter, if_neg (ne_true_of_eq_false hseam), ih h.2]

/-- **Cutting undoes joining** if no piece holds the separator. -/
theorem splitOn_joinWith (hab : a ≠ b) {ms : List Text} (hne : ms ≠ [])
    (h : ∀ m ∈ ms, contains m [a, b] = false) : splitOn [a, b] (joinWith [a, b] ms) = ms := by
  induction ms with
  | nil => exact absurd rfl hne
  | cons m ms ih =>
    cases ms with
    | nil => exact splitOn_of_not_contains (h m (by simp))
    | cons n ns =>
      rw [joinWith, splitOn_append hab (h m (by simp)), ih (by simp)
        (fun x hx => h x (List.mem_cons_of_mem _ hx))]
      simp

/-- The first piece is what stands in front of the text. -/
theorem splitAfter_head_prefix (sep cs : Text) :
    ∃ l ls, splitAfter sep 0 cs = l :: ls ∧ l <+: cs := by
  induction cs with
  | nil => exact ⟨[], [], rfl, List.nil_prefix⟩
  | cons c cs ih =>
    rw [splitAfter]
    split
    · exact ⟨[], _, rfl, List.nil_prefix⟩
    · obtain ⟨l, ls, hsplit, hl⟩ := ih
      rw [hsplit]
      exact ⟨c :: l, ls, rfl, by simpa using hl⟩

/-- **No piece that cutting gives holds the separator.** -/
theorem not_contains_of_mem_splitOn {cs l : Text} (h : l ∈ splitOn [a, b] cs) :
    contains l [a, b] = false := by
  unfold splitOn at h
  -- The skipped characters are those of a separator that has been cut off, so at most one.
  have key : ∀ (cs : Text) (skip : Nat), ∀ l ∈ splitAfter [a, b] skip cs,
      contains l [a, b] = false := by
    intro cs
    induction cs with
    | nil =>
      intro skip l hl
      have hl' : l = [] := by cases skip <;> simpa [splitAfter] using hl
      subst hl'
      simp [contains, suffixes, startsWith, dropPrefix?]
    | cons c cs ih =>
      intro skip l hl
      cases skip with
      | succ skip => exact ih skip l hl
      | zero =>
        rw [splitAfter] at hl
        by_cases hstart : startsWith (c :: cs) [a, b] = true
        · rw [if_pos hstart] at hl
          rcases List.mem_cons.mp hl with rfl | hl
          · simp [contains, suffixes, startsWith, dropPrefix?]
          · exact ih _ l hl
        · rw [if_neg hstart] at hl
          obtain ⟨l₀, ls, hsplit, hprefix⟩ := splitAfter_head_prefix [a, b] cs
          have hpieces : ∀ x ∈ l₀ :: ls, contains x [a, b] = false := by
            intro x hx
            exact ih 0 x (by rw [hsplit]; exact hx)
          rw [hsplit] at hl
          rcases List.mem_cons.mp hl with rfl | hl
          · rw [contains_cons, hpieces l₀ (by simp), Bool.or_false]
            by_contra hstart'
            have hlong : startsWith (c :: l₀) [a, b] = true := by simpa using hstart'
            exact hstart (startsWith_iff.mpr
              ((startsWith_iff.mp hlong).trans ((List.prefix_cons_inj c).mpr hprefix)))
          · exact hpieces l (List.mem_cons_of_mem _ hl)
  exact key cs 0 l h

end TwoCharacters

end DocLint.Text
