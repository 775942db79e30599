import DocLint.Proofs.Text.Basic
import DocLint.Proofs.Text.Class
import DocLint.Text.Pattern
import Mathlib.Data.List.Forall2
import Mathlib.Data.Nat.Find

/-!
DocLint.Proofs.Text.Pattern: what the pieces of a pattern stand for.

A piece leaves a rest exactly if the text is that rest with something in front that the piece allows: any
characters of a class, or letters that are the same up to case. A sequence of pieces matches a text that is
put together from such parts, and only such a text, and it is found at the leftmost place where it matches.
-/

namespace DocLint.Text

/-! ## §1. Single pieces. -/

/-- Letter by letter the same up to case. -/
def SameLetters (xs ys : Text) : Prop :=
  List.Forall₂ (fun x y => sameLetter x y = true) xs ys

theorem sameLetters_refl (cs : Text) : SameLetters cs cs :=
  List.forall₂_same.mpr fun c _ => by simp [sameLetter]

theorem sameLetters_append_iff {xs ys word : Text} :
    SameLetters (xs ++ ys) word ↔ ∃ u v, word = u ++ v ∧ SameLetters xs u ∧ SameLetters ys v := by
  constructor
  · intro h
    have hfront := List.forall₂_take xs.length h
    have hback := List.forall₂_drop xs.length h
    rw [List.take_left] at hfront
    rw [List.drop_left] at hback
    exact ⟨_, _, (List.take_append_drop _ _).symm, hfront, hback⟩
  · rintro ⟨u, v, rfl, hu, hv⟩
    exact List.rel_append hu hv

/-- Words are compared in lower case. -/
theorem sameLetters_congr {xs ys : Text} (h : xs.map lowerChar = ys.map lowerChar) (word : Text) :
    SameLetters xs word ↔ SameLetters ys word := by
  let R (x y : Char) : Prop := (x.toNat == (lowerChar y).toNat || Table.lowerClasses.any fun ns =>
    ns.contains x.toNat && ns.contains (lowerChar y).toNat) = true
  have hlower : ∀ zs : Text, SameLetters zs word ↔ List.Forall₂ R (zs.map lowerChar) word :=
    fun zs => (List.forall₂_map_left_iff (R := R)).symm
  rw [hlower, hlower, h]

/-- Signs are the same in words with the same letters. -/
theorem SameLetters.mem_of_isSign {pat word : Text} (h : SameLetters pat word) {d : Char} (hd : isSign d = true)
    (hmem : d ∈ word) : d ∈ pat := by
  induction h with
  | nil => exact hmem
  | cons hxy _ ih =>
    rcases List.mem_cons.mp hmem with rfl | hmem
    · rw [sameLetter_comm] at hxy
      rw [(sameLetter_iff hd).mp hxy]
      exact List.mem_cons_self
    · exact List.mem_cons_of_mem _ (ih hmem)

/-- A sign is the same as itself only. -/
theorem sameLetters_sign {d : Char} (hd : isSign d = true) {word : Text} : SameLetters [d] word ↔ word = [d] := by
  constructor
  · intro h
    cases h with
    | cons hxy hrest =>
      cases hrest
      rw [(sameLetter_iff hd).mp hxy]
  · rintro rfl
    exact sameLetters_refl [d]

theorem mem_runRests {p : Char → Bool} {cs rest : Text} :
    rest ∈ runRests p cs ↔ ∃ front, cs = front ++ rest ∧ ∀ c ∈ front, p c = true := by
  induction cs with
  | nil =>
    rw [runRests, List.mem_singleton]
    constructor
    · rintro rfl
      exact ⟨[], rfl, by simp⟩
    · rintro ⟨front, h, -⟩
      exact (List.append_eq_nil_iff.mp h.symm).2
  | cons c cs ih =>
    rw [runRests, List.mem_cons]
    constructor
    · rintro (rfl | hrest)
      · exact ⟨[], rfl, by simp⟩
      · by_cases hc : p c = true
        · rw [if_pos hc] at hrest
          obtain ⟨front, rfl, hfront⟩ := ih.mp hrest
          exact ⟨c :: front, rfl, by simpa [hc] using hfront⟩
        · rw [if_neg hc] at hrest
          simp at hrest
    · rintro ⟨front, h, hfront⟩
      cases front with
      | nil => exact .inl h.symm
      | cons d front =>
        obtain ⟨rfl, hcs⟩ := List.cons.inj h
        right
        rw [if_pos (hfront c (by simp))]
        exact ih.mpr ⟨front, hcs, fun x hx => hfront x (List.mem_cons_of_mem _ hx)⟩

theorem dropLetters?_eq_some {pat cs rest : Text} :
    dropLetters? pat cs = some rest ↔ ∃ word, cs = word ++ rest ∧ SameLetters pat word := by
  induction pat generalizing cs with
  | nil =>
    rw [dropLetters?]
    constructor
    · rintro h
      exact ⟨[], Option.some.inj h, .nil⟩
    · rintro ⟨word, rfl, hword⟩
      cases hword
      rfl
  | cons p ps ih =>
    cases cs with
    | nil =>
      rw [dropLetters?]
      constructor
      · intro h
        cases h
      · rintro ⟨word, h, hword⟩
        cases hword
        cases h
    | cons c cs =>
      rw [dropLetters?]
      by_cases hc : sameLetter p c = true
      · rw [if_pos hc, ih]
        constructor
        · rintro ⟨word, rfl, hword⟩
          exact ⟨c :: word, rfl, .cons hc hword⟩
        · rintro ⟨word, h, hword⟩
          cases hword with
          | cons _ htail => exact ⟨_, (List.cons.inj h).2, htail⟩
      · rw [if_neg hc]
        constructor
        · intro h
          cases h
        · rintro ⟨word, h, hword⟩
          cases hword with
          | cons hhead _ =>
            rw [← (List.cons.inj h).1] at hhead
            exact absurd hhead hc

/-! ## §2. Sequences of pieces. -/

theorem matchesAt_cons_iff {p : Piece} {ps : List Piece} {cs : Text} :
    matchesAt (p :: ps) cs = true ↔ ∃ rest ∈ p.rests cs, matchesAt ps rest = true := by
  rw [matchesAt, List.any_eq_true]

section Sequences

variable {ps : List Piece} {p : Char → Bool} {front rest : Text}

theorem matchesAt_letters {pat word : Text} (hword : SameLetters pat word)
    (hrest : matchesAt ps rest = true) : matchesAt (.letters pat :: ps) (word ++ rest) = true := by
  refine matchesAt_cons_iff.mpr ⟨rest, ?_, hrest⟩
  have hdrop : dropLetters? pat (word ++ rest) = some rest :=
    dropLetters?_eq_some.mpr ⟨word, rfl, hword⟩
  simp [Piece.rests, hdrop]

theorem matchesAt_any (hfront : ∀ c ∈ front, p c = true) (hrest : matchesAt ps rest = true) :
    matchesAt (.any p :: ps) (front ++ rest) = true :=
  matchesAt_cons_iff.mpr ⟨rest, mem_runRests.mpr ⟨front, rfl, hfront⟩, hrest⟩

theorem matchesAt_some (hne : front ≠ []) (hfront : ∀ c ∈ front, p c = true)
    (hrest : matchesAt ps rest = true) : matchesAt (.some p :: ps) (front ++ rest) = true := by
  cases front with
  | nil => exact absurd rfl hne
  | cons c front =>
    refine matchesAt_cons_iff.mpr ⟨rest, ?_, hrest⟩
    rw [List.cons_append, Piece.rests, if_pos (hfront c (by simp))]
    exact mem_runRests.mpr ⟨front, rfl, fun d hd => hfront d (List.mem_cons_of_mem _ hd)⟩

end Sequences

/-! ## §3. The leftmost place. -/

theorem find?_eq_some_iff {ps : List Piece} {cs : Text} {n : Nat} :
    find? ps cs = some n ↔ n ≤ cs.length ∧ matchesAt ps (cs.drop n) = true ∧
      ∀ k < n, matchesAt ps (cs.drop k) = false := by
  unfold find?
  rw [suffixes_eq_tails, List.findIdx?_eq_some_iff_getElem]
  simp only [List.length_tails, List.getElem_tails, Nat.lt_succ_iff, Bool.not_eq_true, exists_prop]

/-- **A pattern that matches somewhere is found there or further left.** -/
theorem exists_find?_le {ps : List Piece} {cs : Text} {n : Nat} (hn : n ≤ cs.length)
    (h : matchesAt ps (cs.drop n) = true) : ∃ k ≤ n, find? ps cs = some k := by
  have hex : ∃ k, matchesAt ps (cs.drop k) = true := ⟨n, h⟩
  have hle : Nat.find hex ≤ n := Nat.find_min' hex h
  refine ⟨Nat.find hex, hle, find?_eq_some_iff.mpr ⟨hle.trans hn, Nat.find_spec hex, ?_⟩⟩
  intro k hk
  simpa using Nat.find_min hex hk

/-! ## §4. Texts that a pattern fits. -/

/-- A text that starts with one part for each piece of a pattern. -/
inductive Fits : List Piece → Text → Prop where
  /-- Nothing is asked. -/
  | nil (cs : Text) : Fits [] cs
  /-- Letters that are the same up to case. -/
  | letters {pat word rest : Text} {ps : List Piece} :
      SameLetters pat word → Fits ps rest → Fits (.letters pat :: ps) (word ++ rest)
  /-- Characters of a class, perhaps none. -/
  | any {p : Char → Bool} {front rest : Text} {ps : List Piece} :
      (∀ c ∈ front, p c = true) → Fits ps rest → Fits (.any p :: ps) (front ++ rest)
  /-- Characters of a class, at least one. -/
  | some {p : Char → Bool} {front rest : Text} {ps : List Piece} :
      front ≠ [] → (∀ c ∈ front, p c = true) → Fits ps rest → Fits (.some p :: ps) (front ++ rest)
  /-- The end of a line or of the text, which is not taken. -/
  | lineEnd {rest : Text} {ps : List Piece} :
      (rest = [] ∨ rest.head? = Option.some '\n') → Fits ps rest → Fits (.lineEnd :: ps) rest

theorem fits_of_matchesAt {ps : List Piece} : ∀ {cs : Text}, matchesAt ps cs = true → Fits ps cs := by
  induction ps with
  | nil =>
    intro cs _
    exact .nil cs
  | cons p ps ih =>
    intro cs h
    obtain ⟨rest, hrest, htail⟩ := matchesAt_cons_iff.mp h
    have hfits := ih htail
    -- what the piece has taken in front of this rest
    cases p with
    | letters pat =>
      have hdrop : dropLetters? pat cs = Option.some rest := by simpa [Piece.rests] using hrest
      obtain ⟨word, rfl, hword⟩ := dropLetters?_eq_some.mp hdrop
      exact .letters hword hfits
    | any p =>
      obtain ⟨front, rfl, hfront⟩ := mem_runRests.mp hrest
      exact .any hfront hfits
    | some p =>
      cases cs with
      | nil => simp [Piece.rests] at hrest
      | cons c cs =>
        by_cases hc : p c = true
        · rw [Piece.rests, if_pos hc] at hrest
          obtain ⟨front, rfl, hfront⟩ := mem_runRests.mp hrest
          exact @Fits.some p (c :: front) rest ps (by simp) (List.forall_mem_cons.mpr ⟨hc, hfront⟩) hfits
        · simp [Piece.rests, hc] at hrest
    | lineEnd =>
      cases cs with
      | nil =>
        obtain rfl : rest = [] := by simpa [Piece.rests] using hrest
        exact .lineEnd (.inl rfl) hfits
      | cons c cs =>
        by_cases hc : c = '\n'
        · obtain rfl : rest = c :: cs := by simpa [Piece.rests, hc] using hrest
          exact .lineEnd (.inr (congrArg Option.some hc)) hfits
        · simp [Piece.rests, hc] at hrest

/-- **A pattern matches exactly the texts that it fits.** -/
theorem matchesAt_iff_fits {ps : List Piece} {cs : Text} : matchesAt ps cs = true ↔ Fits ps cs := by
  refine ⟨fits_of_matchesAt, fun h => ?_⟩
  induction h with
  | nil cs => rfl
  | letters hword _ ih => exact matchesAt_letters hword ih
  | any hfront _ ih => exact matchesAt_any hfront ih
  | some hne hfront _ ih => exact matchesAt_some hne hfront ih
  | @lineEnd rest ps hend _ ih =>
    refine matchesAt_cons_iff.mpr ⟨rest, ?_, ih⟩
    cases rest with
    | nil => simp [Piece.rests]
    | cons c cs =>
      obtain rfl : c = '\n' := by simpa using hend
      simp [Piece.rests]

theorem fits_letters_iff {pat cs : Text} {ps : List Piece} :
    Fits (.letters pat :: ps) cs ↔ ∃ word rest, cs = word ++ rest ∧ SameLetters pat word ∧ Fits ps rest := by
  constructor
  · intro h
    cases h with
    | letters hword hrest => exact ⟨_, _, rfl, hword, hrest⟩
  · rintro ⟨word, rest, rfl, hword, hrest⟩
    exact .letters hword hrest

/-- The leftmost place of a text where a pattern fits. -/
structure IsLeftmost (ps : List Piece) (cs : Text) (n : Nat) : Prop where
  /-- It is a place of the text. -/
  inside : n ≤ cs.length
  /-- The pattern fits there. -/
  fits : Fits ps (cs.drop n)
  /-- It does not fit further left. -/
  first : ∀ k < n, ¬ Fits ps (cs.drop k)

theorem find?_eq_some_iff_isLeftmost {ps : List Piece} {cs : Text} {n : Nat} :
    find? ps cs = some n ↔ IsLeftmost ps cs n := by
  have hmiss : ∀ k, matchesAt ps (cs.drop k) = false ↔ ¬ Fits ps (cs.drop k) := by
    intro k
    rw [← matchesAt_iff_fits, Bool.not_eq_true]
  rw [find?_eq_some_iff, matchesAt_iff_fits]
  simp only [hmiss]
  exact ⟨fun h => ⟨h.1, h.2.1, h.2.2⟩, fun h => ⟨h.inside, h.fits, h.first⟩⟩

/-- A pattern that fits somewhere in a text. -/
def FitsIn (ps : List Piece) (cs : Text) : Prop :=
  ∃ n ≤ cs.length, Fits ps (cs.drop n)

/-- A pattern is found exactly if it fits somewhere. -/
theorem isSome_find?_iff {ps : List Piece} {cs : Text} :
    (find? ps cs).isSome = true ↔ FitsIn ps cs := by
  constructor
  · intro h
    obtain ⟨n, hn⟩ := Option.isSome_iff_exists.mp h
    have hleft := find?_eq_some_iff_isLeftmost.mp hn
    exact ⟨n, hleft.inside, hleft.fits⟩
  · intro ⟨n, hn, hfits⟩
    obtain ⟨k, -, hk⟩ := exists_find?_le hn (matchesAt_iff_fits.mpr hfits)
    rw [hk]
    rfl

theorem find?_eq_none_iff {ps : List Piece} {cs : Text} : find? ps cs = none ↔ ¬ FitsIn ps cs := by
  rw [← isSome_find?_iff, Bool.not_eq_true, Option.isSome_eq_false_iff, Option.isNone_iff_eq_none]

theorem finds_iff {ps : List Piece} {cs : Text} : finds ps cs = true ↔ FitsIn ps cs := by
  unfold finds
  rw [List.any_eq_true, suffixes_eq_tails]
  constructor
  · rintro ⟨tail, htail, hmatch⟩
    obtain ⟨front, rfl⟩ := (List.mem_tails _ _).mp htail
    refine ⟨front.length, by simp, ?_⟩
    rw [List.drop_left]
    exact matchesAt_iff_fits.mp hmatch
  · rintro ⟨n, -, hfits⟩
    exact ⟨cs.drop n, (List.mem_tails _ _).mpr (List.drop_suffix n cs), matchesAt_iff_fits.mpr hfits⟩

/-- **A pattern that fits what starts with certain words fits where such a word stands.** -/
theorem fitsIn_iff_infix {ps : List Piece} {W : Text → Prop}
    (h : ∀ cs, Fits ps cs ↔ ∃ word rest, cs = word ++ rest ∧ W word) {cs : Text} :
    FitsIn ps cs ↔ ∃ word, W word ∧ word <:+: cs := by
  constructor
  · rintro ⟨n, -, hfits⟩
    obtain ⟨word, rest, hcut, hword⟩ := (h _).mp hfits
    have hfront : word <+: cs.drop n := ⟨rest, hcut.symm⟩
    exact ⟨word, hword, hfront.isInfix.trans (List.drop_suffix n cs).isInfix⟩
  · rintro ⟨word, hword, before, after, rfl⟩
    refine ⟨before.length, by simp, ?_⟩
    rw [List.append_assoc, List.drop_left]
    exact (h _).mpr ⟨word, after, rfl, hword⟩

/-- A literal fits where a word stands that has its letters. -/
theorem fitsIn_letters_iff {pat cs : Text} :
    FitsIn [.letters pat] cs ↔ ∃ word, SameLetters pat word ∧ word <:+: cs := by
  refine fitsIn_iff_infix fun cs => ?_
  rw [fits_letters_iff]
  simp only [Fits.nil, and_true]

instance (ps : List Piece) (cs : Text) : Decidable (FitsIn ps cs) :=
  decidable_of_iff _ isSome_find?_iff

end DocLint.Text
