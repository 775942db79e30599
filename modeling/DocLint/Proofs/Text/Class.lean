import DocLint.Text.Case
import Mathlib.Data.List.Basic

/-!
DocLint.Proofs.Text.Class: how classes of characters lie to each other.

The signs of ASCII are the characters there that are no letters. Case has no hold on them: no other
character becomes one in lower case, none is the same letter, and a text has the same signs in lower case.
Blanks are not word characters.
-/

namespace DocLint.Text

/-! ## §1. Signs. -/

/-- Characters of ASCII that are no letters. -/
def isSign (c : Char) : Bool :=
  c.toNat < 65 || (90 < c.toNat && c.toNat < 97) || (122 < c.toNat && c.toNat < 128)

theorem isCapital_iff {c : Char} : isCapital c = true ↔ 65 ≤ c.toNat ∧ c.toNat ≤ 90 := by
  simp [isCapital, Char.le_def, UInt32.le_iff_toNat_le]

theorem toNat_ofNat_of_isValidChar {n : Nat} (h : n.isValidChar) : (Char.ofNat n).toNat = n := by
  rw [Char.ofNat, dif_pos h]
  rfl

/-- Where the images of the lower-case mapping lie: among the small letters or outside ASCII, and always
at characters. -/
theorem mapRuns_lower {n m : Nat} (h : mapRuns Table.lower n = some m) :
    (128 ≤ m ∨ 97 ≤ m ∧ m ≤ 122) ∧ m.isValidChar := by
  have htable : ∀ r ∈ Table.lower,
      (128 ≤ r.1 + r.2.2.2 ∨ 97 ≤ r.1 + r.2.2.2 ∧ r.2.1 + r.2.2.2 ≤ 122) ∧
      (r.2.1 + r.2.2.2 < 0xD800 ∨ 0xDFFF < r.1 + r.2.2.2 ∧ r.2.1 + r.2.2.2 < 0x110000) := by
    decide +kernel
  obtain ⟨⟨lo, hi, step, delta⟩, hr, hfound⟩ := List.exists_of_findSome?_eq_some h
  obtain ⟨hletter, hvalid⟩ := htable _ hr
  simp only [Option.ite_none_right_eq_some, Bool.and_eq_true, decide_eq_true_eq, Option.some.injEq]
    at hfound hletter hvalid
  obtain ⟨⟨⟨hlo, hhi⟩, -⟩, rfl⟩ := hfound
  unfold Nat.isValidChar
  omega

/-- **Only a sign itself becomes it in lower case.** -/
theorem lowerChar_eq_iff {c d : Char} (hd : isSign d = true) : lowerChar c = d ↔ c = d := by
  have hsign : d.toNat < 65 ∨ 90 < d.toNat ∧ d.toNat < 97 ∨ 122 < d.toNat ∧ d.toNat < 128 := by
    simpa [isSign, or_assoc] using hd
  constructor
  · intro h
    have hnat := congrArg Char.toNat h
    unfold lowerChar at hnat h
    split_ifs at hnat h with hascii hcapital hdotted
    · rw [isCapital_iff] at hcapital
      rw [toNat_ofNat_of_isValidChar (by unfold Nat.isValidChar; omega)] at hnat
      omega
    · exact h
    · have hi : d.toNat = 105 := hnat.symm
      omega
    · cases hrun : mapRuns Table.lower c.toNat with
      | none =>
        rw [hrun, Option.getD_none, Char.ofNat_toNat] at h
        exact h
      | some m =>
        obtain ⟨hm, hvalid⟩ := mapRuns_lower hrun
        rw [hrun, Option.getD_some, toNat_ofNat_of_isValidChar hvalid] at hnat
        omega
  · rintro rfl
    have hcapital : ¬ isCapital c = true := by
      rw [isCapital_iff]
      omega
    unfold lowerChar
    rw [if_pos (by omega), if_neg hcapital]

theorem sameLetter_iff {c d : Char} (hd : isSign d = true) : sameLetter d c = true ↔ c = d := by
  have hclasses : ∀ ns ∈ Table.lowerClasses, ∀ n ∈ ns, 128 ≤ n ∨ 97 ≤ n ∧ n ≤ 122 := by
    decide
  have hsign : d.toNat < 65 ∨ 90 < d.toNat ∧ d.toNat < 97 ∨ 122 < d.toNat ∧ d.toNat < 128 := by
    simpa [isSign, or_assoc] using hd
  have hself : lowerChar d = d := (lowerChar_eq_iff hd).mpr rfl
  unfold sameLetter
  rw [hself]
  constructor
  · intro h
    rcases Bool.or_eq_true_iff.mp h with heq | hclass
    · exact (lowerChar_eq_iff hd).mp (Char.toNat_inj.mp (beq_iff_eq.mp heq)).symm
    · obtain ⟨ns, hns, hboth⟩ := List.any_eq_true.mp hclass
      have hmem : d.toNat ∈ ns := by simpa using (Bool.and_eq_true_iff.mp hboth).1
      have := hclasses ns hns d.toNat hmem
      omega
  · rintro rfl
    simp [hself]

theorem sameLetter_comm (a b : Char) : sameLetter a b = sameLetter b a := by
  simp only [sameLetter, Bool.and_comm, BEq.comm]

/-- **A text has the same signs in lower case.** -/
theorem mem_lower_iff {cs : Text} {d : Char} (hd : isSign d = true) : d ∈ lower cs ↔ d ∈ cs := by
  have hne : ∀ e, isSign e = false → d ≠ e := by
    rintro e he rfl
    rw [hd] at he
    cases he
  have hpiece : ∀ before c after, d ∈ lowerIn before c after ↔ d = c := by
    intro before c after
    unfold lowerIn
    split_ifs with hsigma hfinal hdotted
    · refine iff_of_false (by simpa using hne _ (by decide)) (hne c ?_)
      simp [isSign, beq_iff_eq.mp hsigma]
    · refine iff_of_false (by simpa using hne _ (by decide)) (hne c ?_)
      simp [isSign, beq_iff_eq.mp hsigma]
    · refine iff_of_false ?_ (hne c (by simp [isSign, beq_iff_eq.mp hdotted]))
      simpa using ⟨hne _ (by decide), hne _ (by decide)⟩
    · rw [List.mem_singleton, eq_comm, lowerChar_eq_iff hd, eq_comm]
  have hfrom : ∀ cs before, d ∈ lowerFrom before cs ↔ d ∈ cs := by
    intro cs
    induction cs with
    | nil => simp [lowerFrom]
    | cons c cs ih =>
      intro before
      rw [lowerFrom, List.mem_append, hpiece, ih, List.mem_cons]
  exact hfrom cs []

/-! ## §2. Blanks. -/

/-- A blank is no word character. -/
theorem isSpace_of_isWord {c : Char} (h : isWord c = true) : isSpace c = false := by
  by_contra hspace
  have hcode : c.toNat ∈ List.range' 9 5 ++ List.range' 28 5 ++ [0x85, 0xA0, 0x1680] ++
      List.range' 0x2000 11 ++ [0x2028, 0x2029, 0x202F, 0x205F, 0x3000] := by
    simp only [isSpace, Bool.not_eq_false, Bool.or_eq_true, Bool.and_eq_true, decide_eq_true_eq,
      beq_iff_eq] at hspace
    simp only [List.mem_append, List.mem_range'_1, List.mem_cons, List.not_mem_nil, or_false]
    omega
  have hblank : ∀ n ∈ List.range' 9 5 ++ List.range' 28 5 ++ [0x85, 0xA0, 0x1680] ++
      List.range' 0x2000 11 ++ [0x2028, 0x2029, 0x202F, 0x205F, 0x3000],
      isWord (Char.ofNat n) = false := by
    decide +kernel
  have hnot := hblank _ hcode
  rw [Char.ofNat_toNat] at hnot
  rw [hnot] at h
  cases h

end DocLint.Text
