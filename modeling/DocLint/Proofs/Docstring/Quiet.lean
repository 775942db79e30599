import DocLint.Docstring.Header
import DocLint.Proofs.Text.Class
import DocLint.Proofs.Text.Pattern
import Mathlib.Data.List.Chain

/-!
DocLint.Proofs.Docstring.Quiet: texts in which no header can be read.

Headers have colons behind letters, or marks behind marks. In a quiet text a colon or a mark only stands
behind a blank or a closing parenthesis, so that it has no admonitions, and a literal that is loud, which
most headers are, does not match anywhere in it. Main result: in a text with a quiet end, a loud literal
matches only where it agrees with the front part.
-/

namespace DocLint.Docstring

open Text (sameLetter SameLetters matchesAt)

/-! ## §1. Quiet texts. -/

/-- The signs that tell headers from other text. -/
def isHeaderSign (c : Char) : Bool :=
  c == ':' || c == '!' || c == '?'

/-- Texts in which such a sign only stands behind a blank or a closing parenthesis. -/
def Quiet (cs : Text) : Prop :=
  cs.IsChain fun x y => isHeaderSign y = true → x = ' ' ∨ x = ')'

theorem Quiet.within {cs ds : Text} (h : Quiet cs) (hd : ds <:+: cs) : Quiet ds :=
  List.IsChain.infix h hd

/-- A text is quiet if its signs are. -/
theorem quiet_of_forall {cs : Text} (h : ∀ c ∈ cs, isHeaderSign c = false) : Quiet cs := by
  induction cs with
  | nil => exact .nil
  | cons x cs ih =>
    have hcs : Quiet cs := ih fun c hc => h c (List.mem_cons_of_mem _ hc)
    cases cs with
    | nil => exact .singleton _
    | cons y cs =>
      refine .cons_cons (fun hy => ?_) hcs
      rw [h y (by simp)] at hy
      cases hy

/-- Quiet texts may be put together where no sign follows the seam. -/
theorem Quiet.append {xs ys : Text} (hxs : Quiet xs) (hys : Quiet ys)
    (hseam : ∀ y, ys.head? = some y → isHeaderSign y = false) : Quiet (xs ++ ys) := by
  refine List.isChain_append.mpr ⟨hxs, hys, ?_⟩
  intro x _ y hy hsign
  rw [hseam y hy] at hsign
  cases hsign

/-! ## §2. Admonitions. -/

theorem Quiet.mark?_eq_none {cs : Text} (h : Quiet cs) : mark? cs = none := by
  unfold mark?
  split
  all_goals first
    | rfl
    | have hpair := (List.isChain_cons_cons.mp h).1 (by decide)
      exact absurd hpair (by decide)

theorem admonitionAt?_of_mark? {cs : Text} (h : mark? cs = none) : admonitionAt? cs = none := by
  unfold admonitionAt?
  rw [h]
  rfl

theorem admonitions_cons_of_mark? {c : Char} {cs : Text} (h : mark? (c :: cs) = none) :
    admonitions (c :: cs) = admonitions cs := by
  rw [admonitions, admonitionAt?_of_mark? h]

/-- Characters other than marks begin no admonition. -/
theorem admonitions_append_of_forall {xs : Text} (h : ∀ c ∈ xs, c ≠ '!' ∧ c ≠ '?') (cs : Text) :
    admonitions (xs ++ cs) = admonitions cs := by
  induction xs with
  | nil => rfl
  | cons x xs ih =>
    obtain ⟨hbang, hquery⟩ := h x List.mem_cons_self
    have hmark : mark? (x :: (xs ++ cs)) = none := by
      unfold mark?
      split
      all_goals first
        | rfl
        | next heq => exact absurd (List.cons.inj heq).1 hquery
        | next heq => exact absurd (List.cons.inj heq).1 hbang
    rw [List.cons_append, admonitions_cons_of_mark? hmark,
      ih fun c hc => h c (List.mem_cons_of_mem _ hc)]

/-- **A quiet text has no admonitions.** -/
theorem Quiet.admonitions_eq_nil {cs : Text} (h : Quiet cs) : admonitions cs = [] := by
  induction cs with
  | nil => rw [admonitions]
  | cons c cs ih =>
    rw [admonitions_cons_of_mark? h.mark?_eq_none, ih h.tail]

/-! ## §3. Literals. -/

/-- Literals that are in no quiet text: some sign does not stand behind a blank or a parenthesis. -/
def isLoud : Text → Bool
  | a :: b :: cs =>
    isHeaderSign b && !sameLetter a ' ' && !sameLetter a ')' || isLoud (b :: cs)
  | _ => false

theorem isSign_of_isHeaderSign {c : Char} (h : isHeaderSign c = true) : Text.isSign c = true := by
  unfold isHeaderSign at h
  simp only [Bool.or_eq_true, beq_iff_eq] at h
  rcases h with (rfl | rfl) | rfl <;> rfl

theorem not_quiet_of_isLoud {pat word : Text} (hloud : isLoud pat = true) (h : SameLetters pat word) :
    ¬ Quiet word := by
  intro hquiet
  induction h with
  | nil => cases hloud
  | @cons a x as xs hx hrest ih =>
    cases hrest with
    | nil => cases hloud
    | @cons b y bs ys hy hrest =>
      rw [isLoud, Bool.or_eq_true] at hloud
      rcases hloud with hpair | hloud
      · simp only [Bool.and_eq_true, Bool.not_eq_true'] at hpair
        obtain ⟨⟨hb, hblank⟩, hparen⟩ := hpair
        obtain rfl := (Text.sameLetter_iff (isSign_of_isHeaderSign hb)).mp hy
        rcases (List.isChain_cons_cons.mp hquiet).1 hb with rfl | rfl
        · rw [hblank] at hx
          cases hx
        · rw [hparen] at hx
          cases hx
      · exact ih hloud hquiet.tail

/-- Whether a literal and a text agree as far as both go. -/
def agrees (pat cs : Text) : Bool :=
  (pat.zip cs).all fun x => sameLetter x.1 x.2

theorem agrees_of_append {pat word rest front back : Text} (h : SameLetters pat word)
    (hcut : word ++ rest = front ++ back) : agrees pat front = true := by
  induction h generalizing front with
  | nil => rfl
  | @cons a x as xs hx hrest ih =>
    cases front with
    | nil => simp [agrees]
    | cons c front =>
      obtain ⟨rfl, hcuts⟩ := List.cons.inj hcut
      have htail := ih hcuts
      unfold agrees at htail ⊢
      rw [List.zip_cons_cons, List.all_cons, hx, htail]
      rfl

/-- **A loud literal matches only in front of a quiet end**, where it agrees with what stands there. -/
theorem agrees_of_matchesAt {pat front back : Text} {c : Char} (hloud : isLoud pat = true)
    (hquiet : Quiet (c :: back)) {n : Nat}
    (h : matchesAt [.letters pat] ((front ++ c :: back).drop n) = true) :
    n < front.length ∧ agrees pat ((front ++ [c]).drop n) = true := by
  obtain ⟨rest, hrest, -⟩ := Text.matchesAt_cons_iff.mp h
  obtain ⟨word, hcut, hletters⟩ := Text.dropLetters?_eq_some.mp (Option.mem_toList.mp hrest)
  have hn : n < front.length := by
    by_contra hle
    apply not_quiet_of_isLoud hloud hletters
    have hsuffix : (front ++ c :: back).drop n <:+ c :: back := by
      rw [List.drop_append, List.drop_eq_nil_of_le (by omega), List.nil_append]
      exact List.drop_suffix _ _
    have hword : word <:+: (front ++ c :: back).drop n := by
      rw [hcut]
      exact (List.prefix_append _ _).isInfix
    exact hquiet.within (hword.trans hsuffix.isInfix)
  have hsame : word ++ rest = (front ++ [c]).drop n ++ back := by
    rw [← hcut, ← List.drop_append_of_le_length (by simp; omega), List.append_assoc]
    rfl
  exact ⟨hn, agrees_of_append hletters hsame⟩

theorem agrees_of_contains {pat front back : Text} {c : Char} (hloud : isLoud pat = true)
    (hquiet : Quiet (c :: back)) (h : Text.contains (front ++ c :: back) pat = true) :
    ∃ n < front.length, agrees pat ((front ++ [c]).drop n) = true := by
  obtain ⟨before, after, hcut⟩ := Text.contains_iff.mp h
  refine ⟨before.length, agrees_of_matchesAt hloud hquiet ?_⟩
  rw [← hcut, List.append_assoc, List.drop_left]
  exact Text.matchesAt_letters (Text.sameLetters_refl pat) rfl

end DocLint.Docstring
