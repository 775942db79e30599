import DocLint.Params.Documented
import DocLint.Proofs.Docstring.Header
import DocLint.Proofs.Entries
import DocLint.Proofs.Text.Basic

/-!
DocLint.Proofs.Params.Reading: the two rules that read a list of parameters.

Names and types are read from the same lines by rules of their own, which end the list at different lines
and accept different entries. Here both are described by the shapes of lines: which lines stand in the list
(`mem_listLines`), which end it (`opensSection_iff`), and which are entries (`entryName?_eq_some_iff`,
`entryType?_eq_some_iff`). The rule for types reaches further: a line that ends the list of types also ends
the list of names, and an entry for a name without stars is an entry for a type.

Main result: `has_types_of_mem_names`, a name that is described without stars has a type.
-/

namespace DocLint.Params

open Docstring (run? run?_eq_some isTitleChar)
open Text (isSpace isWord isCapital trimLeft trimLeft_append exists_trimLeft)

/-! ## §1. Where the lists end. -/

theorem exists_dropSpaces (n : Nat) (cs : Text) :
    ∃ k ≤ n, cs = List.replicate k ' ' ++ dropSpaces n cs := by
  induction n generalizing cs with
  | zero => exact ⟨0, Nat.le_refl 0, rfl⟩
  | succ n ih =>
    unfold dropSpaces
    split
    · next m ds heq =>
      obtain rfl : m = n := by omega
      obtain ⟨k, hk, hds⟩ := ih ds
      refine ⟨k + 1, by omega, ?_⟩
      rw [List.replicate_succ, List.cons_append, ← hds]
    · exact ⟨0, Nat.zero_le _, rfl⟩

theorem dropSpaces_append {n k : Nat} (hk : k ≤ n) {c : Char} (hc : c ≠ ' ') (cs : Text) :
    dropSpaces n (List.replicate k ' ' ++ c :: cs) = c :: cs := by
  induction k generalizing n with
  | zero =>
    cases n with
    | zero => rfl
    | succ n =>
      show dropSpaces (n + 1) (c :: cs) = c :: cs
      unfold dropSpaces
      split
      · next heq => exact absurd (List.cons.inj heq).1 hc
      · rfl
  | succ k ih =>
    obtain ⟨n, rfl⟩ : ∃ m, n = m + 1 := ⟨n - 1, by omega⟩
    rw [List.replicate_succ, List.cons_append, dropSpaces]
    exact ih (by omega)

/-- The header of another section: at most four spaces, a capital, some characters of class `p` and a
colon. -/
inductive TitleShape (p : Char → Bool) : (line : Text) → Prop
  | mk (k : Nat) (c : Char) (title rest : Text) (hk : k ≤ 4) (hcapital : isCapital c = true)
      (hne : title ≠ []) (htitle : ∀ d ∈ title, p d = true) :
      TitleShape p (List.replicate k ' ' ++ c :: (title ++ ':' :: rest))

/-- **The lines that end a list are the headers of other sections.** -/
theorem opensSection_iff {p : Char → Bool} (hp : p ':' = false) {line : Text} :
    opensSection p line = true ↔ TitleShape p line := by
  constructor
  · intro h
    obtain ⟨k, hk, hline⟩ := exists_dropSpaces 4 line
    unfold opensSection at h
    split at h
    · next c cs heq =>
      rw [Bool.and_eq_true] at h
      obtain ⟨hcapital, hcolon⟩ := h
      split at hcolon
      · next title rest hrun =>
        obtain ⟨hne, rfl, htitle, -⟩ := run?_eq_some.mp hrun
        rw [hline, heq]
        exact .mk k c title rest hk hcapital hne htitle
      · cases hcolon
    · cases h
  · rintro ⟨k, c, title, rest, hk, hcapital, hne, htitle⟩
    have hspace : c ≠ ' ' := by
      rintro rfl
      exact absurd hcapital (by decide)
    have hrun : run? p (title ++ ':' :: rest) = some (title, ':' :: rest) := by
      refine run?_eq_some.mpr ⟨hne, rfl, htitle, ?_⟩
      rintro d ⟨⟩
      exact hp
    unfold opensSection
    rw [dropSpaces_append hk hspace]
    simp only [hcapital, hrun, Bool.and_self]

theorem closesNames_iff {line : Text} : closesNames line = true ↔ TitleShape isTitleChar line :=
  opensSection_iff (by decide)

theorem closesTypes_iff {line : Text} : closesTypes line = true ↔ TitleShape isWord line :=
  opensSection_iff (by decide)

theorem closesNames_of_closesTypes {line : Text} (h : closesTypes line = true) :
    closesNames line = true := by
  rw [closesTypes_iff] at h
  rw [closesNames_iff]
  obtain ⟨k, c, title, rest, hk, hcapital, hne, htitle⟩ := h
  exact .mk k c title rest hk hcapital hne fun d hd => by simp [isTitleChar, htitle d hd]

/-! ## §2. The lines of a list. -/

/-- A line in a list that the lines of class `closes` end, with the lines between the heading and it. -/
inductive IsListed (closes : Text → Bool) : (ls inside : List Text) → (line : Text) → Prop
  | mk (front inside after : List Text) (first line : Text) (hfront : ∀ l ∈ front, mentions l = false)
      (hfirst : mentions first = true) (hinside : ∀ l ∈ inside, mentions l = true ∨ closes l = false)
      (hline : mentions line = false) (hopen : closes line = false) :
      IsListed closes (front ++ first :: (inside ++ line :: after)) inside line

theorem listLines_of_heading {closes : Text → Bool} {front : List Text} {first : Text}
    (hfront : ∀ l ∈ front, mentions l = false) (hfirst : mentions first = true) (rest : List Text) :
    listLines closes (front ++ first :: rest)
      = (rest.takeWhile fun l => mentions l || !closes l).filter (!mentions ·) := by
  have hinside : (front ++ first :: rest).dropWhile (!mentions ·) = first :: rest := by
    rw [List.dropWhile_append_of_pos (by simpa using hfront),
      List.dropWhile_cons_of_neg (by simp [hfirst])]
  unfold listLines
  simp only [hinside]
  rw [List.takeWhile_cons_of_pos (by simp [hfirst]), List.filter_cons_of_neg (by simp [hfirst])]

/-- A list is made of the lines between its heading and the line that ends it. -/
theorem listLines_of_body {closes : Text → Bool} {front body rest : List Text} {first : Text}
    (hfront : ∀ l ∈ front, mentions l = false) (hfirst : mentions first = true)
    (hbody : ∀ l ∈ body, mentions l = false ∧ closes l = false)
    (hrest : ∀ l, rest.head? = some l → mentions l = false ∧ closes l = true) :
    listLines closes (front ++ first :: (body ++ rest)) = body := by
  have hstop : rest.takeWhile (fun l => mentions l || !closes l) = [] := by
    cases rest with
    | nil => rfl
    | cons l rest =>
      obtain ⟨hmentions, hcloses⟩ := hrest l rfl
      exact List.takeWhile_cons_of_neg (by simp [hmentions, hcloses])
  rw [listLines_of_heading hfront hfirst, List.takeWhile_append_of_pos, hstop, List.append_nil,
    List.filter_eq_self]
  · intro l hl
    simp [(hbody l hl).1]
  · intro l hl
    simp [(hbody l hl).2]

theorem mem_takeWhile_iff {α : Type} {p : α → Bool} {x : α} {l : List α} :
    x ∈ l.takeWhile p ↔ ∃ before after, l = before ++ x :: after ∧ (∀ y ∈ before, p y = true) ∧ p x = true := by
  constructor
  · intro h
    obtain ⟨before, after, hcut⟩ := List.append_of_mem h
    have hall : ∀ y ∈ l.takeWhile p, p y = true := List.all_eq_true.mp List.all_takeWhile
    rw [hcut] at hall
    refine ⟨before, after ++ l.dropWhile p, ?_, fun y hy => hall y (by simp [hy]), hall x (by simp)⟩
    rw [← List.cons_append, ← List.append_assoc, ← hcut, List.takeWhile_append_dropWhile]
  · rintro ⟨before, after, rfl, hbefore, hx⟩
    rw [List.takeWhile_append_of_pos hbefore, List.takeWhile_cons_of_pos hx]
    simp

/-- **The lines of a list**: below the first heading and above all lines that end it, headings apart. -/
theorem mem_listLines {closes : Text → Bool} {ls : List Text} {line : Text} :
    line ∈ listLines closes ls ↔ ∃ inside, IsListed closes ls inside line := by
  constructor
  · intro h
    -- without a heading there is no list
    have hheading : ∃ l ∈ ls, mentions l = true := by
      by_contra hnone
      have hall : ls.dropWhile (!mentions ·) = [] := by
        rw [List.dropWhile_eq_nil_iff]
        simpa using hnone
      unfold listLines at h
      simp only [hall] at h
      cases h
    obtain ⟨first, hfound⟩ := Option.isSome_iff_exists.mp (List.find?_isSome.mpr hheading)
    obtain ⟨hfirst, front, rest, rfl, hfront⟩ := List.find?_eq_some_iff_append.mp hfound
    rw [listLines_of_heading (by simpa using hfront) hfirst, List.mem_filter, mem_takeWhile_iff] at h
    obtain ⟨⟨inside, after, rfl, hinside, hopen⟩, hline⟩ := h
    have hline' : mentions line = false := by simpa using hline
    refine ⟨inside, .mk front inside after first line (by simpa using hfront) hfirst ?_ hline' ?_⟩
    · simpa using hinside
    · simpa [hline'] using hopen
  · rintro ⟨inside, front, _, after, first, _, hfront, hfirst, hinside, hline, hopen⟩
    rw [listLines_of_heading hfront hfirst, List.mem_filter, mem_takeWhile_iff]
    exact ⟨⟨inside, after, rfl, by simpa using hinside, by simp [hopen]⟩, by simp [hline]⟩

/-- A list that fewer lines close holds every line of one that more lines close. -/
theorem IsListed.mono {closes closes' : Text → Bool} (h : ∀ l, closes' l = true → closes l = true)
    {ls inside : List Text} {line : Text} (hlisted : IsListed closes ls inside line) :
    IsListed closes' ls inside line := by
  have hopen' : ∀ l, closes l = false → closes' l = false := by
    intro l hl
    by_contra hclose
    rw [h l (by simpa using hclose)] at hl
    cases hl
  obtain ⟨front, _, after, first, _, hfront, hfirst, hinside, hline, hopen⟩ := hlisted
  exact .mk front inside after first line hfront hfirst (fun l hl => (hinside l hl).imp_right (hopen' l))
    hline (hopen' line hopen)

/-! ## §3. Entries. -/

/-- What stands in parentheses: something that is not empty, up to the first closing one. -/
theorem parenthesized?_eq_some {cs inner rest : Text} :
    parenthesized? cs = some (inner, rest)
      ↔ cs = '(' :: (inner ++ ')' :: rest) ∧ inner ≠ [] ∧ ')' ∉ inner := by
  constructor
  · intro h
    unfold parenthesized? at h
    split at h
    · next ds =>
      split at h
      · next inner' rest' hrun =>
        obtain ⟨rfl, rfl⟩ := Prod.mk.inj (Option.some.inj h)
        obtain ⟨hne, rfl, hall, -⟩ := run?_eq_some.mp hrun
        exact ⟨rfl, hne, fun hin => by simpa using hall _ hin⟩
      · cases h
    · cases h
  · rintro ⟨rfl, hne, hnot⟩
    have hrun : run? (· != ')') (inner ++ ')' :: rest) = some (inner, ')' :: rest) := by
      refine run?_eq_some.mpr ⟨hne, rfl, fun c hc => ?_, fun c hc => ?_⟩
      · simpa using fun hparen : c = ')' => hnot (hparen ▸ hc)
      · cases hc
        rfl
    simp only [parenthesized?, hrun]

theorem stars_spec (n : Nat) (cs : Text) :
    cs = (stars n cs).1 ++ (stars n cs).2 ∧ (∀ c ∈ (stars n cs).1, c = '*') ∧
      (stars n cs).1.length ≤ n := by
  induction n generalizing cs with
  | zero => exact ⟨rfl, by simp [stars], Nat.le_refl 0⟩
  | succ n ih =>
    unfold stars
    split
    · next m ds heq =>
      obtain rfl : m = n := by omega
      obtain ⟨hcut, hall, hlen⟩ := ih ds
      refine ⟨congrArg _ hcut, ?_, Nat.succ_le_succ hlen⟩
      simpa using hall
    · exact ⟨rfl, by simp, Nat.zero_le _⟩

theorem stars_append {n : Nat} {ss rest : Text} (hss : ∀ c ∈ ss, c = '*') (hlen : ss.length ≤ n)
    (hrest : rest.head? ≠ some '*') : stars n (ss ++ rest) = (ss, rest) := by
  induction ss generalizing n with
  | nil =>
    show stars n rest = ([], rest)
    unfold stars
    split
    · exact absurd rfl hrest
    · rfl
  | cons s ss ih =>
    obtain ⟨n, rfl⟩ : ∃ m, n = m + 1 := ⟨n - 1, by rw [List.length_cons] at hlen; omega⟩
    obtain rfl : s = '*' := hss s List.mem_cons_self
    rw [List.cons_append, stars, ih (fun c hc => hss c (List.mem_cons_of_mem _ hc)) (by simpa using hlen)]

/-- The line of an entry: blanks, the stars `ss`, the word `name`, blanks, the text `type` in parentheses,
the blanks `gap` and a colon. -/
inductive EntryShape : (line ss name type gap : Text) → Prop
  | mk {ss name type gap : Text} (lead mid rest : Text) (hlead : ∀ c ∈ lead, isSpace c = true)
      (hstars : ∀ c ∈ ss, c = '*') (hne : name ≠ []) (hword : ∀ c ∈ name, isWord c = true)
      (hmid : ∀ c ∈ mid, isSpace c = true) (htype : type ≠ []) (hparen : ')' ∉ type)
      (hgap : ∀ c ∈ gap, isSpace c = true) :
      EntryShape (lead ++ (ss ++ (name ++ (mid ++ '(' :: (type ++ ')' :: (gap ++ ':' :: rest))))))
        ss name type gap

section Parts

variable {ss name mid gap : Text} (hne : name ≠ []) (hword : ∀ c ∈ name, isWord c = true)

theorem trimLeft_gap (hgap : ∀ c ∈ gap, isSpace c = true) {c : Char} (hc : isSpace c = false)
    (rest : Text) : trimLeft (gap ++ c :: rest) = c :: rest := by
  refine trimLeft_append hgap ?_
  rintro d ⟨⟩
  exact hc

include hne hword

theorem head?_word (rest : Text) : ∃ c, (name ++ rest).head? = some c ∧ isWord c = true := by
  cases name with
  | nil => exact absurd rfl hne
  | cons c name => exact ⟨c, rfl, hword c List.mem_cons_self⟩

/-- The blanks in front of an entry are trimmed, up to its stars or its name. -/
theorem trimLeft_lead {lead : Text} (hlead : ∀ c ∈ lead, isSpace c = true) (hstars : ∀ c ∈ ss, c = '*')
    (rest : Text) : trimLeft (lead ++ (ss ++ (name ++ rest))) = ss ++ (name ++ rest) := by
  refine trimLeft_append hlead ?_
  intro c hc
  cases ss with
  | nil =>
    obtain ⟨d, hd, hw⟩ := head?_word hne hword rest
    rw [List.nil_append, hd] at hc
    cases hc
    exact Text.isSpace_of_isWord hw
  | cons s ss =>
    cases hc
    rw [hstars c List.mem_cons_self]
    decide

theorem stars_word (hstars : ∀ c ∈ ss, c = '*') {n : Nat} (hlen : ss.length ≤ n) (rest : Text) :
    stars n (ss ++ (name ++ rest)) = (ss, name ++ rest) := by
  refine stars_append hstars hlen ?_
  obtain ⟨c, hc, hw⟩ := head?_word hne hword rest
  rw [hc]
  rintro ⟨⟩
  exact absurd hw (by decide)

theorem run?_word (hmid : ∀ c ∈ mid, isSpace c = true) (rest : Text) :
    run? isWord (name ++ (mid ++ '(' :: rest)) = some (name, mid ++ '(' :: rest) := by
  refine run?_eq_some.mpr ⟨hne, rfl, hword, ?_⟩
  intro c hc
  cases mid with
  | nil =>
    cases hc
    decide
  | cons d mid =>
    cases hc
    by_contra hw
    have hsolid := Text.isSpace_of_isWord (by simpa using hw)
    rw [hmid c List.mem_cons_self] at hsolid
    cases hsolid

end Parts

/-- **The entries for names**: at most two stars, and no blank before the colon. -/
theorem entryName?_eq_some_iff {line full : Text} :
    entryName? line = some full
      ↔ ∃ ss name type, full = ss ++ name ∧ ss.length ≤ 2 ∧ EntryShape line ss name type [] := by
  constructor
  · intro h
    obtain ⟨hcut, hstars, hlen⟩ := stars_spec 2 (trimLeft line)
    obtain ⟨lead, hline, hlead⟩ := exists_trimLeft line
    unfold entryName? at h
    generalize stars 2 (trimLeft line) = parts at h hcut hstars hlen
    obtain ⟨ss, rest⟩ := parts
    simp only [Option.bind_eq_bind, Option.bind_eq_some_iff] at h hcut
    obtain ⟨⟨name, after⟩, hname, h⟩ := h
    split at h
    · next type tail hparen =>
      obtain ⟨hne, rfl, hword, -⟩ := run?_eq_some.mp hname
      obtain ⟨mid, hafter, hmid⟩ := exists_trimLeft after
      obtain ⟨hopen, htype, hclose⟩ := parenthesized?_eq_some.mp hparen
      refine ⟨ss, name, type, (Option.some.inj h).symm, hlen, ?_⟩
      rw [hline, hcut, hafter, hopen]
      exact .mk lead mid tail hlead hstars hne hword hmid htype hclose (List.forall_mem_nil _)
    · cases h
  · rintro ⟨ss, name, type, rfl, hlen, lead, mid, rest, hlead, hstars, hne, hword, hmid, htype, hparen, -⟩
    unfold entryName?
    rw [trimLeft_lead hne hword hlead hstars, stars_word hne hword hstars hlen]
    simp only [run?_word hne hword hmid, Option.bind_eq_bind, Option.bind_some]
    rw [trimLeft_gap hmid (by decide), parenthesized?_eq_some.mpr ⟨rfl, htype, hparen⟩]
    rfl

/-- **The entries for types**: no stars, and blanks may stand before the colon. -/
theorem entryType?_eq_some_iff {line name type : Text} :
    entryType? line = some (name, type) ↔ ∃ gap, EntryShape line [] name type gap := by
  constructor
  · intro h
    obtain ⟨lead, hline, hlead⟩ := exists_trimLeft line
    unfold entryType? at h
    simp only [Option.bind_eq_bind, Option.bind_eq_some_iff] at h
    obtain ⟨⟨name', after⟩, hname, ⟨type', rest⟩, hparen, h⟩ := h
    split at h
    · next tail hcolon =>
      obtain ⟨rfl, rfl⟩ := Prod.mk.inj (Option.some.inj h)
      obtain ⟨hne, hcut, hword, -⟩ := run?_eq_some.mp hname
      obtain ⟨mid, hafter, hmid⟩ := exists_trimLeft after
      obtain ⟨hopen, htype, hclose⟩ := parenthesized?_eq_some.mp hparen
      obtain ⟨gap, hrest, hgap⟩ := exists_trimLeft rest
      refine ⟨gap, ?_⟩
      rw [hline, hcut, hafter, hopen, hrest, hcolon]
      exact .mk lead mid tail hlead (List.forall_mem_nil _) hne hword hmid htype hclose hgap
    · cases h
  · rintro ⟨gap, lead, mid, rest, hlead, hstars, hne, hword, hmid, htype, hparen, hgap⟩
    unfold entryType?
    rw [trimLeft_lead hne hword hlead hstars, List.nil_append, run?_word hne hword hmid]
    simp only [Option.bind_eq_bind, Option.bind_some]
    rw [trimLeft_gap hmid (by decide), parenthesized?_eq_some.mpr ⟨rfl, htype, hparen⟩]
    simp only [Option.bind_some]
    rw [trimLeft_gap hgap (by decide)]
    rfl

/-- An entry for a name without stars has no stars in front. -/
theorem shape_of_entryName? {line name : Text} (h : entryName? line = some name)
    (hstar : name.head? ≠ some '*') : ∃ type, EntryShape line [] name type [] := by
  obtain ⟨ss, word, type, rfl, -, hshape⟩ := entryName?_eq_some_iff.mp h
  cases ss with
  | nil => exact ⟨type, hshape⟩
  | cons s ss =>
    obtain ⟨lead, mid, rest, -, hstars, -⟩ := hshape
    exact absurd (congrArg some (hstars s List.mem_cons_self)) hstar

/-- A name with a type is a word, and the type holds no closing parenthesis. -/
theorem entryType?_eq_some {line name type : Text} (h : entryType? line = some (name, type)) :
    (∀ c ∈ name, isWord c = true) ∧ ')' ∉ type := by
  obtain ⟨gap, lead, mid, rest, -, -, -, hword, -, -, hparen, -⟩ := entryType?_eq_some_iff.mp h
  exact ⟨hword, hparen⟩

/-! ### Entries and headers. -/

/-- Characters that may stand before the parenthesis of an entry. -/
def isLead (c : Char) : Bool :=
  isTitleChar c || c == '*'

theorem find?_isLead {front : Text} (hfront : ∀ c ∈ front, isLead c = true) {c : Char}
    (hc : isLead c = false) (rest : Text) : (front ++ c :: rest).find? (!isLead ·) = some c := by
  rw [List.find?_append, List.find?_eq_none.mpr (by simpa using hfront), Option.none_or,
    List.find?_cons_of_pos (by simp [hc])]

/-- In an entry a parenthesis comes first. -/
theorem EntryShape.find?_eq {line ss name type gap : Text} (h : EntryShape line ss name type gap) :
    line.find? (!isLead ·) = some '(' := by
  obtain ⟨lead, mid, rest, hlead, hstars, -, hword, hmid, -⟩ := h
  have hcut : lead ++ (ss ++ (name ++ (mid ++ '(' :: (type ++ ')' :: (gap ++ ':' :: rest)))))
      = (lead ++ ss ++ name ++ mid) ++ '(' :: (type ++ ')' :: (gap ++ ':' :: rest)) := by simp
  rw [hcut]
  refine find?_isLead ?_ (by decide) _
  intro c hc
  simp only [List.mem_append] at hc
  rcases hc with ((hc | hc) | hc) | hc
  · simp [isLead, isTitleChar, hlead c hc]
  · simp [isLead, hstars c hc]
  · simp [isLead, isTitleChar, hword c hc]
  · simp [isLead, isTitleChar, hmid c hc]

theorem isWord_of_isCapital {c : Char} (h : isCapital c = true) : isWord c = true := by
  have hletter : ∀ n ∈ List.range' 65 26, isWord (Char.ofNat n) = true := by decide
  have hword := hletter c.toNat (by
    rw [Text.isCapital_iff] at h
    rw [List.mem_range'_1]
    omega)
  rwa [Char.ofNat_toNat] at hword

/-- In a header a colon comes first. -/
theorem TitleShape.find?_eq {line : Text} (h : TitleShape isTitleChar line) :
    line.find? (!isLead ·) = some ':' := by
  obtain ⟨k, c, title, rest, -, hcapital, -, htitle⟩ := h
  have hcut : List.replicate k ' ' ++ c :: (title ++ ':' :: rest)
      = (List.replicate k ' ' ++ c :: title) ++ ':' :: rest := by simp
  rw [hcut]
  refine find?_isLead ?_ (by decide) _
  intro d hd
  simp only [List.mem_append, List.mem_cons] at hd
  rcases hd with hd | rfl | hd
  · rw [List.eq_of_mem_replicate hd]
    decide
  · simp [isLead, isTitleChar, isWord_of_isCapital hcapital]
  · simp [isLead, htitle d hd]

/-- **An entry ends no list.** -/
theorem EntryShape.closesNames_eq_false {line ss name type gap : Text}
    (h : EntryShape line ss name type gap) : closesNames line = false := by
  by_contra hclose
  have htitle := (closesNames_iff.mp (by simpa using hclose)).find?_eq
  rw [h.find?_eq] at htitle
  cases htitle

/-! ## §4. Names and types. -/

theorem mem_names {doc : Text} {name : String} :
    name ∈ names doc
      ↔ ∃ line ∈ listLines closesNames (Text.lines doc), entryName? line = some name.toList := by
  unfold names
  rw [List.mem_map]
  constructor
  · rintro ⟨cs, hcs, rfl⟩
    obtain ⟨line, hline, hentry⟩ := List.mem_filterMap.mp hcs
    exact ⟨line, hline, by rw [String.toList_ofList]; exact hentry⟩
  · rintro ⟨line, hline, hentry⟩
    exact ⟨name.toList, List.mem_filterMap.mpr ⟨line, hline, hentry⟩, String.ofList_toList⟩

theorem has_types_iff {doc : Text} {name : String} :
    (types doc).has name = true
      ↔ ∃ line ∈ listLines closesTypes (Text.lines doc), ∃ type,
        entryType? line = some (name.toList, type) := by
  unfold types
  rw [Entries.has_ofPairs]
  constructor
  · rintro ⟨type, hpair⟩
    obtain ⟨⟨cs, t⟩, hcs, heq⟩ := List.mem_map.mp hpair
    obtain ⟨rfl, rfl⟩ := Prod.mk.inj heq
    obtain ⟨line, hline, hentry⟩ := List.mem_filterMap.mp hcs
    exact ⟨line, hline, t, by rw [String.toList_ofList]; exact hentry⟩
  · rintro ⟨line, hline, type, hentry⟩
    refine ⟨String.ofList type, List.mem_map.mpr ⟨(name.toList, type), ?_, by simp⟩⟩
    exact List.mem_filterMap.mpr ⟨line, hline, hentry⟩

/-- **A name that is described without stars has a type.** -/
theorem has_types_of_mem_names {doc : Text} {name : String} (h : name ∈ names doc)
    (hstar : name.toList.head? ≠ some '*') : (types doc).has name = true := by
  obtain ⟨line, hline, hentry⟩ := mem_names.mp h
  obtain ⟨type, hshape⟩ := shape_of_entryName? hentry hstar
  obtain ⟨inside, hlisted⟩ := mem_listLines.mp hline
  have hline' : line ∈ listLines closesTypes (Text.lines doc) :=
    mem_listLines.mpr ⟨inside, hlisted.mono fun _ => closesNames_of_closesTypes⟩
  exact has_types_iff.mpr ⟨line, hline', type, entryType?_eq_some_iff.mpr ⟨[], hshape⟩⟩

end DocLint.Params
