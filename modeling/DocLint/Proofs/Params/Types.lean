import DocLint.Params.Types
import DocLint.Proofs.Entries
import DocLint.Proofs.Text.Basic
import DocLint.Proofs.Text.Pattern

/-!
DocLint.Proofs.Params.Types: what it means that types are not reported.

The remark `, optional` is described by itself: a comma, blanks and the word in any case, at the end of a
type. A type without the remark agrees with its reading `withoutOptional` up to blanks, which do not
count; what two types are compared as is `ComparedAs`. `typeIssue?_eq_none_iff` takes the comparison apart into its four steps.
-/

namespace DocLint

/-- How much a style asks for. -/
def OptionalStyle.rank : OptionalStyle → Nat
  | .silent => 0
  | .validate => 1
  | .strict => 2

namespace Params

open Text (isSpace trim lower SameLetters)

/-! ## §1. The remark. -/

/-- A text that is the remark, perhaps before a newline. -/
def IsRemark (cs : Text) : Prop :=
  ∃ blanks word tail, cs = ',' :: (blanks ++ (word ++ tail)) ∧ (∀ c ∈ blanks, isSpace c = true) ∧
    SameLetters "optional".toList word ∧ (tail = [] ∨ tail = ['\n'])

/-- `bare` is the type without the remark at its end, if it has one. -/
def IsBare (type bare : Text) : Prop :=
  (∃ remark, type = bare ++ remark ∧ IsRemark remark) ∨
    (bare = type ∧ ∀ front remark, type = front ++ remark → ¬ IsRemark remark)

theorem isOptionalTail_iff {cs : Text} : isOptionalTail cs = true ↔ IsRemark cs := by
  unfold isOptionalTail
  rw [List.any_eq_true]
  constructor
  · rintro ⟨tail, htail, hend⟩
    have hend' : tail = [] ∨ tail = ['\n'] := by simpa using hend
    unfold afterOptional at htail
    split at htail
    · next ds =>
      obtain ⟨rest, hrest, hword⟩ := List.mem_filterMap.mp htail
      obtain ⟨blanks, rfl, hblanks⟩ := Text.mem_runRests.mp hrest
      obtain ⟨word, rfl, hletters⟩ := Text.dropLetters?_eq_some.mp hword
      exact ⟨blanks, word, tail, rfl, hblanks, hletters, hend'⟩
    · simp at htail
  · rintro ⟨blanks, word, tail, rfl, hblanks, hletters, hend⟩
    refine ⟨tail, ?_, by simpa using hend⟩
    rw [afterOptional]
    refine List.mem_filterMap.mpr ⟨word ++ tail, ?_, ?_⟩
    · exact Text.mem_runRests.mpr ⟨blanks, rfl, hblanks⟩
    · exact Text.dropLetters?_eq_some.mpr ⟨word, rfl, hletters⟩

theorem beforeOptional?_eq_some {type bare : Text} (h : beforeOptional? type = some bare) :
    ∃ remark, type = bare ++ remark ∧ IsRemark remark := by
  induction type generalizing bare with
  | nil => cases h
  | cons c cs ih =>
    rw [beforeOptional?] at h
    by_cases hc : isOptionalTail (c :: cs) = true
    · rw [if_pos hc] at h
      cases h
      exact ⟨c :: cs, rfl, isOptionalTail_iff.mp hc⟩
    · rw [if_neg hc, Option.map_eq_some_iff] at h
      obtain ⟨front, hfront, rfl⟩ := h
      obtain ⟨remark, rfl, hremark⟩ := ih hfront
      exact ⟨remark, rfl, hremark⟩

theorem beforeOptional?_eq_none {type : Text} (h : beforeOptional? type = none) :
    ∀ front remark, type = front ++ remark → ¬ IsRemark remark := by
  induction type with
  | nil =>
    rintro front remark hcut ⟨blanks, word, tail, rfl, -⟩
    simp at hcut
  | cons c cs ih =>
    rw [beforeOptional?] at h
    by_cases hc : isOptionalTail (c :: cs) = true
    · rw [if_pos hc] at h
      cases h
    · rw [if_neg hc, Option.map_eq_none_iff] at h
      intro front remark hcut
      cases front with
      | nil =>
        rw [List.nil_append] at hcut
        rw [← hcut]
        exact fun hremark => hc (isOptionalTail_iff.mpr hremark)
      | cons d front => exact ih h front remark (List.cons.inj hcut).2

/-- A type that ends in the remark. -/
def EndsInRemark (type : Text) : Prop :=
  ∃ front remark, type = front ++ remark ∧ IsRemark remark

theorem hasOptional_iff {type : Text} : hasOptional type = true ↔ EndsInRemark type := by
  unfold hasOptional
  rw [Option.isSome_iff_exists]
  constructor
  · rintro ⟨front, hfront⟩
    obtain ⟨remark, hcut, hremark⟩ := beforeOptional?_eq_some hfront
    exact ⟨front, remark, hcut, hremark⟩
  · rintro ⟨front, remark, hcut, hremark⟩
    by_contra hnone
    have hbefore : beforeOptional? type = none := by
      rw [Option.eq_none_iff_forall_ne_some]
      exact fun bare hbare => hnone ⟨bare, hbare⟩
    exact beforeOptional?_eq_none hbefore front remark hcut hremark

/-- What a style asks for grows with its rank: first a default for each remark, then a remark for each
default. -/
theorem optionalIssue?_eq_none_iff {style : OptionalStyle} {defaulted : List String} {param : String}
    {type : Text} :
    optionalIssue? style defaulted param type = none
      ↔ (1 ≤ style.rank → hasOptional type = true → defaulted.contains param = true) ∧
        (2 ≤ style.rank → defaulted.contains param = true → hasOptional type = true) := by
  unfold optionalIssue?
  cases hasOptional type <;> cases defaulted.contains param <;> cases style <;>
    simp [OptionalStyle.rank]

/-- What a type is compared as: blanks are left out, a double quote is read as a single one, and every other character
stays. -/
inductive ComparedAs : Text → Text → Prop
  | nil : ComparedAs [] []
  | blank {c : Char} {type plain : Text} :
      isSpace c = true → ComparedAs type plain → ComparedAs (c :: type) plain
  | quote {type plain : Text} : ComparedAs type plain → ComparedAs ('"' :: type) ('\'' :: plain)
  | other {c : Char} {type plain : Text} :
      isSpace c = false → c ≠ '"' → ComparedAs type plain → ComparedAs (c :: type) (c :: plain)

theorem normalizeType_cons_blank {c : Char} (hc : isSpace c = true) (type : Text) :
    normalizeType (c :: type) = normalizeType type := by
  unfold normalizeType
  rw [List.filter_cons_of_neg (by simp [hc])]

theorem normalizeType_cons {c : Char} (hc : isSpace c = false) (type : Text) :
    normalizeType (c :: type) = (if c == '"' then '\'' else c) :: normalizeType type := by
  unfold normalizeType Text.replaceChar
  rw [List.filter_cons_of_pos (by simp [hc]), List.map_cons]

/-- **Types are compared without blanks and with all quotes alike.** -/
theorem comparedAs_iff {type plain : Text} : ComparedAs type plain ↔ normalizeType type = plain := by
  constructor
  · intro h
    induction h with
    | nil => rfl
    | blank hblank _ ih => rw [normalizeType_cons_blank hblank, ih]
    | quote _ ih => rw [normalizeType_cons (by decide), ih, if_pos (by rfl)]
    | other hsolid hquote _ ih => rw [normalizeType_cons hsolid, ih, if_neg (by simpa using hquote)]
  · intro h
    subst h
    induction type with
    | nil => exact .nil
    | cons c type ih =>
      by_cases hblank : isSpace c = true
      · rw [normalizeType_cons_blank hblank]
        exact .blank hblank ih
      · rw [Bool.not_eq_true] at hblank
        rw [normalizeType_cons hblank]
        by_cases hquote : c = '"'
        · subst hquote
          exact .quote ih
        · rw [if_neg (by simpa using hquote)]
          exact .other hblank hquote ih

/-- A type keeps its characters, blanks and quotes apart. -/
theorem ComparedAs.mem_iff {type plain : Text} (h : ComparedAs type plain) {c : Char} (hsolid : isSpace c = false)
    (hdouble : c ≠ '"') (hsingle : c ≠ '\'') : c ∈ plain ↔ c ∈ type := by
  induction h with
  | nil => rfl
  | @blank d _ _ hblank _ ih =>
    have hne : c ≠ d := by
      intro hsame
      rw [← hsame, hsolid] at hblank
      cases hblank
    rw [ih, List.mem_cons, or_iff_right hne]
  | quote _ ih => rw [List.mem_cons, List.mem_cons, ih, or_iff_right hsingle, or_iff_right hdouble]
  | other _ _ _ ih => rw [List.mem_cons, List.mem_cons, ih]

theorem normalizeType_trim (cs : Text) : normalizeType (trim cs) = normalizeType cs := by
  unfold normalizeType
  rw [Text.filter_trim]

/-- **The reading without the remark is the bare type, up to blanks.** -/
theorem exists_bare (type : Text) :
    ∃ bare, IsBare type bare ∧ normalizeType (withoutOptional type) = normalizeType bare := by
  unfold withoutOptional
  cases h : beforeOptional? type with
  | none => exact ⟨type, .inr ⟨rfl, beforeOptional?_eq_none h⟩, normalizeType_trim type⟩
  | some bare => exact ⟨bare, .inl (beforeOptional?_eq_some h), normalizeType_trim bare⟩

/-! ## §2. Types that are not reported. -/

theorem sameType_iff {a b : String} :
    sameType a b = true ↔ lower (normalizeType a.toList) = lower (normalizeType b.toList) := by
  unfold sameType
  rw [beq_iff_eq]

theorem sameType_of_typeMismatches {annotations documented : Entries String String}
    (h : typeMismatches annotations documented = []) {p a d : String} (ha : (p, a) ∈ annotations)
    (hd : documented.get? p = some d) : sameType a d = true := by
  unfold typeMismatches at h
  have hp := List.filterMap_eq_nil_iff.mp h (p, a) ha
  simp only [hd] at hp
  by_contra hne
  rw [if_neg hne] at hp
  cases hp

theorem get?_bareTypes (doc : Text) (p : String) :
    (bareTypes doc).get? p
      = ((types doc).get? p).map fun t => String.ofList (withoutOptional t.toList) := by
  unfold bareTypes
  rw [Entries.get?_map fun t : String => String.ofList (withoutOptional t.toList)]

@[simp] theorem has_bareTypes (doc : Text) (p : String) :
    (bareTypes doc).has p = (types doc).has p := by
  rw [Entries.has_eq_isSome_get?, Entries.has_eq_isSome_get?, get?_bareTypes, Option.isSome_map]

theorem remarkIssues_eq_nil_iff {style : OptionalStyle} {s : Signature} {doc : Text} :
    remarkIssues style s doc = []
      ↔ ∀ e ∈ types doc, optionalIssue? style s.defaulted e.1 e.2.toList = none := by
  unfold remarkIssues
  rw [List.filterMap_eq_nil_iff]

/-- The comparison finds nothing exactly if none of its four steps does. -/
theorem typeIssue?_eq_none_iff {style : OptionalStyle} {s : Signature} {doc : Text} :
    typeIssue? style s doc = none
      ↔ remarkIssues style s doc = [] ∧ unannotated? s doc = none ∧ undocumented? s doc = none ∧
        typeMismatches s.types (bareTypes doc) = [] := by
  unfold typeIssue?
  cases hremarks : remarkIssues style s doc with
  | cons issue issues => simp
  | nil =>
    cases hleft : unannotated? s doc with
    | some p => simp
    | none =>
      cases hright : undocumented? s doc with
      | some e => simp
      | none =>
        cases hms : typeMismatches s.types (bareTypes doc) with
        | nil => simp
        | cons m ms => simp

theorem has_types_of_unannotated? {s : Signature} {doc : Text} (h : unannotated? s doc = none)
    {p : String} (hp : p ∈ s.params) (hdoc : (types doc).has p = true) : s.types.has p = true := by
  have hstep := List.find?_eq_none.mp h p hp
  rw [has_bareTypes, hdoc] at hstep
  simpa using hstep

/-- **Types that are not reported agree**: the annotation with the documented type, up to the remark,
blanks, quotes and case. -/
theorem agree_of_typeMismatches {s : Signature} {doc : Text}
    (h : typeMismatches s.types (bareTypes doc) = []) {p a t : String}
    (ha : s.types.get? p = some a) (ht : (types doc).get? p = some t) :
    ∃ bare x y, IsBare t.toList bare ∧ ComparedAs a.toList x ∧ ComparedAs bare y ∧ lower x = lower y := by
  have hbare : (bareTypes doc).get? p = some (String.ofList (withoutOptional t.toList)) := by
    rw [get?_bareTypes, ht]
    rfl
  have hsame := sameType_of_typeMismatches h (Entries.mem_of_get? ha) hbare
  obtain ⟨bare, hb, hnormal⟩ := exists_bare t.toList
  rw [sameType_iff, String.toList_ofList, hnormal] at hsame
  exact ⟨bare, _, _, hb, comparedAs_iff.mpr rfl, comparedAs_iff.mpr rfl, hsame⟩

end Params

end DocLint
