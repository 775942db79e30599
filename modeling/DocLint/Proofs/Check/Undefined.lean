import DocLint.Check.Undefined
import DocLint.Proofs.Docstring.Scan

/-!
DocLint.Proofs.Check.Undefined: sections that no rule names are reported once each.

The names of a docstring come from two sides: the words with a colon at the starts of its lines, and the titles of
the admonitions that a scan finds. Different words and titles may come down to one name, which counts once. Main
result: `undefinedIssues_exact`, there is one message for each name that no section has, and no other one.
-/

namespace DocLint

open Docstring (IsRun IsScan colonWord? colonWord?_eq_some_iff)
open Text (isWord lines lowered)

/-! ## §1. The names of a docstring. -/

/-- A word that starts a line of a docstring and that a colon follows directly. -/
def OpensLine (doc word : Text) : Prop :=
  IsRun isWord word ∧ ∃ rest, word ++ ':' :: rest ∈ lines doc

/-- A name that a docstring has, where `hits` are its admonitions: it is what a word at the start of a line or a
title comes down to, and it can be the name of a section. -/
def HasName (doc : Text) (hits : List (Nat × Docstring.Admonition)) (name : String) : Prop :=
  ∃ raw, (OpensLine doc raw ∨ ∃ h ∈ hits, h.2.title = raw) ∧ normalizeName raw = name.toList ∧
    isSectionName name.toList = true

theorem mem_colonWords {doc word : Text} : word ∈ Docstring.colonWords doc ↔ OpensLine doc word := by
  rw [Docstring.colonWords_eq_filterMap, List.mem_filterMap]
  constructor
  · rintro ⟨line, hline, hword⟩
    obtain ⟨hrun, rest, rfl⟩ := colonWord?_eq_some_iff.mp hword
    exact ⟨hrun, rest, hline⟩
  · rintro ⟨hrun, rest, hline⟩
    exact ⟨_, hline, colonWord?_eq_some_iff.mpr ⟨hrun, rest, rfl⟩⟩

theorem mem_sectionNames {doc : Text} {hits : List (Nat × Docstring.Admonition)}
    (hmap : Docstring.admonitions doc = hits.map (·.2)) {name : String} :
    name ∈ sectionNames doc ↔ HasName doc hits name := by
  have hraw : ∀ raw, raw ∈ Docstring.colonWords doc ++ (Docstring.admonitions doc).map (·.title)
      ↔ OpensLine doc raw ∨ ∃ h ∈ hits, h.2.title = raw := by
    intro raw
    rw [List.mem_append, mem_colonWords, hmap, List.map_map, List.mem_map]
    rfl
  unfold sectionNames HasName
  simp only [List.mem_eraseDups, List.mem_mergeSort, List.mem_map, List.mem_filter, hraw]
  constructor
  · rintro ⟨chars, ⟨⟨raw, hfound, rfl⟩, hname⟩, rfl⟩
    exact ⟨raw, hfound, String.toList_ofList.symm, by rwa [String.toList_ofList]⟩
  · rintro ⟨raw, hfound, heq, hname⟩
    exact ⟨name.toList, ⟨⟨raw, hfound, heq⟩, hname⟩, String.ofList_toList⟩

/-- Erasing the later copies leaves each member once. -/
theorem nodup_eraseDups {α : Type} [BEq α] [LawfulBEq α] (xs : List α) : xs.eraseDups.Nodup := by
  match xs with
  | [] => simp
  | x :: xs =>
    rw [List.eraseDups_cons, List.nodup_cons]
    refine ⟨?_, nodup_eraseDups (xs.filter fun y => !y == x)⟩
    simp [List.mem_eraseDups]
termination_by xs.length
decreasing_by
  exact Nat.lt_succ_of_le (List.length_filter_le _ _)

/-! ## §2. Names without a section. -/

/-- **Each name that no section has is reported once, and nothing else is.** The names come from the words with a colon
at the starts of the lines, of which none is passed over, and from the titles of the admonitions that the scan of the
docstring finds. -/
theorem undefinedIssues_exact (r : Rules) (doc : Text) :
    ∃ (hits : List (Nat × Docstring.Admonition)) (names : List String),
      (∀ hs, IsScan doc hs ↔ hs = hits) ∧ names.Nodup ∧
      (∀ name, name ∈ names ↔ HasName doc hits name ∧ ∀ s ∈ r.sections, lowered s.name ≠ name.toList) ∧
      (r.undefinedIssues doc).map Issue.message = names.map fun name =>
        "Section '" ++ name ++ "' found in docstring but not defined in configuration" := by
  obtain ⟨hits, hscan, hmap⟩ := Docstring.exists_isScan doc
  let isDefined (name : String) : Bool := (r.sections.map (lowered ·.name)).any (· == name.toList)
  have hdefined : ∀ name, isDefined name = false ↔ ∀ s ∈ r.sections, lowered s.name ≠ name.toList := by
    intro name
    simp [isDefined]
  refine ⟨hits, (sectionNames doc).filter (!isDefined ·), hscan.iff_eq, ?_, ?_, ?_⟩
  · exact (nodup_eraseDups _).filter _
  · intro name
    rw [List.mem_filter, mem_sectionNames hmap, Bool.not_eq_true', hdefined]
  · unfold Rules.undefinedIssues
    rw [List.map_map]
    rfl

end DocLint
