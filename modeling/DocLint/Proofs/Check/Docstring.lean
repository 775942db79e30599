import DocLint.Config.Fault
import Mathlib.Data.List.Basic

/-!
DocLint.Proofs.Check.Docstring: what it means that an item is not reported.

An item is not reported exactly if its docstring has no issue, and a docstring has none exactly if no
check finds one. The lemmas here take a check apart without looking into any single one.
-/

namespace DocLint

open Text (lowered)

/-! ## §1. Docstrings without issues. -/

namespace Rules

variable {r : Rules} {i : Item} {doc : Text} {file : String}

theorem checkDocstring?_eq_none_iff : r.checkDocstring? file i doc = none ↔ r.issues i doc = [] := by
  unfold checkDocstring?
  cases r.issues i doc <;> simp

theorem issues_eq_nil_iff :
    r.issues i doc = []
      ↔ r.missingIssues i doc = [] ∧ r.contentIssues i doc = [] ∧ r.formIssues doc = [] := by
  unfold issues
  rw [List.append_eq_nil_iff, List.append_eq_nil_iff, and_assoc]

/-- The text of the docstring decides, if there is any. -/
theorem checkItem?_of_docstring {d : String} (hd : i.docstring = some d) (hne : d ≠ "") :
    r.checkItem? file i = r.checkDocstring? file i d.toList := by
  have hempty : d.isEmpty = false := by
    rw [← Bool.not_eq_true, String.isEmpty_iff]
    exact hne
  unfold checkItem?
  rw [hd]
  simp [Option.filter, hempty]

theorem presentIn_of_missingIssues (h : r.missingIssues i doc = []) {s : Section}
    (hs : s ∈ r.sections) (hrequired : s.required = true) (hasked : s.isParams = true → i.hasParams = true) :
    s.presentIn doc = true := by
  unfold missingIssues at h
  rw [List.map_eq_nil_iff, List.filter_eq_nil_iff] at h
  have hmem : s ∈ r.sections.filter (·.required) := List.mem_filter.mpr ⟨hs, hrequired⟩
  have hstep := h s hmem
  by_contra habsent
  apply hstep
  rw [Bool.and_eq_true, Bool.or_eq_true]
  constructor
  · cases hparams : s.isParams with
    | false => exact .inl rfl
    | true => exact .inr (hasked hparams)
  · simpa using habsent

theorem contentIssue?_of_contentIssues (h : r.contentIssues i doc = []) {s : Section}
    (hs : s ∈ r.sections) (hpresent : s.presentIn doc = true) : r.contentIssue? i doc s = none := by
  unfold contentIssues at h
  exact List.filterMap_eq_nil_iff.mp h s (List.mem_filter.mpr ⟨hs, hpresent⟩)

/-- The content of a list of parameters has no issue exactly if neither its names have one nor, where
types are checked, its types. -/
theorem contentIssue?_params_eq_none {s : Section} {sig : Signature}
    (hkind : s.kind = .listNameAndType) (hparams : s.isParams = true)
    (hsig : i.signature = some sig) :
    r.contentIssue? i doc s = none
      ↔ Params.nameIssue? sig doc = none ∧
        (r.options.checkTypes = true →
          Params.typeIssue? r.options.optionalStyle sig doc = none) := by
  unfold contentIssue?
  rw [hkind, hsig]
  simp only [hparams, if_true]
  cases Params.nameIssue? sig doc with
  | some issue => simp
  | none => cases r.options.checkTypes <;> simp

end Rules

/-! ## §2. Items that are not reported. -/

namespace Config

variable {c : Config} {i : Item} {file : String}

theorem checkItem_eq_ok_iff {found : Option Finding} :
    c.checkItem file i = .ok found
      ↔ c.itemFault? i = none ∧ c.toRules.checkItem? file i = found := by
  unfold checkItem
  cases c.itemFault? i <;> simp

end Config

/-- A section as configured that every docstring of a function with parameters must have, and that
lists them with their types. -/
structure SectionSpec.IsRequiredParams (s : SectionSpec) : Prop where
  /-- Its name, in any case. -/
  name : ∃ n, s.name = .text n ∧ lowered n = "params".toList
  /-- Its kind. -/
  kind : s.kind = .text "list_name_and_type"
  /-- It is required. -/
  required : s.required.truthy = true

namespace SectionSpec.IsRequiredParams

variable {s : SectionSpec} (h : s.IsRequiredParams) (order : Option Int)
include h

theorem isParams : (s.toSection order).isParams = true := by
  obtain ⟨n, hname, hlower⟩ := h.name
  unfold Section.isParams toSection
  rw [hname]
  simpa [Value.plain] using hlower

theorem kind_toSection : (s.toSection order).kind = .listNameAndType := by
  show SectionKind.ofLabel (s.kind.text?.getD "") = _
  rw [h.kind]
  rfl

end SectionSpec.IsRequiredParams

end DocLint
