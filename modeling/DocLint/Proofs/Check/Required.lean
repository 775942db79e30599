import DocLint.Proofs.Config.Fault
import DocLint.Proofs.Config.Rules
import DocLint.Proofs.Entries

/-!
DocLint.Proofs.Check.Required: what is asked of a docstring, and of an item without one.

A docstring is asked for every required section, apart from a list of parameters where there are none. An
item without a docstring is reported only if a required section applies to it, and none applies to a class.
Main result: exactly when an item that lacks a required section is still reported without its docstring.
-/

namespace DocLint

open Text (lowered)

/-! ## §1. Kinds and their labels. -/

theorem SectionKind.label_ofLabel (label : String) : (ofLabel label).label = label := by
  have hknown : ∀ p ∈ known, p.2.label = p.1 := by decide
  unfold ofLabel
  cases h : known.lookup label with
  | none => rfl
  | some k => exact hknown (label, k) (Entries.mem_of_get? h)

/-- A section of a known kind is configured by the label of that kind. -/
theorem SectionSpec.kind_toSection_eq_iff {s : SectionSpec} {order : Option Int} {label : String}
    {k : SectionKind} (hk : (label, k) ∈ SectionKind.known) :
    (s.toSection order).kind = k ↔ s.kind = .text label := by
  have hknown : ∀ p ∈ SectionKind.known,
      SectionKind.ofLabel p.1 = p.2 ∧ p.2.label = p.1 ∧ p.1 ≠ "" := by decide
  obtain ⟨hof, hlabel, hne⟩ := hknown (label, k) hk
  show SectionKind.ofLabel (s.kind.text?.getD "") = k ↔ _
  constructor
  · intro h
    have hread : s.kind.text?.getD "" = label := by
      rw [← SectionKind.label_ofLabel (s.kind.text?.getD ""), h, hlabel]
    cases hkind : s.kind with
    | text t =>
      rw [hkind] at hread
      exact congrArg Value.text hread
    | _ =>
      rw [hkind] at hread
      exact absurd hread.symm hne
  · intro h
    rw [h]
    exact hof

/-! ## §2. Sections that apply to an item. -/

theorem Section.appliesTo_iff {s : Section} {i : Item} :
    s.appliesTo i = true ↔ i.isFunction = true ∧
      (s.kind = .freeText ∨ s.kind = .listName ∨ s.kind = .listType ∨
        s.kind = .listNameAndType ∧
          ∃ n ∈ ["params", "returns", "return"], lowered s.name = n.toList) := by
  unfold appliesTo
  cases s.kind <;> simp

/-- A section as configured that asks for docstrings of functions: it is required, and if it is a list of
names and types it has one of three names. -/
structure SectionSpec.AsksFunctions (s : SectionSpec) : Prop where
  /-- It is required. -/
  required : s.required.truthy = true
  /-- Its kind is another one, or its name is that of parameters or results, in any case. -/
  kind : (∃ label ∈ ["free_text", "list_name", "list_type"], s.kind = .text label) ∨
    s.kind = .text "list_name_and_type" ∧
      ∃ n, s.name = .text n ∧ ∃ m ∈ ["params", "returns", "return"], lowered n = m.toList

/-- If the name of a section can be compared where that is needed, the section is required of an item exactly
if the item is a function and the section asks for docstrings of functions. -/
theorem SectionSpec.appliesTo_toSection_iff {s : SectionSpec} {order : Option Int} {i : Item}
    (hname : s.required.truthy = true → s.askedFault? = none) :
    (s.toSection order).required = true ∧ (s.toSection order).appliesTo i = true
      ↔ i.isFunction = true ∧ s.AsksFunctions := by
  have hlist := @kind_toSection_eq_iff s order "list_name_and_type" .listNameAndType (by decide)
  rw [Section.appliesTo_iff, @kind_toSection_eq_iff s order "free_text" .freeText (by decide),
    @kind_toSection_eq_iff s order "list_name" .listName (by decide),
    @kind_toSection_eq_iff s order "list_type" .listType (by decide), hlist]
  -- the name of a required list of names and types is a text
  have htext : s.required.truthy = true → s.kind = .text "list_name_and_type" →
      ∃ n, s.name = .text n := by
    intro hrequired hkind
    have hnone := hname hrequired
    unfold askedFault? isKind nameFault? at hnone
    cases h : s.name with
    | text n => exact ⟨n, rfl⟩
    | _ => simp [h, hkind, Value.text?, SectionKind.label] at hnone
  have hplain : ∀ n, s.name = .text n → (s.toSection order).name = n := by
    intro n hn
    unfold toSection
    rw [hn]
    rfl
  constructor
  · rintro ⟨hrequired, hfunction, hkind⟩
    refine ⟨hfunction, hrequired, ?_⟩
    rcases hkind with hkind | hkind | hkind | ⟨hkind, m, hm, hlower⟩
    · exact .inl ⟨_, by simp, hkind⟩
    · exact .inl ⟨_, by simp, hkind⟩
    · exact .inl ⟨_, by simp, hkind⟩
    · obtain ⟨n, hn⟩ := htext hrequired hkind
      rw [hplain n hn] at hlower
      exact .inr ⟨hkind, n, hn, m, hm, hlower⟩
  · rintro ⟨hfunction, hrequired, hkind⟩
    refine ⟨hrequired, hfunction, ?_⟩
    rcases hkind with ⟨label, hlabel, hkind⟩ | ⟨hkind, n, hn, m, hm, hlower⟩
    · simp only [List.mem_cons, List.not_mem_nil, or_false] at hlabel
      rcases hlabel with rfl | rfl | rfl
      · exact .inl hkind
      · exact .inr (.inl hkind)
      · exact .inr (.inr (.inl hkind))
    · refine .inr (.inr (.inr ⟨hkind, m, hm, ?_⟩))
      rw [hplain n hn]
      exact hlower

/-! ## §3. Items without a docstring. -/

namespace Config

variable {c : Config} {i : Item} {file : String}

theorem exists_mem_of_mem_toRules {s : Section} (h : s ∈ c.toRules.sections) :
    ∃ spec ∈ c.sections, ∃ order, s = spec.toSection order := by
  obtain ⟨⟨spec, order⟩, hmem, rfl⟩ := List.mem_map.mp h
  exact ⟨spec, (List.of_mem_zip hmem).1, order, rfl⟩

/-- A required section applies to an item exactly if the item is a function and some section asks for
docstrings of functions. -/
theorem requiredFor_ne_nil_iff (hfault : c.requiredFault? = none) :
    c.toRules.requiredFor i ≠ [] ↔ i.isFunction = true ∧ ∃ s ∈ c.sections, s.AsksFunctions := by
  have hname : ∀ s ∈ c.sections, s.required.truthy = true → s.askedFault? = none := by
    intro s hs hrequired
    exact List.findSome?_eq_none_iff.mp hfault s (List.mem_filter.mpr ⟨hs, hrequired⟩)
  rw [Ne, ← List.isEmpty_iff, Bool.not_eq_true, List.isEmpty_eq_false_iff_exists_mem]
  unfold Rules.requiredFor
  constructor
  · rintro ⟨s, hs⟩
    obtain ⟨hmem, hboth⟩ := List.mem_filter.mp hs
    obtain ⟨spec, hspec, order, rfl⟩ := exists_mem_of_mem_toRules hmem
    rw [Bool.and_eq_true] at hboth
    obtain ⟨hfunction, hasks⟩ :=
      (SectionSpec.appliesTo_toSection_iff (hname spec hspec)).mp hboth
    exact ⟨hfunction, spec, hspec, hasks⟩
  · rintro ⟨hfunction, spec, hspec, hasks⟩
    obtain ⟨order, hmem⟩ := exists_toSection_mem hspec
    refine ⟨spec.toSection order, List.mem_filter.mpr ⟨hmem, ?_⟩⟩
    rw [Bool.and_eq_true]
    exact (SectionSpec.appliesTo_toSection_iff (hname spec hspec)).mpr ⟨hfunction, hasks⟩

/-- Without a docstring the check fails only where it asks for required sections. -/
theorem checkItem_of_no_docstring (hdoc : i.docstring = none) (hfault : c.requiredFault? = none) :
    c.checkItem file i
      = .ok (c.toRules.missingDocstring? file i (!(c.toRules.requiredFor i).isEmpty)) := by
  have hnone : c.itemFault? i = none := by
    rw [itemFault?_eq_none_iff, hdoc]
    exact ⟨hfault, by simp⟩
  unfold checkItem Rules.checkItem?
  rw [hnone, hdoc]
  rfl

/-- **Where docstrings are required, an item without one is reported exactly if it is a function and some
section asks for docstrings of functions.** -/
theorem missingDocstring?_ne_none_iff (hrequire : c.settings.requireDocstrings.truthy = true)
    (hfault : c.requiredFault? = none) :
    c.toRules.missingDocstring? file i (!(c.toRules.requiredFor i).isEmpty) ≠ none
      ↔ i.isFunction = true ∧ ∃ s ∈ c.sections, s.AsksFunctions := by
  have hoption : c.toRules.options.requireDocstrings = true := hrequire
  rw [← requiredFor_ne_nil_iff hfault, Ne, Ne, ← List.isEmpty_iff]
  unfold Rules.missingDocstring?
  rw [hoption]
  cases (c.toRules.requiredFor i).isEmpty <;> simp

end Config

/-- **When removing a docstring is a way to pass.** Let docstrings be required, and let the docstring of an item
lack a required section. The item is reported for it; without a docstring it is reported too exactly if it
is a function and some section asks for docstrings of functions. Otherwise it passes: so do all classes, and so
do functions where every required section is a list of names and types of something else. -/
theorem reported_without_docstring_iff (c : Config) (file : String) (i : Item) (doc name : String)
    (hrequire : c.settings.requireDocstrings.truthy = true) (hdoc : i.docstring = some doc)
    (hne : doc ≠ "") (hfault : c.itemFault? i = none)
    (hmissing : .missingSection name ∈ c.toRules.issues i doc.toList) :
    (∃ f, c.checkItem file i = .ok (some f)) ∧
    ((∃ f, c.checkItem file { i with docstring := none } = .ok (some f)) ↔
      i.isFunction = true ∧ ∃ s ∈ c.sections, s.AsksFunctions) ∧
    (c.checkItem file { i with docstring := none } = .ok none ↔
      ¬ (i.isFunction = true ∧ ∃ s ∈ c.sections, s.AsksFunctions)) := by
  have hrequired : c.requiredFault? = none := (Config.itemFault?_eq_none_iff.mp hfault).1
  have hneeded := @Config.missingDocstring?_ne_none_iff c { i with docstring := none } file hrequire
    hrequired
  have hchecked := @Config.checkItem_of_no_docstring c { i with docstring := none } file rfl hrequired
  have hfunction : ({ i with docstring := none } : Item).isFunction = i.isFunction := rfl
  rw [hfunction] at hneeded
  rw [hchecked, ← hneeded]
  refine ⟨?_, ?_, ?_⟩
  · have hissues : c.toRules.checkItem? file i ≠ none := by
      rw [Rules.checkItem?_of_docstring hdoc hne, Ne, Rules.checkDocstring?_eq_none_iff]
      exact List.ne_nil_of_mem hmissing
    obtain ⟨f, hf⟩ := Option.ne_none_iff_exists'.mp hissues
    exact ⟨f, Config.checkItem_eq_ok_iff.mpr ⟨hfault, hf⟩⟩
  · rw [Option.ne_none_iff_exists']
    simp
  · simp

/-- A function whose docstring has no summary. -/
def plainFunction : Item :=
  { kind := .function, name := "f", line := 1, signature := some default, docstring := some "Does it." }

theorem reported_without_docstring_summary :
    .missingSection "summary" ∈ defaultConfig.toRules.issues plainFunction "Does it.".toList ∧
    ∃ f, defaultConfig.checkItem "m.py" { plainFunction with docstring := none } = .ok (some f) := by
  have hmissing : .missingSection "summary"
      ∈ defaultConfig.toRules.issues plainFunction "Does it.".toList := by decide
  refine ⟨hmissing, ?_⟩
  refine (reported_without_docstring_iff defaultConfig "m.py" plainFunction "Does it." "summary" rfl rfl
    (by decide) (by decide) hmissing).2.1.mpr ⟨rfl, _, List.mem_cons_self, rfl, ?_⟩
  exact .inl ⟨"free_text", by decide, rfl⟩

/-- Rules that require one list of names and types, which is neither of parameters nor of results. -/
def attributesConfig : Config :=
  { sections :=
      [{ name := .text "attributes", kind := .text "list_name_and_type", required := .bool true }] }

/-- A function is asked for its attributes only as long as it has a docstring. -/
theorem function_passes_without_docstring :
    attributesConfig.settings.requireDocstrings.truthy = true ∧
      .missingSection "attributes" ∈ attributesConfig.toRules.issues plainFunction "Does it.".toList ∧
      attributesConfig.checkItem "m.py" { plainFunction with docstring := none } = .ok none := by
  decide

/-- A class whose docstring has no summary. -/
def plainClass : Item :=
  { kind := .classItem, name := "C", line := 1, docstring := some "Does it." }

-- no section applies to a class, so it is asked for a summary only as long as it has a docstring
example : .missingSection "summary" ∈ defaultConfig.toRules.issues plainClass "Does it.".toList ∧
    defaultConfig.checkItem "m.py" { plainClass with docstring := none } = .ok none := by
  decide

end DocLint
