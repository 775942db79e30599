import DocLint.Proofs.Check.Docstring

/-!
DocLint.Proofs.Config.Fault: what makes a check fail.

The sections of a configuration are typed if names and marks are texts and orders are integers. A check by
typed sections fails at annotations that cannot be written, and at nothing else; and of the global options
only that to compare types has a part in it.
-/

namespace DocLint

/-! ## §1. Typed sections. -/

/-- A section as configured whose values have the types that checks use them with. -/
structure SectionSpec.IsTyped (s : SectionSpec) : Prop where
  /-- Its name is a text. -/
  name : ∃ n, s.name = .text n
  /-- The mark of its admonition is a text. -/
  marker : ∃ m, s.marker = .text m
  /-- It has no order, or an integer. -/
  order : s.isOrdered = true → ∃ n, s.order = .int n

theorem SectionSpec.IsTyped.fault? {s : SectionSpec} (h : s.IsTyped) : s.fault? = none := by
  obtain ⟨n, hn⟩ := h.name
  obtain ⟨m, hm⟩ := h.marker
  simp [SectionSpec.fault?, nameFault?, freeTextFault?, patternFault?, hn, hm]

theorem SectionSpec.IsTyped.askedFault? {s : SectionSpec} (h : s.IsTyped) : s.askedFault? = none := by
  obtain ⟨n, hn⟩ := h.name
  simp [SectionSpec.askedFault?, nameFault?, hn]

/-- A section of the rules, as it would be configured, is typed. -/
theorem SectionSpec.isTyped_ofSection (s : Section) : (SectionSpec.ofSection s).IsTyped := by
  refine ⟨⟨s.name, rfl⟩, ⟨s.marker, rfl⟩, fun h => ?_⟩
  cases horder : s.order with
  | none => simp [SectionSpec.ofSection, SectionSpec.isOrdered, horder] at h
  | some n => exact ⟨n, by simp [SectionSpec.ofSection, horder]⟩

namespace Config

variable {c : Config} {i : Item} {e : Fault}

/-- All sections of a configuration are typed. -/
def IsTyped (c : Config) : Prop :=
  ∀ s ∈ c.sections, s.IsTyped

theorem isTyped_defaultConfig : defaultConfig.IsTyped := by
  intro s hs
  obtain ⟨t, -, rfl⟩ := List.mem_map.mp hs
  exact SectionSpec.isTyped_ofSection t

/-- Integers can be sorted. -/
theorem IsTyped.orderFault? (h : c.IsTyped) : c.orderFault? = none := by
  have hnumbers : (c.sections.zipIdx.filter (·.1.isOrdered)).all
      (fun x => x.1.order.number?.isSome) = true := by
    rw [List.all_eq_true]
    rintro ⟨s, n⟩ hx
    obtain ⟨hmem, hordered⟩ := List.mem_filter.mp hx
    obtain ⟨k, hk⟩ := (h s (List.fst_mem_of_mem_zipIdx hmem)).order hordered
    simp [hk, Value.number?]
  unfold Config.orderFault? sortedOrders sortByValue
  rw [if_pos hnumbers]

theorem IsTyped.requiredFault? (h : c.IsTyped) : c.requiredFault? = none := by
  unfold Config.requiredFault?
  rw [List.findSome?_eq_none_iff]
  intro s hs
  exact (h s (List.mem_filter.mp hs).1).askedFault?

/-! ## §2. Annotations that cannot be written. -/

/-- A comparison that fails: types are compared, and a parameter has an annotation without a text. -/
structure ComparesUnwritten (c : Config) (i : Item) : Prop where
  /-- Types are compared. -/
  compares : c.settings.checkTypes.truthy = true
  /-- An annotation cannot be written. -/
  unwritten : ∃ sig, i.signature = some sig ∧ sig.hasUnwritten = true

theorem contentFault?_eq_some {doc : Text} {s : SectionSpec} (h : c.contentFault? i doc s = some e) :
    e = .unwritten ∧ c.ComparesUnwritten i := by
  unfold contentFault? at h
  cases hsig : i.signature with
  | none => rw [hsig] at h; cases h
  | some sig =>
    rw [hsig] at h
    simp only at h
    split at h
    · rename_i hboth
      simp only [Bool.and_eq_true] at hboth
      exact ⟨(Option.some.inj h).symm, hboth.2.2, sig, hsig, hboth.1⟩
    · cases h

/-- The check of an item does not fail exactly if the required sections can be asked for and, given a
docstring, all sections can be looked for, compared and ordered. -/
theorem itemFault?_eq_none_iff :
    c.itemFault? i = none
      ↔ c.requiredFault? = none ∧ ∀ doc, i.docstring.filter (!·.isEmpty) = some doc →
          (c.sections.filter (·.required.truthy)).findSome? (fun s =>
            if (s.toSection none).isParams && !i.hasParams then none else s.fault?) = none ∧
          (∀ s ∈ c.sections, s.fault? = none ∧ c.contentFault? i doc.toList s = none) ∧
          c.orderFault? = none := by
  unfold itemFault?
  cases i.docstring.filter (!·.isEmpty) with
  | none => simp
  | some doc => simp [List.findSome?_eq_none_iff]

/-- **Only the comparison of types depends on the global options.** If an item can be checked by the same
sections under some options, then under others its check fails at an annotation or not at all. -/
theorem itemFault?_eq_some {c' : Config} (hsections : c.sections = c'.sections)
    (hnone : c'.itemFault? i = none) (hfault : c.itemFault? i = some e) :
    e = .unwritten ∧ c.ComparesUnwritten i := by
  have hrequired : c.requiredFault? = c'.requiredFault? := by
    unfold requiredFault?
    rw [hsections]
  have horder : c.orderFault? = c'.orderFault? := by
    unfold orderFault? sortedOrders
    rw [hsections]
  obtain ⟨hasked, hlooked⟩ := itemFault?_eq_none_iff.mp hnone
  unfold itemFault? at hfault
  rw [hrequired, hasked, horder, hsections] at hfault
  cases hdoc : i.docstring.filter (!·.isEmpty) with
  | none => rw [hdoc] at hfault; cases hfault
  | some doc =>
    obtain ⟨hfirst, hsecond, hthird⟩ := hlooked doc hdoc
    rw [hdoc] at hfault
    simp only [hfirst, hthird] at hfault
    have hcontent : c'.sections.findSome? (fun s => s.fault? <|> c.contentFault? i doc.toList s)
        = some e := by simpa using hfault
    obtain ⟨s, hs, hfound⟩ := List.exists_of_findSome?_eq_some hcontent
    rw [(hsecond s hs).1] at hfound
    exact contentFault?_eq_some hfound

/-- The check of an item by typed sections fails only at annotations. -/
theorem IsTyped.itemFault?_eq_some (h : c.IsTyped) (hfault : c.itemFault? i = some e) :
    e = .unwritten ∧ c.ComparesUnwritten i := by
  -- the same sections without a comparison of types
  let bare : Config := { c with settings := { c.settings with checkTypes := .bool false } }
  have hbare : bare.IsTyped := h
  have hnone : bare.itemFault? i = none := by
    refine itemFault?_eq_none_iff.mpr ⟨hbare.requiredFault?, fun doc _ => ⟨?_, ?_, hbare.orderFault?⟩⟩
    · rw [List.findSome?_eq_none_iff]
      intro s hs
      rw [(h s (List.mem_filter.mp hs).1).fault?]
      exact ite_self none
    · intro s hs
      refine ⟨(h s hs).fault?, ?_⟩
      by_contra hsome
      obtain ⟨e', he'⟩ := Option.ne_none_iff_exists'.mp hsome
      have hoff := (contentFault?_eq_some he').2.compares
      cases hoff
  have hsame : c.sections = bare.sections := rfl
  exact Config.itemFault?_eq_some hsame hnone hfault

/-! ## §3. Several items. -/

/-- The items of a file are all checked, or the check fails at one of them. -/
theorem checkItems_cases (c : Config) (file : String) (is : List Item) :
    (∃ i ∈ is, ∃ e, c.itemFault? i = some e ∧ c.checkItems file is = .error e) ∨
      (∀ i ∈ is, c.itemFault? i = none) ∧
        c.checkItems file is = .ok (is.filterMap (c.toRules.checkItem? file)) := by
  have hmap : (∃ i ∈ is, ∃ e, c.itemFault? i = some e ∧ is.mapM (c.checkItem file) = .error e) ∨
      (∀ i ∈ is, c.itemFault? i = none) ∧
        is.mapM (c.checkItem file) = .ok (is.map (c.toRules.checkItem? file)) := by
    induction is with
    | nil => exact .inr ⟨by simp, rfl⟩
    | cons i is ih =>
      rw [List.mapM_cons]
      unfold checkItem
      cases hfault : c.itemFault? i with
      | some e => exact .inl ⟨i, List.mem_cons_self, e, hfault, rfl⟩
      | none =>
        rcases ih with ⟨j, hj, e, he, hrest⟩ | ⟨hnone, hrest⟩
        · refine .inl ⟨j, List.mem_cons_of_mem _ hj, e, he, ?_⟩
          unfold checkItem at hrest
          simp [hrest, bind, Except.bind]
        · unfold checkItem at hrest
          refine .inr ⟨List.forall_mem_cons.mpr ⟨hfault, hnone⟩, ?_⟩
          simp [hrest, bind, Except.bind, pure, Except.pure]
  unfold checkItems
  rcases hmap with ⟨i, hi, e, he, herror⟩ | ⟨hnone, hok⟩
  · exact .inl ⟨i, hi, e, he, by rw [herror]; rfl⟩
  · refine .inr ⟨hnone, ?_⟩
    rw [hok]
    show Except.ok ((is.map (c.toRules.checkItem? file)).filterMap id) = _
    rw [List.filterMap_map]
    rfl

end Config

end DocLint
