import DocLint.Proofs.Check.Required
import DocLint.Proofs.Check.Template
import DocLint.Proofs.Params.Acceptance

/-!
DocLint.Proofs.Params.Documentable: which functions can be documented at all.

A type is read up to the first closing parenthesis, and a name as a run of word characters. So a docstring
that the default configuration accepts exists exactly if the names of all parameters are words and their
annotations hold no closing parenthesis: for such a signature one is written out, and from any docstring
that is accepted both are read off.
-/

namespace DocLint

open Text (isWord lower)
open Params (IsEntry template)

/-! ## §1. Signatures. -/

/-- A parameter that a docstring can describe. -/
structure Param.IsDocumentable (p : Param) : Prop where
  /-- Its name is made of word characters. -/
  word : ∀ c ∈ p.name.toList, isWord c = true
  /-- It has an annotation without a closing parenthesis. -/
  typed : ∃ a, p.annotation = some a ∧ ')' ∉ a.toList
  /-- The annotation can be written. -/
  written : p.unwritten = false

namespace Signature

variable {s : Signature}

theorem types_eq (hn : s.params.Nodup) :
    s.types = s.described.filterMap fun p => p.annotation.map (p.name, ·) :=
  Entries.ofPairs_of_nodup (hn.sublist (sublist_annotated s.described))

/-- The names and types that a docstring of a function has to give. -/
def entries (s : Signature) : List (Text × Text) :=
  s.described.map fun p => (p.name.toList, (p.annotation.getD "").toList)

theorem isEntry_of_mem_entries (hname : ∀ n ∈ s.params, n.toList ≠ [])
    (h : ∀ p ∈ s.described, p.IsDocumentable) : ∀ e ∈ s.entries, IsEntry e := by
  intro e he
  obtain ⟨p, hp, rfl⟩ := List.mem_map.mp he
  obtain ⟨a, ha, hparen⟩ := (h p hp).typed
  refine ⟨hname p.name (List.mem_map.mpr ⟨p, hp, rfl⟩), (h p hp).word, ?_⟩
  rw [ha]
  exact hparen

theorem map_entries (s : Signature) : (s.entries.map fun e => String.ofList e.1) = s.params := by
  unfold entries params
  rw [List.map_map]
  exact List.map_congr_left fun p _ => String.ofList_toList

end Signature

/-! ## §2. The docstring that is written. -/

namespace Params

variable {s : Signature} (hn : s.params.Nodup) (hes : ∀ e ∈ s.entries, IsEntry e)

include hes in
theorem nameIssue?_template : nameIssue? s (template s.entries) = none := by
  have hmentions : mentions (template s.entries) = true :=
    Text.contains_iff.mpr ⟨summaryLine ++ ['\n'], entryLines s.entries, by simp [template]⟩
  have hnames : names (template s.entries) = s.params := by
    rw [names_template hes, Signature.map_entries]
  unfold nameIssue?
  simp [hmentions, hnames]

include hn hes

theorem types_template_entries : types (template s.entries)
    = s.described.map fun p => (p.name, String.ofList (spread (p.annotation.getD "").toList)) := by
  rw [types_template hes (by rw [Signature.map_entries]; exact hn)]
  unfold Signature.entries
  rw [List.map_map]
  exact List.map_congr_left fun p _ => by simp

theorem typeIssue?_template (hannotated : ∀ p ∈ s.described, ∃ a, p.annotation = some a) :
    typeIssue? .validate s (template s.entries) = none := by
  have htypes := types_template_entries hn hes
  have hkeys : ((types (template s.entries)).map (·.1)).Nodup := by
    rw [htypes, List.map_map]
    exact hn
  rw [typeIssue?_eq_none_iff]
  refine ⟨?_, ?_, ?_, ?_⟩
  · -- ===== no type has the remark =====
    rw [remarkIssues_eq_nil_iff, htypes, List.forall_mem_map]
    intro p _
    simp [optionalIssue?, hasOptional_spread]
  · -- ===== every parameter has an annotation =====
    refine List.find?_eq_none.mpr ?_
    unfold Signature.params
    rw [List.forall_mem_map]
    intro p hp
    obtain ⟨a, ha⟩ := hannotated p hp
    have hhas : s.types.has p.name = true :=
      Entries.has_ofPairs.mpr ⟨a, List.mem_filterMap.mpr ⟨p, hp, by rw [ha]; rfl⟩⟩
    simp [hhas]
  · -- ===== every annotation has a type =====
    refine List.find?_eq_none.mpr ?_
    rw [Signature.types_eq hn]
    intro e he
    obtain ⟨p, hp, hpair⟩ := List.mem_filterMap.mp he
    obtain ⟨a, -, rfl⟩ := Option.map_eq_some_iff.mp hpair
    have hhas : (types (template s.entries)).has p.name = true := by
      rw [htypes, Entries.has, List.any_eq_true]
      exact ⟨_, List.mem_map.mpr ⟨p, hp, rfl⟩, beq_self_eq_true _⟩
    simp [hhas]
  · -- ===== and the type agrees with it =====
    unfold typeMismatches
    rw [List.filterMap_eq_nil_iff, Signature.types_eq hn]
    intro e he
    obtain ⟨p, hp, hpair⟩ := List.mem_filterMap.mp he
    obtain ⟨a, ha, rfl⟩ := Option.map_eq_some_iff.mp hpair
    have hget : (types (template s.entries)).get? p.name = some (String.ofList (spread a.toList)) := by
      refine Entries.get?_of_mem hkeys ?_
      rw [htypes]
      exact List.mem_map.mpr ⟨p, hp, by rw [ha]; rfl⟩
    simp only [get?_bareTypes, hget, Option.map_some, String.toList_ofList, sameType_spread, if_true]

end Params

/-- The required sections are there. -/
theorem presentIn_template (es : List (Text × Text)) :
    ∀ s ∈ defaultSections, s.required = true → s.presentIn (template es) = true := by
  intro s hs hrequired
  simp only [defaultSections, List.mem_cons, List.not_mem_nil, or_false] at hs
  rcases hs with rfl | rfl | rfl | rfl | rfl | rfl | rfl | rfl
  · rfl
  · cases hrequired
  · cases es <;> rfl
  all_goals cases hrequired

theorem toRules_defaultConfig : defaultConfig.toRules = defaultRules := by
  decide

/-- **The docstring that is written is accepted.** -/
theorem checkItem_template {i : Item} {sig : Signature} (file : String) (hsig : i.signature = some sig)
    (hdistinct : sig.params.Nodup) (hname : ∀ n ∈ sig.params, n.toList ≠ [])
    (hparams : ∀ p ∈ sig.described, p.IsDocumentable)
    (hdoc : i.docstring = some (String.ofList (template sig.entries))) :
    defaultConfig.checkItem file i = .ok none := by
  have hes := Signature.isEntry_of_mem_entries hname hparams
  have hfault : defaultConfig.itemFault? i = none := by
    by_contra hsome
    obtain ⟨e, he⟩ := Option.ne_none_iff_exists'.mp hsome
    obtain ⟨sig', hsig', hunwritten⟩ :=
      (Config.isTyped_defaultConfig.itemFault?_eq_some he).2.unwritten
    obtain rfl : sig' = sig := Option.some.inj (hsig'.symm.trans hsig)
    obtain ⟨p, hp, hu⟩ := List.any_eq_true.mp hunwritten
    rw [(hparams p hp).written] at hu
    cases hu
  have hne : String.ofList (template sig.entries) ≠ "" := by
    intro h
    have hnil := congrArg String.toList h
    rw [String.toList_ofList] at hnil
    cases hnil
  rw [Config.checkItem_eq_ok_iff, toRules_defaultConfig, Rules.checkItem?_of_docstring hdoc hne,
    Rules.checkDocstring?_eq_none_iff, String.toList_ofList, Rules.issues_eq_nil_iff]
  refine ⟨hfault, ?_, ?_, formIssues_template hes⟩
  · -- ===== no section is missing =====
    unfold Rules.missingIssues
    rw [List.map_eq_nil_iff, List.filter_eq_nil_iff]
    intro s hs
    obtain ⟨hmem, hrequired⟩ := List.mem_filter.mp hs
    simp [presentIn_template sig.entries s hmem hrequired]
  · -- ===== names and types are those of the signature =====
    have hnames := Params.nameIssue?_template hes
    have htypes := Params.typeIssue?_template hdistinct hes fun p hp =>
      (hparams p hp).typed.imp fun a ha => ha.1
    unfold Rules.contentIssues
    rw [List.filterMap_eq_nil_iff]
    intro s _
    have hstyle : defaultRules.options.optionalStyle = .validate := rfl
    unfold Rules.contentIssue?
    rw [hsig]
    cases s.kind <;> simp [hnames, htypes, hstyle]

/-! ## §3. Docstrings that are accepted. -/

/-- An accepted function has a docstring, whose names and types are read without an issue. -/
theorem reading_of_accepted {i : Item} {sig : Signature} {file : String} (hsig : i.signature = some sig)
    (hsome : sig.params ≠ []) (hok : defaultConfig.checkItem file i = .ok none) :
    ∃ doc, i.docstring.filter (!·.isEmpty) = some doc ∧ Params.nameIssue? sig doc.toList = none ∧
      Params.typeIssue? .validate sig doc.toList = none ∧ sig.hasUnwritten = false := by
  obtain ⟨hfault, hnone⟩ := Config.checkItem_eq_ok_iff.mp hok
  obtain ⟨hrequired, hlooked⟩ := Config.itemFault?_eq_none_iff.mp hfault
  unfold Rules.checkItem? at hnone
  cases hdoc : i.docstring.filter (!·.isEmpty) with
  | none =>
    -- without a docstring the summary would be asked for
    rw [hdoc] at hnone
    have hfunction : i.isFunction = true := by
      unfold Item.isFunction
      rw [hsig]
      rfl
    have hasks : ∃ s ∈ defaultConfig.sections, s.AsksFunctions :=
      ⟨_, List.mem_cons_self, rfl, .inl ⟨"free_text", by decide, rfl⟩⟩
    exact absurd hnone
      ((Config.missingDocstring?_ne_none_iff rfl hrequired).mpr ⟨hfunction, hasks⟩)
  | some doc =>
    rw [hdoc, toRules_defaultConfig] at hnone
    obtain ⟨hmissing, hcontent, -⟩ :=
      Rules.issues_eq_nil_iff.mp (Rules.checkDocstring?_eq_none_iff.mp hnone)
    have hmem : paramsSection ∈ defaultRules.sections := by decide
    have hhas : i.hasParams = true := by
      unfold Item.hasParams
      rw [hsig]
      simpa using hsome
    have hpresent : paramsSection.presentIn doc.toList = true :=
      Rules.presentIn_of_missingIssues hmissing hmem rfl fun _ => hhas
    have hread := Rules.contentIssue?_of_contentIssues hcontent hmem hpresent
    rw [Rules.contentIssue?_params_eq_none rfl (by decide) hsig] at hread
    refine ⟨doc, rfl, hread.1, hread.2 rfl, ?_⟩
    -- the types are compared, so that every annotation has to be written
    have hspec : SectionSpec.ofSection paramsSection ∈ defaultConfig.sections :=
      List.mem_map_of_mem (by decide)
    have hcompared := ((hlooked doc hdoc).2.1 _ hspec).2
    have hkind : (SectionSpec.ofSection paramsSection).isKind .listNameAndType = true ∧
        ((SectionSpec.ofSection paramsSection).toSection none).isParams = true ∧
        defaultConfig.settings.checkTypes.truthy = true := by decide
    have hsection : ((SectionSpec.ofSection paramsSection).toSection none).presentIn doc.toList = true :=
      hpresent
    unfold Config.contentFault? at hcompared
    rw [hsig] at hcompared
    simp only [hkind.1, hkind.2.1, hkind.2.2, hsection, hread.1, Option.isNone_none, Bool.and_true]
      at hcompared
    cases hunwritten : sig.hasUnwritten with
    | false => rfl
    | true =>
      rw [hunwritten] at hcompared
      cases hcompared

/-- **A parameter that an accepted docstring describes is documentable.** -/
theorem isDocumentable_of_accepted {i : Item} {sig : Signature} {file : String}
    (hsig : i.signature = some sig) (hdistinct : sig.params.Nodup)
    (hidentifier : ∀ n ∈ sig.params, Text.isIdentifier n.toList = true) (hsome : sig.params ≠ [])
    (hok : defaultConfig.checkItem file i = .ok none) : ∀ p ∈ sig.described, p.IsDocumentable := by
  obtain ⟨doc, -, hnames, htypes, hunwritten⟩ := reading_of_accepted hsig hsome hok
  obtain ⟨-, hleft, -, hms⟩ := Params.typeIssue?_eq_none_iff.mp htypes
  intro p hp
  have hpn : p.name ∈ sig.params := List.mem_map.mpr ⟨p, hp, rfl⟩
  -- ===== the name is described, and so has a type =====
  have htyped : (Params.types doc.toList).has p.name = true :=
    Params.has_types_of_mem_names ((Params.nameIssue?_eq_none hsome hnames p.name).mpr hpn)
      (Params.head?_ne_star (hidentifier p.name hpn))
  obtain ⟨a, ha, hget⟩ := Signature.annotation_of_has_types hdistinct hp
    (Params.has_types_of_unannotated? hleft hpn htyped)
  rw [Entries.has_eq_isSome_get?, Option.isSome_iff_exists] at htyped
  obtain ⟨t, ht⟩ := htyped
  -- ===== both come from one line =====
  obtain ⟨⟨name, type⟩, hentry, hpair⟩ := List.mem_map.mp (Entries.mem_of_get?_ofPairs ht)
  obtain ⟨line, -, hline⟩ := List.mem_filterMap.mp hentry
  obtain ⟨hword, hparen⟩ := Params.entryType?_eq_some hline
  obtain ⟨hname, rfl⟩ := Prod.mk.inj hpair
  refine ⟨?_, ⟨a, ha, ?_⟩, ?_⟩
  · rw [← hname, String.toList_ofList]
    exact hword
  · -- a parenthesis of the annotation would be one of the type
    intro hin
    obtain ⟨bare, x, y, hbare, hx, hy, hagree⟩ := Params.agree_of_typeMismatches hms hget ht
    have hin' : ')' ∈ bare := by
      rw [← hy.mem_iff (by decide) (by decide) (by decide), ← Text.mem_lower_iff (by decide), ← hagree,
        Text.mem_lower_iff (by decide), hx.mem_iff (by decide) (by decide) (by decide)]
      exact hin
    rw [String.toList_ofList] at hbare
    rcases hbare with ⟨remark, hcut, -⟩ | ⟨rfl, -⟩
    · exact hparen (hcut ▸ List.mem_append_left _ hin')
    · exact hparen hin'
  · have hp' := List.any_eq_false.mp hunwritten p hp
    simpa using hp'

/-! ## §4. Functions that can be documented. -/

/-- **Which functions can be documented.** Under the default configuration a function with parameters has a
docstring that is accepted if and only if the name of each parameter is made of word characters and its
annotation can be written and holds no closing parenthesis. Then it has one that stands in the source as it
is. -/
theorem documentable_iff (i : Item) (sig : Signature) (file : String) (hsig : i.signature = some sig)
    (hdistinct : sig.params.Nodup)
    (hidentifier : ∀ n ∈ sig.params, Text.isIdentifier n.toList = true) (hsome : sig.params ≠ []) :
    ((∃ doc : String, defaultConfig.checkItem file { i with docstring := some doc } = .ok none)
      ↔ ∀ p ∈ sig.described, p.IsDocumentable) ∧
    ((∀ p ∈ sig.described, p.IsDocumentable) → ∃ doc : String,
      Docstring.clean doc.toList = doc.toList ∧
      defaultConfig.checkItem file { i with docstring := some doc } = .ok none) := by
  have hwritten : (∀ p ∈ sig.described, p.IsDocumentable) → ∃ doc : String,
      Docstring.clean doc.toList = doc.toList ∧
      defaultConfig.checkItem file { i with docstring := some doc } = .ok none := by
    intro hparams
    have hname : ∀ n ∈ sig.params, n.toList ≠ [] := by
      intro n hn hnil
      have hempty := hidentifier n hn
      rw [hnil] at hempty
      cases hempty
    have hes := Signature.isEntry_of_mem_entries hname hparams
    refine ⟨String.ofList (template sig.entries), ?_, ?_⟩
    · rw [String.toList_ofList, Params.clean_template hes]
    · exact checkItem_template file hsig hdistinct hname hparams rfl
  refine ⟨⟨?_, fun hparams => (hwritten hparams).imp fun doc hdoc => hdoc.2⟩, hwritten⟩
  rintro ⟨doc, hok⟩
  refine isDocumentable_of_accepted ?_ hdistinct hidentifier hsome hok
  exact hsig

/-- A function with an annotation that holds a heading and a remark. -/
def headingFunction : Item :=
  { kind := .function, name := "f", line := 1
    signature := some
      { plain := [{ name := "x", annotation := some "Literal['Params:', 'y, optional']" }]
        kwarg := some { name := "größe", annotation := some "dict[str, \"T\"]" } } }

theorem documentable_heading :
    ∃ doc : String, Docstring.clean doc.toList = doc.toList ∧
      defaultConfig.checkItem "m.py" { headingFunction with docstring := some doc } = .ok none := by
  refine (documentable_iff headingFunction _ "m.py" rfl (by decide) (by decide)
    (by decide)).2 ?_
  intro p hp
  have hp' : p = { name := "x", annotation := some "Literal['Params:', 'y, optional']" } ∨
      p = { name := "größe", annotation := some "dict[str, \"T\"]" } := by
    simpa [headingFunction, Signature.described, Signature.documented, Signature.isReceiver] using hp
  rcases hp' with rfl | rfl
  · exact ⟨List.all_eq_true.mp (by decide), ⟨_, rfl, by decide⟩, rfl⟩
  · exact ⟨List.all_eq_true.mp (by decide), ⟨_, rfl, by decide⟩, rfl⟩

/-- A function with an annotation that holds a call. -/
def callFunction : Item :=
  { kind := .function, name := "f", line := 1
    signature := some
      { plain := [{ name := "x", annotation := some "Annotated[int, Gt(0)]" }] } }

/-- No docstring of such a function is accepted. -/
theorem not_documentable_call :
    ¬ ∃ doc : String,
      defaultConfig.checkItem "m.py" { callFunction with docstring := some doc } = .ok none := by
  rintro ⟨doc, hok⟩
  have hx := isDocumentable_of_accepted rfl (by decide) (by decide) (by decide)
    hok { name := "x", annotation := some "Annotated[int, Gt(0)]" } (by decide)
  obtain ⟨a, ha, hparen⟩ := hx.typed
  cases ha
  exact hparen (by decide)

end DocLint
