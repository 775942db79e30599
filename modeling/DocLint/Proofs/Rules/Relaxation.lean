import DocLint.Proofs.Config.Fault
import DocLint.Proofs.Config.Rules
import DocLint.Proofs.Params.Types
import DocLint.Proofs.Workspace.Check

/-!
DocLint.Proofs.Rules.Relaxation: options that ask for less report less.

The global options are ordered by what they ask for. By the same sections, everything that is reported under
relaxed options is reported under the others too, unless the check fails there; and by sections whose
values have the right types it fails only at an annotation that cannot be written.
-/

namespace DocLint

/-! ## §1. The order of the options. -/

/-- Options that ask for no more than others. -/
structure Options.Relaxes (o' o : Options) : Prop where
  /-- What is allowed stays allowed. -/
  allowUndefined : o.allowUndefined = true → o'.allowUndefined = true
  /-- Docstrings are required only where they were. -/
  requireDocstrings : o'.requireDocstrings = true → o.requireDocstrings = true
  /-- Private definitions are checked only where they were. -/
  checkPrivate : o'.checkPrivate = true → o.checkPrivate = true
  /-- Types are compared only where they were. -/
  checkTypes : o'.checkTypes = true → o.checkTypes = true
  /-- The style asks for no more. -/
  optionalStyle : o'.optionalStyle.rank ≤ o.optionalStyle.rank

/-! ## §2. Types. -/

namespace Params

variable {sig : Signature} {doc : Text} {style' style : OptionalStyle}

theorem remarkIssues_eq_nil_mono (h : style'.rank ≤ style.rank) (hnone : remarkIssues style sig doc = []) :
    remarkIssues style' sig doc = [] := by
  rw [remarkIssues_eq_nil_iff] at *
  intro entry hentry
  obtain ⟨hdefault, hremark⟩ := optionalIssue?_eq_none_iff.mp (hnone entry hentry)
  exact optionalIssue?_eq_none_iff.mpr
    ⟨fun hrank => hdefault (hrank.trans h), fun hrank => hremark (hrank.trans h)⟩

/-- Types without an issue have none under a style that asks for less. -/
theorem typeIssue?_eq_none_mono (h : style'.rank ≤ style.rank) (hnone : typeIssue? style sig doc = none) :
    typeIssue? style' sig doc = none := by
  rw [typeIssue?_eq_none_iff] at *
  exact ⟨remarkIssues_eq_nil_mono h hnone.1, hnone.2⟩

end Params

/-! ## §3. Docstrings and items. -/

namespace Rules

variable {r' r : Rules} {i : Item} {doc : Text} {file : String}

theorem contentIssue?_eq_none_mono (h : r'.options.Relaxes r.options) {s : Section}
    (hnone : r.contentIssue? i doc s = none) : r'.contentIssue? i doc s = none := by
  cases hsig : i.signature with
  | none => unfold contentIssue?; rw [hsig]; cases s.kind <;> rfl
  | some sig =>
    by_cases hlist : s.kind = .listNameAndType ∧ s.isParams = true
    · rw [contentIssue?_params_eq_none hlist.1 hlist.2 hsig] at *
      refine ⟨hnone.1, fun htypes => ?_⟩
      exact Params.typeIssue?_eq_none_mono h.optionalStyle (hnone.2 (h.checkTypes htypes))
    · -- no other section has its content compared
      unfold contentIssue?
      rw [hsig]
      cases hkind : s.kind with
      | listNameAndType =>
        have hname : s.isParams = false := by
          rw [← Bool.not_eq_true]
          exact fun hp => hlist ⟨hkind, hp⟩
        simp [hname]
      | _ => rfl

theorem parenLines_congr (hsections : r'.sections = r.sections) (ls : List Text) :
    ∀ st : ParenState, r'.parenLines st ls = r.parenLines st ls := by
  have hstep : ∀ st full, r'.parenStep st full = r.parenStep st full := by
    intro st full
    unfold parenStep isHeader typedHeader? named?
    rw [hsections]
  induction ls with
  | nil => intro st; rfl
  | cons l ls ih =>
    intro st
    rw [parenLines, parenLines, hstep]
    exact congrArg _ (ih _)

theorem formIssues_eq_nil_mono (hsections : r'.sections = r.sections)
    (h : r'.options.Relaxes r.options) (hnone : r.formIssues doc = []) : r'.formIssues doc = [] := by
  obtain ⟨o', ss'⟩ := r'
  obtain ⟨o, ss⟩ := r
  simp only at hsections h
  subst hsections
  have hsame : (⟨o', ss'⟩ : Rules).sections = (⟨o, ss'⟩ : Rules).sections := rfl
  have hparen : parenIssues ⟨o', ss'⟩ doc = parenIssues ⟨o, ss'⟩ doc := parenLines_congr hsame _ _
  unfold formIssues at *
  simp only [List.append_eq_nil_iff] at hnone ⊢
  obtain ⟨⟨⟨⟨⟨⟨horder, hboth⟩, hundefined⟩, hadmonition⟩, hcolon⟩, hcase⟩, hparens⟩ := hnone
  refine ⟨⟨⟨⟨⟨⟨horder, hboth⟩, ?_⟩, hadmonition⟩, hcolon⟩, hcase⟩, hparen.trans hparens⟩
  cases hallowed : o'.allowUndefined with
  | true => rfl
  | false =>
    have hasked : o.allowUndefined = false := by
      rw [← Bool.not_eq_true]
      intro hallow
      rw [h.allowUndefined hallow] at hallowed
      cases hallowed
    rw [hasked] at hundefined
    exact hundefined

/-- **A docstring without an issue has none under relaxed options.** -/
theorem issues_eq_nil_mono (hsections : r'.sections = r.sections) (h : r'.options.Relaxes r.options)
    (hnone : r.issues i doc = []) : r'.issues i doc = [] := by
  rw [issues_eq_nil_iff] at *
  obtain ⟨hmissing, hcontent, hform⟩ := hnone
  refine ⟨?_, ?_, formIssues_eq_nil_mono hsections h hform⟩
  · unfold missingIssues at *
    rw [hsections]
    exact hmissing
  · unfold contentIssues at *
    rw [hsections]
    rw [List.filterMap_eq_nil_iff] at *
    exact fun s hs => contentIssue?_eq_none_mono h (hcontent s hs)

/-- An item that is not reported is not reported under relaxed options. -/
theorem checkItem?_eq_none_mono (hsections : r'.sections = r.sections)
    (h : r'.options.Relaxes r.options) (hnone : r.checkItem? file i = none) :
    r'.checkItem? file i = none := by
  unfold checkItem? at *
  cases hdoc : i.docstring.filter (!·.isEmpty) with
  | some doc =>
    rw [hdoc] at hnone
    exact checkDocstring?_eq_none_iff.mpr
      (issues_eq_nil_mono hsections h (checkDocstring?_eq_none_iff.mp hnone))
  | none =>
    rw [hdoc] at hnone
    have hneeded : r'.requiredFor i = r.requiredFor i := by
      unfold requiredFor
      rw [hsections]
    simp only [hneeded]
    unfold missingDocstring? at *
    by_contra hsome
    have hrequired : r'.options.requireDocstrings = true := by
      by_contra hoff
      simp [hoff] at hsome
    simp only [hrequired, Bool.and_true] at hsome
    simp only [h.requireDocstrings hrequired, Bool.and_true] at hnone
    exact hsome hnone

/-- What is reported of an item names its place, whatever the message. -/
theorem place_of_checkItem? {f : Finding} (h : r.checkItem? file i = some f) :
    f.line = i.line ∧ f.name = i.name ∧ f.kind = i.kind.label := by
  unfold checkItem? missingDocstring? checkDocstring? at h
  split at h
  · split at h
    · rw [← Option.some.inj h]
      exact ⟨rfl, rfl, rfl⟩
    · cases h
  · split at h
    · cases h
    · rw [← Option.some.inj h]
      exact ⟨rfl, rfl, rfl⟩

end Rules

/-! ## §4. Files. -/

namespace Source

open Syntax

variable {checkPrivate' checkPrivate : Bool} {i : Item}

theorem isVisible_mono (h : checkPrivate' = true → checkPrivate = true) {name : String}
    (hvisible : isVisible checkPrivate' name = true) : isVisible checkPrivate name = true := by
  unfold isVisible at *
  rw [Bool.or_eq_true] at *
  exact hvisible.imp_left h

mutual

/-- A definition that is checked is checked where private ones are too. -/
theorem mem_itemsOf_mono (h : checkPrivate' = true → checkPrivate = true) (outer : List String) :
    ∀ s : Stmt, i ∈ itemsOf checkPrivate' outer s → i ∈ itemsOf checkPrivate outer s
  | .function name line decorators ps body => by
    intro hi
    rw [itemsOf, List.mem_append] at *
    refine hi.imp (fun hown => ?_) (mem_itemsOfAll_mono h outer body)
    split at hown
    · rename_i hshown
      rw [Bool.and_eq_true] at hshown
      rw [if_pos (by rw [isVisible_mono h hshown.1, hshown.2]; rfl)]
      exact hown
    · exact absurd hown (by simp)
  | .classDef name line _ body => by
    intro hi
    rw [itemsOf, List.mem_append] at *
    refine hi.imp (fun hown => ?_) (mem_itemsOfAll_mono h (name :: outer) body)
    split at hown
    · rename_i hshown
      rw [if_pos (isVisible_mono h hshown)]
      exact hown
    · exact absurd hown (by simp)
  | .compound suites => by
    intro hi
    rw [itemsOf] at *
    exact mem_itemsOfAll_mono h outer suites hi
  | .expression _ => by intro hi; exact hi
  | .simple => by intro hi; exact hi

theorem mem_itemsOfAll_mono (h : checkPrivate' = true → checkPrivate = true) (outer : List String) :
    ∀ ss : List Stmt, i ∈ itemsOfAll checkPrivate' outer ss → i ∈ itemsOfAll checkPrivate outer ss
  | [] => by intro hi; exact hi
  | s :: ss => by
    intro hi
    rw [itemsOfAll, List.mem_append] at *
    exact hi.imp (mem_itemsOf_mono h outer s) (mem_itemsOfAll_mono h outer ss)

end

theorem mem_items_mono (h : checkPrivate' = true → checkPrivate = true) {source : String}
    (hi : i ∈ (items checkPrivate' source).getD []) : i ∈ (items checkPrivate source).getD [] := by
  unfold items at *
  cases hparsed : parseModule source.toList with
  | none => rw [hparsed] at hi; exact hi
  | some ss =>
    rw [hparsed] at hi
    exact mem_itemsOfAll_mono h [] ss hi

end Source

namespace Config

variable {c' c : Config} {w : Workspace} {p : Path} {fs' : List Finding}

/-- The items that the check of a file comes to. -/
def visited (c : Config) (w : Workspace) (p : Path) : List Item :=
  match w.lookup p with
  | .found (.file bytes) =>
    match sourceText bytes with
    | .ok text => (Source.items c.toRules.options.checkPrivate (String.ofList text)).getD []
    | .error _ => []
  | _ => []

theorem mem_visited_mono (h : c'.toRules.options.Relaxes c.toRules.options) {i : Item}
    (hi : i ∈ c'.visited w p) : i ∈ c.visited w p := by
  unfold visited at *
  split at hi
  · split at hi
    · exact Source.mem_items_mono h.checkPrivate hi
    · exact hi
  · exact hi

/-- A file that can be checked by one configuration is read alike by all. -/
theorem checkFile_eq_of_ok (h : c'.checkFile w p = .ok fs') (c : Config) :
    c.checkFile w p = (c.checkItems p.render (c.visited w p)).mapError .fault := by
  unfold checkFile at h
  unfold checkFile visited
  cases hfound : w.lookup p with
  | tooLong => rw [hfound] at h; cases h
  | missing => rw [hfound] at h; cases h
  | found n =>
    rw [hfound] at h
    simp only at h ⊢
    split at h
    · cases h
    · rename_i hsource
      rw [if_neg hsource]
      cases n with
      | dir es => cases h
      | file bytes =>
        simp only [checkBytes] at h ⊢
        cases htext : sourceText bytes with
        | error e => rw [htext] at h; cases h
        | ok text =>
          rw [htext] at h
          simp only [Except.mapError, bind, Except.bind, Source.items] at h ⊢
          cases hparsed : Syntax.parseModule (String.ofList text).toList with
          | none => rw [hparsed] at h; cases h
          | some ss => rfl

end Config

/-- **Relaxed options never create a failure, as long as the check does not fail.** Let two configurations
have the same sections, one with relaxed options, and let a file be checked by that one. The other reports
every item that it reports; or its check ends at a fault of an item, and if the sections are typed that is
an annotation without a text, in a comparison of types. -/
theorem reported_of_relaxed (c' c : Config) (w : Workspace) (p : Path) (fs' : List Finding)
    (hsections : c'.sections = c.sections) (hrelax : c'.toRules.options.Relaxes c.toRules.options)
    (hok : c'.checkFile w p = .ok fs') :
    (∃ fs, c.checkFile w p = .ok fs ∧
      ∀ f' ∈ fs', ∃ f ∈ fs, f.line = f'.line ∧ f.name = f'.name ∧ f.kind = f'.kind) ∨
    ∃ i ∈ c.visited w p, ∃ e, c.itemFault? i = some e ∧ c.checkFile w p = .error (.fault e) ∧
      (c.IsTyped ∨ i ∈ c'.visited w p → e = .unwritten ∧ c.ComparesUnwritten i) := by
  have hread := Config.checkFile_eq_of_ok hok
  have hrules : c'.toRules.sections = c.toRules.sections := Config.toRules_sections_congr hsections
  -- ===== the relaxed check comes to no fault =====
  rcases Config.checkItems_cases c' p.render (c'.visited w p) with ⟨i', _, e', _, herror⟩ | ⟨hnone', hitems'⟩
  · rw [hread c', herror] at hok
    cases hok
  rw [hread c', hitems'] at hok
  have hfs' : fs' = (c'.visited w p).filterMap (c'.toRules.checkItem? p.render) :=
    (Except.ok.inj hok).symm
  rcases Config.checkItems_cases c p.render (c.visited w p) with ⟨i, hi, e, he, herror⟩ | ⟨_, hitems⟩
  · -- ===== the other comes to one =====
    refine .inr ⟨i, hi, e, he, by rw [hread c, herror]; rfl, ?_⟩
    rintro (htyped | hi')
    · exact htyped.itemFault?_eq_some he
    · exact Config.itemFault?_eq_some hsections.symm (hnone' i hi') he
  · -- ===== the other comes to none =====
    refine .inl ⟨_, by rw [hread c, hitems]; rfl, ?_⟩
    intro f' hf'
    rw [hfs'] at hf'
    obtain ⟨i, hi, hreported'⟩ := List.mem_filterMap.mp hf'
    have hsome : c.toRules.checkItem? p.render i ≠ none := by
      intro hnone
      rw [Rules.checkItem?_eq_none_mono hrules hrelax hnone] at hreported'
      cases hreported'
    obtain ⟨f, hreported⟩ := Option.ne_none_iff_exists'.mp hsome
    refine ⟨f, List.mem_filterMap.mpr ⟨i, Config.mem_visited_mono hrelax hi, hreported⟩, ?_⟩
    obtain ⟨hline, hname, hkind⟩ := Rules.place_of_checkItem? hreported
    obtain ⟨hline', hname', hkind'⟩ := Rules.place_of_checkItem? hreported'
    exact ⟨hline.trans hline'.symm, hname.trans hname'.symm, hkind.trans hkind'.symm⟩

/-- A required list of parameters under options that ask for everything. -/
def strictConfig : Config :=
  { settings := { checkPrivate := .bool true, optionalStyle := .text "strict" }
    sections :=
      [{ name := .text "params", kind := .text "list_name_and_type", order := .int 1,
         required := .bool true }] }

/-- The same section under options that only ask for docstrings. -/
def looseConfig : Config :=
  { strictConfig with
    settings :=
      { allowUndefined := .bool true, checkTypes := .bool false, optionalStyle := .text "silent" } }

/-- A file with a function and a private one, neither with a docstring. -/
def undocumentedFile : Workspace :=
  { root := .dir [("m.py", .file ("def g():0\ndef _h():0\n".toList.map fun c => c.toNat.toUInt8))]
    cwd := [] }

/-- The finding for the function that is not private. -/
def undocumentedFinding : Finding :=
  { message := "Missing docstring for function", file := "m.py", line := 1, name := "g"
    kind := "function" }

theorem reported_of_relaxed_undocumented :
    looseConfig.checkFile undocumentedFile { parts := ["m.py"] } = .ok [undocumentedFinding] ∧
    ((∃ fs, strictConfig.checkFile undocumentedFile { parts := ["m.py"] } = .ok fs ∧
      ∀ f' ∈ [undocumentedFinding], ∃ f ∈ fs,
        f.line = f'.line ∧ f.name = f'.name ∧ f.kind = f'.kind) ∨
    ∃ i ∈ strictConfig.visited undocumentedFile { parts := ["m.py"] }, ∃ e,
      strictConfig.itemFault? i = some e ∧
      strictConfig.checkFile undocumentedFile { parts := ["m.py"] } = .error (.fault e) ∧
      (strictConfig.IsTyped ∨ i ∈ looseConfig.visited undocumentedFile { parts := ["m.py"] } →
        e = .unwritten ∧ strictConfig.ComparesUnwritten i)) := by
  have hok : looseConfig.checkFile undocumentedFile { parts := ["m.py"] } = .ok [undocumentedFinding] := by
    decide +kernel
  have hrelax : looseConfig.toRules.options.Relaxes strictConfig.toRules.options :=
    ⟨by decide +kernel, by decide +kernel, by decide +kernel, by decide +kernel, by decide +kernel⟩
  exact ⟨hok, reported_of_relaxed looseConfig strictConfig undocumentedFile { parts := ["m.py"] } _ rfl
    hrelax hok⟩

end DocLint
