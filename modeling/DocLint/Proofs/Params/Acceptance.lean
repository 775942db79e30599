import DocLint.Proofs.Check.Docstring
import DocLint.Proofs.Config.Rules
import DocLint.Proofs.Params.Names

/-!
DocLint.Proofs.Params.Acceptance: a function that is not reported describes its parameters.

A check passes through the required sections, the search for the list of parameters, its names and its
types, each with a reading of the docstring of its own. Main result: where all of them find nothing, the
docstring names exactly the parameters of the signature, and each has an annotation and a documented type
which agree.
-/

namespace DocLint

open Text (lower)

/-! ## §1. Annotations of distinct parameters. -/

namespace Signature

theorem sublist_annotated (ps : List Param) :
    ((ps.filterMap fun p => p.annotation.map (p.name, ·)).map (·.1)).Sublist (ps.map (·.name)) := by
  induction ps with
  | nil => exact .slnil
  | cons p ps ih =>
    cases ha : p.annotation with
    | none =>
      rw [List.filterMap_cons_none (by rw [ha]; rfl), List.map_cons]
      exact ih.cons _
    | some a =>
      rw [List.filterMap_cons_some (by rw [ha]; rfl), List.map_cons, List.map_cons]
      exact ih.cons_cons _

variable {s : Signature} (hn : s.params.Nodup)
include hn

theorem get?_types {p : Param} (hp : p ∈ s.described) {a : String} (ha : p.annotation = some a) :
    s.types.get? p.name = some a := by
  refine Entries.get?_ofPairs_of_mem (hn.sublist (sublist_annotated s.described)) ?_
  exact List.mem_filterMap.mpr ⟨p, hp, by rw [ha]; rfl⟩

/-- Distinct parameters do not share their annotations. -/
theorem annotation_of_has_types {p : Param} (hp : p ∈ s.described)
    (h : s.types.has p.name = true) : ∃ a, p.annotation = some a ∧ s.types.get? p.name = some a := by
  obtain ⟨a, ha⟩ := Entries.has_ofPairs.mp h
  obtain ⟨q, hq, hqa⟩ := List.mem_filterMap.mp ha
  obtain ⟨a', hqa', hpair⟩ := Option.map_eq_some_iff.mp hqa
  have hname : q.name = p.name := congrArg Prod.fst hpair
  have hqp : q = p := List.inj_on_of_nodup_map hn hq hp hname
  subst hqp
  exact ⟨a', hqa', get?_types hn hq hqa'⟩

end Signature

/-! ## §2. Names that are not reported. -/

namespace Params

theorem nameIssue?_eq_none {s : Signature} {doc : Text} (hne : s.params ≠ [])
    (h : nameIssue? s doc = none) : ∀ n, n ∈ names doc ↔ n ∈ s.params :=
  ((nameIssue?_eq_none_iff.mp h).resolve_left hne).2

/-- No identifier starts with a star. -/
theorem head?_ne_star {cs : Text} (h : Text.isIdentifier cs = true) : cs.head? ≠ some '*' := by
  cases cs with
  | nil => simp
  | cons c cs =>
    unfold Text.isIdentifier at h
    rw [Bool.and_eq_true] at h
    intro hc
    have hstar : c = '*' := by simpa using hc
    rw [hstar] at h
    exact absurd h.1 (by decide)

end Params

/-! ## §3. Functions that are not reported. -/

/-- **A function that is not reported describes its parameters**: their names are those of the
signature, and each parameter has an annotation and a documented type which are equal without the
remark `, optional`, without blanks, with all quotes alike and in lower case. -/
theorem params_agree_of_accepted (c : Config) (file : String) (i : Item) (sig : Signature)
    (doc : String) (hsection : ∃ s ∈ c.sections, s.IsRequiredParams)
    (htypes : c.settings.checkTypes.truthy = true) (hsig : i.signature = some sig)
    (hdistinct : sig.params.Nodup)
    (hidentifier : ∀ n ∈ sig.params, Text.isIdentifier n.toList = true) (hsome : sig.params ≠ [])
    (hdoc : i.docstring = some doc) (hdoc' : doc ≠ "") (hok : c.checkItem file i = .ok none) :
    (∀ n, n ∈ Params.names doc.toList ↔ n ∈ sig.params) ∧
    ∀ p ∈ sig.described, ∃ a t bare x y,
      p.annotation = some a ∧ sig.types.get? p.name = some a ∧
      (Params.types doc.toList).get? p.name = some t ∧ Params.IsBare t.toList bare ∧
      Params.ComparedAs a.toList x ∧ Params.ComparedAs bare y ∧ lower x = lower y := by
  obtain ⟨s, hs, hparams⟩ := hsection
  obtain ⟨order, hmem⟩ := Config.exists_toSection_mem hs
  -- ===== no check finds anything =====
  have hissues : c.toRules.issues i doc.toList = [] := by
    have hnone := (Config.checkItem_eq_ok_iff.mp hok).2
    rw [Rules.checkItem?_of_docstring hdoc hdoc'] at hnone
    exact Rules.checkDocstring?_eq_none_iff.mp hnone
  obtain ⟨hmissing, hcontent, -⟩ := Rules.issues_eq_nil_iff.mp hissues
  -- ===== the list of parameters is present, since it is required =====
  have hhas : i.hasParams = true := by
    unfold Item.hasParams
    rw [hsig]
    simpa using hsome
  have hpresent : (s.toSection order).presentIn doc.toList = true :=
    Rules.presentIn_of_missingIssues hmissing hmem hparams.required (fun _ => hhas)
  have hnone := Rules.contentIssue?_of_contentIssues hcontent hmem hpresent
  rw [Rules.contentIssue?_params_eq_none (hparams.kind_toSection order) (hparams.isParams order)
    hsig] at hnone
  have hnames := Params.nameIssue?_eq_none hsome hnone.1
  obtain ⟨-, hleft, -, hms⟩ := Params.typeIssue?_eq_none_iff.mp (hnone.2 htypes)
  refine ⟨hnames, ?_⟩
  intro p hp
  have hpn : p.name ∈ sig.params := List.mem_map.mpr ⟨p, hp, rfl⟩
  -- ===== the name has a documented type, hence an annotation =====
  have htyped : (Params.types doc.toList).has p.name = true :=
    Params.has_types_of_mem_names ((hnames p.name).mpr hpn)
      (Params.head?_ne_star (hidentifier p.name hpn))
  obtain ⟨a, ha, hget⟩ := Signature.annotation_of_has_types hdistinct hp
    (Params.has_types_of_unannotated? hleft hpn htyped)
  rw [Entries.has_eq_isSome_get?, Option.isSome_iff_exists] at htyped
  obtain ⟨t, ht⟩ := htyped
  obtain ⟨bare, x, y, hbare, hx, hy, hagree⟩ := Params.agree_of_typeMismatches hms hget ht
  exact ⟨a, t, bare, x, y, ha, hget, ht, hbare, hx, hy, hagree⟩

/-- Rules whose list of parameters is named in capitals. -/
def capitalConfig : Config :=
  { sections :=
      [{ name := .text "PARAMS", kind := .text "list_name_and_type", order := .int 1,
         required := .bool true }] }

/-- A method whose types are written with other quotes, blanks and capitals than its annotations. -/
def looseMethod : Item :=
  { kind := .method, name := "f", line := 3, parent := some "C"
    signature := some
      { plain := [{ name := "self" }, { name := "x", annotation := some "Dict[str, 'T']" }]
        vararg := some { name := "args", annotation := some "int" }
        defaults := [.constant .none] }
    docstring := some ("Does it.\n\nParams:\n" ++
      "    args (int):\n        A.\n    x (dict[ str,\"t\"],  Optional):\n        X.") }

theorem params_agree_of_accepted_loose :
    capitalConfig.checkItem "m.py" looseMethod = .ok none ∧
    ∀ sig doc, looseMethod.signature = some sig → looseMethod.docstring = some doc →
      (∀ n, n ∈ Params.names doc.toList ↔ n ∈ sig.params) ∧
      ∀ p ∈ sig.described, ∃ a t bare x y,
        p.annotation = some a ∧ sig.types.get? p.name = some a ∧
        (Params.types doc.toList).get? p.name = some t ∧ Params.IsBare t.toList bare ∧
        Params.ComparedAs a.toList x ∧ Params.ComparedAs bare y ∧ lower x = lower y := by
  have hok : capitalConfig.checkItem "m.py" looseMethod = .ok none := by decide +kernel
  refine ⟨hok, ?_⟩
  intro sig doc hsig hdoc
  cases hsig
  cases hdoc
  exact params_agree_of_accepted capitalConfig "m.py" looseMethod _ _
    ⟨_, List.mem_cons_self, ⟨⟨"PARAMS", rfl, by decide⟩, rfl, rfl⟩⟩
    rfl rfl (by decide +kernel) (by decide +kernel) (by decide +kernel) rfl (by decide +kernel) hok

end DocLint
