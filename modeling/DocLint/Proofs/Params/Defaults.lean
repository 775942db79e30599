import DocLint.Proofs.Params.Acceptance
import DocLint.Source.Module

/-!
DocLint.Proofs.Params.Defaults: the remark `, optional` stands for a default value.

The remarks are checked along the docstring. The defaults are collected along the signature by counting: those by
position reach back from the last parameter, and those by name stand at the index of their parameter. Where
neither the names nor the types of a docstring are reported, the two meet at every parameter: under the strict
style its type ends in the remark exactly if the signature gives it a default value, and under the style that only
validates, a remark is only found on a parameter with a default value. In the signature of a parameter list that
was read from a source, the parameters with a default value are those that are written with one.
-/

namespace DocLint

/-! ## §1. Parameters with a default value. -/

namespace Signature

/-- All parameters, the receiver among them. -/
def all (s : Signature) : List Param :=
  s.posOnly ++ s.plain ++ s.vararg.toList ++ s.kwOnly ++ s.kwarg.toList

/-- The signature gives a parameter a default value: it is among the last parameters by position, of which there
are as many as default values, or a value stands beside it among those by name. -/
def GivesDefault (s : Signature) (p : Param) : Prop :=
  (∃ front back, s.posOnly ++ s.plain = front ++ back ∧ back.length = s.defaults.length ∧ p ∈ back) ∨
    ∃ value, (p, some value) ∈ s.kwOnly.zip s.kwDefaults

variable {s : Signature} {p : Param}

theorem mem_described_of_mem_all (hp : p ∈ s.all) (hreceiver : isReceiver p.name = false) :
    p ∈ s.described := by
  unfold all at hp
  unfold described documented
  simp only [List.mem_append, List.mem_filter, hreceiver, Bool.not_false, and_true] at hp ⊢
  exact hp

/-- The last parameters by position stand at the indices from the number of those without a default value on. -/
theorem mem_last_iff :
    (∃ front back, s.posOnly ++ s.plain = front ++ back ∧ back.length = s.defaults.length ∧ p ∈ back)
      ↔ ∃ i : Nat, s.positional.length - s.defaults.length ≤ i ∧ s.positional[i]? = some p := by
  unfold positional
  have hcount := s.legal.1
  constructor
  · intro ⟨front, back, hsplit, hlength, hp⟩
    obtain ⟨j, hj⟩ := List.mem_iff_getElem?.mp hp
    have htotal : (s.posOnly ++ s.plain).length = front.length + back.length := by
      rw [hsplit, List.length_append]
    refine ⟨front.length + j, by omega, ?_⟩
    rw [hsplit, List.getElem?_append_right (by omega), Nat.add_sub_cancel_left]
    exact hj
  · intro ⟨i, hi, hp⟩
    refine ⟨_, _, (List.take_append_drop ((s.posOnly ++ s.plain).length - s.defaults.length) _).symm, ?_, ?_⟩
    · rw [List.length_drop]
      omega
    · refine List.mem_iff_getElem?.mpr ⟨i - ((s.posOnly ++ s.plain).length - s.defaults.length), ?_⟩
      rw [List.getElem?_drop, Nat.add_sub_cancel' hi]
      exact hp

theorem mem_zip_iff {value : Syntax.Expr} :
    (p, some value) ∈ s.kwOnly.zip s.kwDefaults
      ↔ ∃ i : Nat, s.kwOnly[i]? = some p ∧ s.kwDefaults[i]? = some (some value) := by
  rw [List.mem_iff_getElem?]
  simp only [List.getElem?_zip_eq_some]

/-- The names that are collected, by the indices at which they are found. -/
theorem mem_defaulted {name : String} :
    name ∈ s.defaulted
      ↔ (∃ (i : Nat) (q : Param), s.positional.length - s.defaults.length ≤ i ∧ s.positional[i]? = some q ∧
          isReceiver q.name = false ∧ q.name = name) ∨
        ∃ (i : Nat) (q : Param) (value : Syntax.Expr), s.kwOnly[i]? = some q ∧ s.kwDefaults[i]? = some (some value) ∧ q.name = name := by
  unfold defaulted
  rw [List.mem_append, List.mem_filterMap, List.mem_filterMap]
  refine or_congr ?_ ?_
  · constructor
    · intro ⟨i, hi, hfound⟩
      obtain ⟨hname, hreceiver⟩ := Option.filter_eq_some_iff.mp hfound
      obtain ⟨q, hq, rfl⟩ := Option.map_eq_some_iff.mp hname
      exact ⟨i, q, (List.mem_range'_1.mp hi).1, hq, by simpa using hreceiver, rfl⟩
    · intro ⟨i, q, hi, hq, hreceiver, hname⟩
      have hlt : i < s.positional.length := (List.getElem?_eq_some_iff.mp hq).1
      refine ⟨i, List.mem_range'_1.mpr ⟨hi, by omega⟩, ?_⟩
      rw [hq, Option.map_some, Option.filter_some, hreceiver, hname]
      rfl
  · constructor
    · intro ⟨⟨q, i⟩, hq, hfound⟩
      have hq : s.kwOnly[i]? = some q := List.mem_zipIdx_iff_getElem?.mp hq
      cases hvalue : s.kwDefaults[i]?.join with
      | none => simp [hvalue] at hfound
      | some value =>
        refine ⟨i, q, value, hq, Option.join_eq_some_iff.mp hvalue, ?_⟩
        simpa [hvalue] using hfound
    · intro ⟨i, q, value, hq, hvalue, hname⟩
      refine ⟨(q, i), List.mem_zipIdx_iff_getElem?.mpr hq, ?_⟩
      simp [hvalue, hname]

/-- The parameters with a default value, by name, are those to which the signature gives one. A name stands
for one parameter only, so that no other parameter can lend it its default. -/
theorem mem_defaulted_iff (hdistinct : (s.all.map (·.name)).Nodup) (hp : p ∈ s.all)
    (hreceiver : isReceiver p.name = false) : p.name ∈ s.defaulted ↔ s.GivesDefault p := by
  have hsame : ∀ q ∈ s.positional ++ s.kwOnly, q.name = p.name → q = p := by
    intro q hq hname
    have hall : q ∈ s.all := by
      unfold positional at hq
      unfold all
      simp only [List.mem_append] at hq ⊢
      tauto
    exact List.inj_on_of_nodup_map hdistinct hall hp hname
  unfold GivesDefault
  rw [mem_defaulted, mem_last_iff]
  simp only [mem_zip_iff]
  constructor
  · rintro (⟨i, q, hi, hq, -, hname⟩ | ⟨i, q, value, hq, hvalue, hname⟩)
    · obtain rfl := hsame q (List.mem_append_left _ (List.mem_of_getElem? hq)) hname
      exact .inl ⟨i, hi, hq⟩
    · obtain rfl := hsame q (List.mem_append_right _ (List.mem_of_getElem? hq)) hname
      exact .inr ⟨value, i, hq, hvalue⟩
  · rintro (⟨i, hi, hq⟩ | ⟨value, i, hq, hvalue⟩)
    · exact .inl ⟨i, p, hi, hq, hreceiver, rfl⟩
    · exact .inr ⟨i, p, value, hq, hvalue, rfl⟩

end Signature

/-! ## §2. Parameter lists of a source. -/

namespace Source

open Syntax Syntax.Grammar

theorem arrangeRest_positional {ps ps' : Parameters} {items : List Formal}
    (h : arrangeRest ps items = some ps') : ps'.posOnly = ps.posOnly ∧ ps'.plain = ps.plain := by
  unfold arrangeRest at h
  split at h
  · cases h
    exact ⟨rfl, rfl⟩
  · cases h
    exact ⟨rfl, rfl⟩
  · -- parameters by name behind a star
    split at h
    · cases h
      exact ⟨rfl, rfl⟩
    · cases h
      exact ⟨rfl, rfl⟩
    · cases h
  · -- parameters by name behind the one that takes the rest
    split at h
    · cases h
      exact ⟨rfl, rfl⟩
    · cases h
      exact ⟨rfl, rfl⟩
    · cases h
  · cases h

/-- In an arranged list, the default values by position belong to the last parameters. -/
theorem defaultsTrail_of_arrange {items : List Formal} {ps : Parameters} (h : arrange items = some ps) :
    defaultsTrail (ps.posOnly ++ ps.plain) = true := by
  have hrest : ∀ ps₀ rest, (if defaultsTrail (ps₀.posOnly ++ ps₀.plain) = true then arrangeRest ps₀ rest else none)
      = some ps → defaultsTrail (ps.posOnly ++ ps.plain) = true := by
    intro ps₀ rest h
    split at h
    · rename_i htrail
      obtain ⟨hposOnly, hplain⟩ := arrangeRest_positional h
      rw [hposOnly, hplain]
      exact htrail
    · cases h
  unfold arrange at h
  split at h
  · cases h
  · split at h
    exact hrest ⟨_, _, none, [], none⟩ _ h
  · exact hrest ⟨[], _, none, [], none⟩ _ h

/-- A list whose default values trail, as the parameters without one and those with one. -/
theorem split_of_defaultsTrail {ps : List Parameter} (h : defaultsTrail ps = true) :
    ∃ bare given, ps = bare ++ given ∧ (∀ p ∈ bare, p.default = none) ∧
      (∀ p ∈ given, p.default.isSome = true) ∧ (ps.filterMap (·.default)).length = given.length := by
  have hbare : ∀ p ∈ ps.takeWhile (·.default.isNone), p.default = none := by
    intro p hp
    have hnone := List.mem_takeWhile_imp hp
    exact Option.isNone_iff_eq_none.mp hnone
  have hgiven : ∀ p ∈ ps.dropWhile (·.default.isNone), p.default.isSome = true := List.all_eq_true.mp h
  refine ⟨_, _, List.takeWhile_append_dropWhile.symm, hbare, hgiven, ?_⟩
  conv_lhs => rw [← List.takeWhile_append_dropWhile (p := (·.default.isNone)) (l := ps)]
  rw [List.filterMap_append, List.filterMap_eq_nil_iff.mpr hbare, List.nil_append]
  exact List.filterMap_length_eq_length.mpr hgiven

/-- **A signature gives default values to the parameters that are written with one.** -/
theorem givesDefault_signatureOf_iff {items : List Formal} {ps : Parameters} (harranged : arrange items = some ps)
    (hdistinct : ((ps.posOnly ++ ps.plain ++ ps.kwOnly).map (·.name)).Nodup) {p : Parameter}
    (hp : p ∈ ps.posOnly ++ ps.plain ++ ps.kwOnly) :
    (signatureOf ps).GivesDefault (paramOf p) ↔ p.default.isSome = true := by
  obtain ⟨bare, given, hsplit, hbare, hgiven, hcount⟩ := split_of_defaultsTrail (defaultsTrail_of_arrange harranged)
  have hsame : ∀ q ∈ ps.posOnly ++ ps.plain ++ ps.kwOnly, paramOf q = paramOf p → q = p := by
    intro q hq hparam
    exact List.inj_on_of_nodup_map hdistinct hq hp (congrArg Param.name hparam)
  have hpositional : (signatureOf ps).posOnly ++ (signatureOf ps).plain = bare.map paramOf ++ given.map paramOf := by
    rw [← List.map_append, ← hsplit, List.map_append]
    rfl
  constructor
  · rintro (⟨front, back, hcut, hlength, hback⟩ | ⟨value, hvalue⟩)
    · -- the cut is the one between the bare parameters and the given ones
      have hlast : given.map paramOf = back := by
        refine List.append_inj_right' (hpositional.symm.trans hcut) ?_
        rw [hlength, List.length_map]
        exact hcount.symm
      rw [← hlast] at hback
      obtain ⟨q, hq, hparam⟩ := List.mem_map.mp hback
      have hmem : q ∈ ps.posOnly ++ ps.plain := hsplit ▸ List.mem_append_right bare hq
      exact hsame q (List.mem_append_left _ hmem) hparam ▸ hgiven q hq
    · have hzip : (signatureOf ps).kwOnly.zip (signatureOf ps).kwDefaults
          = ps.kwOnly.map fun q => (paramOf q, q.default) := List.zip_map'
      rw [hzip] at hvalue
      obtain ⟨q, hq, hpair⟩ := List.mem_map.mp hvalue
      obtain ⟨hparam, hdefault⟩ := Prod.mk.inj hpair
      rw [← hsame q (List.mem_append_right _ hq) hparam, hdefault]
      rfl
  · intro hdefault
    rcases List.mem_append.mp hp with hmem | hmem
    · refine .inl ⟨_, _, hpositional, (List.length_map _).trans hcount.symm, List.mem_map_of_mem ?_⟩
      rw [hsplit] at hmem
      rcases List.mem_append.mp hmem with hmem | hmem
      · rw [hbare p hmem] at hdefault
        cases hdefault
      · exact hmem
    · obtain ⟨value, hvalue⟩ := Option.isSome_iff_exists.mp hdefault
      refine .inr ⟨value, ?_⟩
      show _ ∈ (ps.kwOnly.map paramOf).zip (ps.kwOnly.map (·.default))
      rw [List.zip_map', ← hvalue]
      exact List.mem_map_of_mem hmem

end Source

/-! ## §3. Remarks and defaults. -/

namespace Params

/-- **Remarks match defaults.** If neither names nor types are reported, each parameter other than the
receiver has a documented type. Under the strict style it ends in the remark if and only if the signature
gives the parameter a default value, and under the style that validates only if it does. -/
theorem remark_iff_givesDefault (style : OptionalStyle) (s : Signature) (doc : Text)
    (hdistinct : (s.all.map (·.name)).Nodup)
    (hidentifier : ∀ p ∈ s.all, Text.isIdentifier p.name.toList = true)
    (hnames : nameIssue? s doc = none) (htypes : typeIssue? style s doc = none) :
    ∀ p ∈ s.all, Signature.isReceiver p.name = false → ∃ t, (types doc).get? p.name = some t ∧
      (style = .strict → (EndsInRemark t.toList ↔ s.GivesDefault p)) ∧
      (style = .validate → EndsInRemark t.toList → s.GivesDefault p) := by
  intro p hp hreceiver
  -- ===== the parameter is described, and so has a type =====
  have hparam : p.name ∈ s.params :=
    List.mem_map.mpr ⟨p, Signature.mem_described_of_mem_all hp hreceiver, rfl⟩
  have hname : p.name ∈ names doc :=
    (nameIssue?_eq_none (List.ne_nil_of_mem hparam) hnames p.name).mpr hparam
  have htyped := has_types_of_mem_names hname (head?_ne_star (hidentifier p hp))
  rw [Entries.has_eq_isSome_get?, Option.isSome_iff_exists] at htyped
  obtain ⟨t, ht⟩ := htyped
  -- ===== its remark was compared with the defaults =====
  have hissue := remarkIssues_eq_nil_iff.mp (typeIssue?_eq_none_iff.mp htypes).1 _ (Entries.mem_of_get? ht)
  rw [optionalIssue?_eq_none_iff, hasOptional_iff, List.contains_iff_mem,
    Signature.mem_defaulted_iff hdistinct hp hreceiver] at hissue
  refine ⟨t, ht, ?_, ?_⟩
  · rintro rfl
    exact ⟨hissue.1 (by decide), hissue.2 (by decide)⟩
  · rintro rfl
    exact hissue.1 (by decide)

/-- A method with parameters of all kinds: two by position only, the second with a default value, one by
position or name, and two by name only, of which the first has a default value. -/
def mixedSignature : Signature :=
  { posOnly := [{ name := "self" }, { name := "a", annotation := some "int" },
      { name := "b", annotation := some "str" }]
    plain := [{ name := "c", annotation := some "bool" }]
    vararg := some { name := "args", annotation := some "int" }
    kwOnly := [{ name := "d", annotation := some "T" }, { name := "e", annotation := some "U" }]
    kwarg := some { name := "kwargs", annotation := some "Any" }
    defaults := [.constant (.text "" false), .constant (.bool true)]
    kwDefaults := [some (.constant .none), none] }

/-- Its parameters in another order, with the remark written in several ways. -/
def mixedDoc : Text :=
  ("Params:\n    d (T,optional):\n    a (int):\n    b (str, optional):\n    args (int):\n" ++
    "    kwargs (Any):\n    e (U):\n    c (bool,  OPTIONAL):\n").toList

theorem remark_iff_givesDefault_mixed :
    nameIssue? mixedSignature mixedDoc = none ∧ typeIssue? .strict mixedSignature mixedDoc = none ∧
    (∃ p ∈ mixedSignature.all, Signature.isReceiver p.name = false) ∧
    ∀ p ∈ mixedSignature.all, Signature.isReceiver p.name = false →
      ∃ t, (types mixedDoc).get? p.name = some t ∧
        (EndsInRemark t.toList ↔ mixedSignature.GivesDefault p) := by
  have hnames : nameIssue? mixedSignature mixedDoc = none := by decide +kernel
  have htypes : typeIssue? .strict mixedSignature mixedDoc = none := by decide +kernel
  refine ⟨hnames, htypes, by decide, ?_⟩
  intro p hp hreceiver
  obtain ⟨t, ht, hstrict, -⟩ := remark_iff_givesDefault .strict mixedSignature mixedDoc (by decide)
    (by decide) hnames htypes p hp hreceiver
  exact ⟨t, ht, hstrict rfl⟩

end Params

end DocLint
