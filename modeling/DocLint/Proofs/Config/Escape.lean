import DocLint.Proofs.Config.Orders
import DocLint.Proofs.Config.Tool
import DocLint.Proofs.Workspace.Check

/-!
DocLint.Proofs.Config.Escape: which files end the reading of a configuration without a report.

A file that is no document, a style or a section that is not known, and orders that are shared are reported. Other
values of a wrong type are not: the reading ends with a fault where they are used, or with an integer that has too
many digits for the report. `Escapes` names the documents that end it so. Main statement: a file gives a
configuration or an error that is reported, unless its document is one of these.
-/

namespace DocLint

/-! ## §1. How the reading ends. -/

/-- A way to end without a report. -/
inductive Escape where
  /-- A value has a wrong type. -/
  | fault
  /-- A value that the report shows has too many digits. -/
  | digits
  /-- There is no file to read. -/
  | lookup
  deriving DecidableEq

/-- An error that is reported: the file is no document, or something in it is not known or shared. -/
inductive ConfigError.IsReported : ConfigError → Prop where
  | unreadable (path reason : String) : IsReported (.unreadable path reason)
  | unknownStyle (style : Value) : IsReported (.unknownStyle style)
  | badSection (table : Value) (error : SpecError) : IsReported (.badSection table error)
  | duplicateOrders (orders : List Value) : IsReported (.duplicateOrders orders)

/-- The way in which an error is none that is reported. -/
def ConfigError.escape? : ConfigError → Option Escape
  | .fault _ => some .fault
  | .tooManyDigits => some .digits
  | .notFound _ => some .lookup
  | .unknowable _ => some .lookup
  | _ => none

theorem ConfigError.isReported_iff {e : ConfigError} : e.IsReported ↔ e.escape? = none := by
  constructor
  · intro h
    cases h <;> rfl
  · intro h
    cases e <;> first | constructor | cases h

section Ends

variable {α β : Type} {escape : Escape}

/-- A reading that ends in a way. -/
def Ends (x : Except ConfigError α) (escape : Escape) : Prop :=
  ∃ e, x = .error e ∧ e.escape? = some escape

theorem not_ends_ok (a : α) : ¬ Ends (.ok a) escape := by
  intro ⟨e, h, _⟩
  cases h

theorem ends_error {e : ConfigError} :
    Ends (.error e : Except ConfigError α) escape ↔ e.escape? = some escape := by
  constructor
  · intro ⟨e', h, hescape⟩
    cases h
    exact hescape
  · intro h
    exact ⟨e, rfl, h⟩

/-- Two readings end as the first one does, or as the second one does after it. -/
theorem ends_bind {x : Except ConfigError α} {f : α → Except ConfigError β} :
    Ends (x >>= f) escape ↔ Ends x escape ∨ ∃ a, x = .ok a ∧ Ends (f a) escape := by
  cases x with
  | error e =>
    show Ends (.error e) escape ↔ _
    simp [ends_error]
  | ok a =>
    show Ends (f a) escape ↔ _
    simp [not_ends_ok]

theorem ends_fault {f : Fault} : Ends (.error (.fault f) : Except ConfigError α) escape ↔ escape = .fault := by
  rw [ends_error]
  show some Escape.fault = some escape ↔ _
  rw [Option.some.injEq, eq_comm]

/-- A fault is passed on. -/
theorem ends_mapError_fault {x : Except Fault α} :
    Ends (x.mapError .fault) escape ↔ escape = .fault ∧ ∃ f, x = .error f := by
  cases x with
  | error f =>
    show Ends (.error (.fault f)) escape ↔ _
    simp [ends_fault]
  | ok a =>
    show Ends (.ok a) escape ↔ _
    simp [not_ends_ok]

/-- A report fails exactly if it shows a value with too many digits. -/
theorem ends_raised {e : ConfigError} (h : e.IsReported) :
    Ends (.error e.raised : Except ConfigError α) escape
      ↔ escape = .digits ∧ ∃ v ∈ e.shown, v.isWritable = false := by
  rw [ends_error, ConfigError.raised]
  split_ifs with hshown
  · rw [List.all_eq_true] at hshown
    rw [ConfigError.isReported_iff.mp h]
    refine iff_of_false (by simp) ?_
    intro ⟨_, v, hv, hlong⟩
    rw [hshown v hv] at hlong
    cases hlong
  · have hlong : ∃ v ∈ e.shown, v.isWritable = false := by simpa using hshown
    show some Escape.digits = some escape ↔ _
    rw [Option.some.injEq, eq_comm, and_iff_left hlong]

/-- Reading several values ends as the reading of the first one that gives no result does. -/
theorem ends_mapM {f : α → Except ConfigError β} (xs : List α) :
    Ends (xs.mapM f) escape
      ↔ ∃ before x after, xs = before ++ x :: after ∧ (∀ y ∈ before, ∃ b, f y = .ok b) ∧
          Ends (f x) escape := by
  induction xs with
  | nil =>
    refine iff_of_false (not_ends_ok []) ?_
    intro ⟨before, x, after, hsplit, _⟩
    simp at hsplit
  | cons x xs ih =>
    rw [List.mapM_cons, ends_bind]
    simp only [ends_bind, ih]
    constructor
    · intro h
      rcases h with hfirst | ⟨b, hb, hrest | ⟨bs, -, hnone⟩⟩
      · exact ⟨[], x, xs, rfl, by simp, hfirst⟩
      · obtain ⟨before, y, after, rfl, hbefore, hy⟩ := hrest
        exact ⟨x :: before, y, after, rfl, List.forall_mem_cons.mpr ⟨⟨b, hb⟩, hbefore⟩, hy⟩
      · exact absurd hnone (not_ends_ok _)
    · intro ⟨before, y, after, hsplit, hbefore, hy⟩
      cases before with
      | nil =>
        cases hsplit
        exact .inl hy
      | cons z before =>
        cases hsplit
        obtain ⟨⟨b, hb⟩, hbefore⟩ := List.forall_mem_cons.mp hbefore
        exact .inr ⟨b, hb, .inl ⟨before, y, after, rfl, hbefore, hy⟩⟩

end Ends

/-! ## §2. Orders that end the reading. -/

/-- Tables whose orders end the reading. -/
inductive OrdersEscape (tables : List Table) : Escape → Prop where
  /-- An order is a list or a table. -/
  | unhashable {v : Value} (mem : v ∈ ordersOf tables) (bad : v.isHashable = false) : OrdersEscape tables .fault
  /-- Two orders that are shared cannot be compared, and so cannot be listed. -/
  | mixedShared {u v : Value} (hashable : ∀ v ∈ ordersOf tables, v.isHashable = true)
      (second : IsSecond (ordersOf tables) u) (second' : IsSecond (ordersOf tables) v)
      (differ : u.orderClass? ≠ v.orderClass?) : OrdersEscape tables .fault
  /-- An order that is shared has too many digits. -/
  | longShared {v : Value} (hashable : ∀ v ∈ ordersOf tables, v.isHashable = true)
      (alike : ∀ u v, IsSecond (ordersOf tables) u → IsSecond (ordersOf tables) v →
        u.orderClass? = v.orderClass?)
      (second : IsSecond (ordersOf tables) v) (long : v.isWritable = false) : OrdersEscape tables .digits
  /-- No order is shared, but two cannot be compared. -/
  | mixed {s t : Table} (hashable : ∀ v ∈ ordersOf tables, v.isHashable = true)
      (distinct : ∀ v, ¬ IsSecond (ordersOf tables) v) (mem : s ∈ tables) (mem' : t ∈ tables)
      (differ : sortClass? s ≠ sortClass? t) : OrdersEscape tables .fault

/-- **Reading the orders of tables that can be used ends as `OrdersEscape` says.** -/
theorem ends_arrange {tables : List Table} (h : ∀ t ∈ tables, Table.IsFull t) {escape : Escape} :
    Ends (checkOrders (tables.map SectionSpec.ofTable) >>= fun _ =>
        (sortByValue SectionSpec.sortKey (tables.map SectionSpec.ofTable)).mapError .fault) escape
      ↔ OrdersEscape tables escape := by
  rcases checkOrders_cases h with ⟨f, hcheck, v, hv, hbad⟩ |
    ⟨hashable, ⟨f, hcheck, u, v, hu, hv, hdiffer⟩ | ⟨shared, hcheck, ⟨first, hfirst⟩, hmem, halike⟩ |
      ⟨hcheck, hdistinct⟩⟩
  all_goals rw [hcheck]
  · show Ends (.error (.fault f)) escape ↔ _
    rw [ends_fault]
    constructor
    · intro hend
      rw [hend]
      exact .unhashable hv hbad
    · intro hend
      cases hend with
      | longShared hashable _ _ _ => simp [hashable v hv] at hbad
      | _ => rfl
  · show Ends (.error (.fault f)) escape ↔ _
    rw [ends_fault]
    constructor
    · intro hend
      rw [hend]
      exact .mixedShared hashable hu hv hdiffer
    · intro hend
      cases hend with
      | longShared _ alike _ _ => exact absurd (alike u v hu hv) hdiffer
      | _ => rfl
  · show Ends (.error (ConfigError.raised (.duplicateOrders shared))) escape ↔ _
    rw [ends_raised (.duplicateOrders shared)]
    constructor
    · intro ⟨hdigits, v, hv, hlong⟩
      rw [hdigits]
      exact .longShared hashable halike ((hmem v).mp hv) hlong
    · intro hend
      cases hend with
      | unhashable hv hbad => simp [hashable _ hv] at hbad
      | mixedShared _ hu hv hdiffer => exact absurd (halike _ _ hu hv) hdiffer
      | longShared _ _ hv hlong => exact ⟨rfl, _, (hmem _).mpr hv, hlong⟩
      | mixed _ hdistinct _ _ _ => exact absurd hfirst (hdistinct first)
  · show Ends ((sortByValue SectionSpec.sortKey (tables.map SectionSpec.ofTable)).mapError .fault) escape ↔ _
    rw [ends_mapError_fault]
    have horderable : ∀ s ∈ tables.map SectionSpec.ofTable, s.sortKey.IsOrderable := by
      intro s hs
      obtain ⟨t, ht, rfl⟩ := List.mem_map.mp hs
      exact isOrderable_sortKey h hashable ht
    rcases sortByValue_cases horderable with ⟨sorted, hsorted, halike⟩ | ⟨f, hf, s, hs, s', hs', hdiffer⟩
    · refine iff_of_false (by simp [hsorted]) ?_
      intro hend
      cases hend with
      | unhashable hv hbad => simp [hashable _ hv] at hbad
      | mixedShared _ hu _ _ => exact hdistinct _ hu
      | longShared _ _ hv _ => exact hdistinct _ hv
      | @mixed s t _ _ hs ht hdiffer =>
        apply hdiffer
        rw [← orderClass?_sortKey (h s hs), ← orderClass?_sortKey (h t ht)]
        exact halike _ (List.mem_map_of_mem hs) _ (List.mem_map_of_mem ht)
    · obtain ⟨t, ht, rfl⟩ := List.mem_map.mp hs
      obtain ⟨t', ht', rfl⟩ := List.mem_map.mp hs'
      rw [orderClass?_sortKey (h t ht), orderClass?_sortKey (h t' ht')] at hdiffer
      constructor
      · intro ⟨hfault, _⟩
        rw [hfault]
        exact .mixed hashable hdistinct ht ht' hdiffer
      · intro hend
        refine ⟨?_, f, hf⟩
        cases hend with
        | longShared _ _ hv _ => exact absurd hv (hdistinct _)
        | _ => rfl

/-! ## §3. Sections that end the reading. -/

/-- A member that gives a section. -/
def IsSectionTable (v : Value) : Prop :=
  ∃ t, v = .table t ∧ (SectionSpec.ofTable t).IsSound

/-- A member gives a section, or is reported, or is no table. -/
theorem parseSection_cases (v : Value) :
    (∃ t, v = .table t ∧ (SectionSpec.ofTable t).IsSound ∧ parseSection v = .ok (SectionSpec.ofTable t)) ∨
    (∃ t e, v = .table t ∧ ¬ (SectionSpec.ofTable t).IsSound ∧
      parseSection v = .error (ConfigError.raised (.badSection v e))) ∨
    (∀ t, v ≠ .table t) ∧ ∃ f, parseSection v = .error (.fault f) := by
  cases v with
  | table t =>
    have hparse : parseSection (.table t) = (SectionSpec.ofTable t).check.mapError fun e =>
        ConfigError.raised (.badSection (.table t) e) := rfl
    rw [hparse, SectionSpec.check]
    cases herror : (SectionSpec.ofTable t).error? with
    | none => exact .inl ⟨t, rfl, (SectionSpec.error?_eq_none_iff _).mp herror, rfl⟩
    | some e =>
      refine .inr (.inl ⟨t, e, rfl, ?_, rfl⟩)
      rw [← SectionSpec.error?_eq_none_iff, herror]
      simp
  | _ => exact .inr (.inr ⟨by simp, _, rfl⟩)

theorem parseSection_isOk_iff {v : Value} : (∃ s, parseSection v = .ok s) ↔ IsSectionTable v := by
  rcases parseSection_cases v with ⟨t, rfl, hsound, hok⟩ | ⟨t, e, rfl, hunsound, herror⟩ | ⟨hne, f, hf⟩
  · exact iff_of_true ⟨_, hok⟩ ⟨t, rfl, hsound⟩
  · refine iff_of_false (by simp [herror]) ?_
    intro ⟨t', ht', hsound⟩
    cases ht'
    exact hunsound hsound
  · refine iff_of_false (by simp [hf]) ?_
    intro ⟨t, ht, _⟩
    exact hne t ht

/-- A member ends the reading if it is no table, or if the report on it shows a number with too many digits. -/
theorem ends_parseSection {v : Value} {escape : Escape} :
    Ends (parseSection v) escape
      ↔ escape = .fault ∧ (∀ t, v ≠ .table t) ∨
        escape = .digits ∧ v.isWritable = false ∧ ∃ t, v = .table t ∧ ¬ (SectionSpec.ofTable t).IsSound := by
  rcases parseSection_cases v with ⟨t, rfl, hsound, hok⟩ | ⟨t, e, rfl, hunsound, herror⟩ | ⟨hne, f, hf⟩
  · rw [hok]
    exact iff_of_false (not_ends_ok _) (by simp [hsound])
  · rw [herror, ends_raised (.badSection _ _)]
    simp [ConfigError.shown, hunsound]
  · rw [hf, ends_fault]
    simp [hne]

/-- What members give that all give sections. -/
theorem tables_of_mapM_parseSection {vs : List Value} {sections : List SectionSpec}
    (h : vs.mapM parseSection = .ok sections) :
    ∃ tables : List Table, vs = tables.map Value.table ∧ (∀ t ∈ tables, (SectionSpec.ofTable t).IsSound) ∧
      sections = tables.map SectionSpec.ofTable := by
  induction vs generalizing sections with
  | nil =>
    cases h
    exact ⟨[], rfl, by simp, rfl⟩
  | cons v vs ih =>
    rw [List.mapM_cons] at h
    rcases parseSection_cases v with ⟨t, rfl, hsound, hok⟩ | ⟨t, e, rfl, -, herror⟩ | ⟨-, f, hf⟩
    · cases hrest : vs.mapM parseSection with
      | error e => simp [hok, hrest, bind, Except.bind] at h
      | ok rest =>
        obtain ⟨tables, rfl, htables, rfl⟩ := ih hrest
        rw [hok, hrest] at h
        cases h
        exact ⟨t :: tables, rfl, List.forall_mem_cons.mpr ⟨hsound, htables⟩, rfl⟩
    · rw [herror] at h
      cases h
    · rw [hf] at h
      cases h

/-- Sections that end the reading. -/
inductive SectionsEscape (v : Value) : Escape → Prop where
  /-- The value has no members. -/
  | noMembers {f : Fault} (members : v.members = .error f) : SectionsEscape v .fault
  /-- After members that give sections follows one that is no table. -/
  | noTable {before after : List Value} {w : Value} (members : v.members = .ok (before ++ w :: after))
      (sound : ∀ u ∈ before, IsSectionTable u) (bad : ∀ t, w ≠ .table t) : SectionsEscape v .fault
  /-- After members that give sections follows a table that gives none and has a number with too many digits. -/
  | longTable {before after : List Value} {t : Table} (members : v.members = .ok (before ++ .table t :: after))
      (sound : ∀ u ∈ before, IsSectionTable u) (unsound : ¬ (SectionSpec.ofTable t).IsSound)
      (long : (Value.table t).isWritable = false) : SectionsEscape v .digits
  /-- All members give sections, and their orders end the reading. -/
  | orders {tables : List Table} {escape : Escape} (members : v.members = .ok (tables.map Value.table))
      (sound : ∀ t ∈ tables, (SectionSpec.ofTable t).IsSound) (ends : OrdersEscape tables escape) :
      SectionsEscape v escape

theorem parseSections_of_get? {t : Table} {v : Value} (h : t.get? "sections" = some v) :
    parseSections t = v.members.mapError .fault >>= fun members => members.mapM parseSection >>= fun sections =>
      if sections.isEmpty then .ok defaultSpecs
      else checkOrders sections >>= fun _ => (sortByValue SectionSpec.sortKey sections).mapError .fault := by
  unfold parseSections
  rw [h]
  rfl

/-- The members of a full value are full. -/
theorem Value.IsFull.members {v : Value} (h : v.IsFull) {vs : List Value} (hvs : v.members = .ok vs) :
    ∀ w ∈ vs, w.IsFull := by
  cases h with
  | list hmembers =>
    cases hvs
    exact hmembers
  | text s =>
    cases hvs
    intro w hw
    obtain ⟨c, -, rfl⟩ := List.mem_map.mp hw
    exact .text _
  | table hentries =>
    cases hvs
    intro w hw
    obtain ⟨e, -, rfl⟩ := List.mem_map.mp hw
    exact .text _
  | _ => cases hvs

/-- **Reading sections ends as `SectionsEscape` says.** -/
theorem ends_parseSections {t : Table} (hfull : t.IsFull) {escape : Escape} :
    Ends (parseSections t) escape ↔ ∃ v, t.get? "sections" = some v ∧ SectionsEscape v escape := by
  cases hget : t.get? "sections" with
  | none =>
    refine iff_of_false ?_ (by simp)
    unfold parseSections
    rw [hget]
    exact not_ends_ok defaultSpecs
  | some v =>
    have htables : ∀ {tables : List Table}, v.members = .ok (tables.map Value.table) →
        ∀ s ∈ tables, Table.IsFull s := by
      intro tables hmembers s hs
      cases (hfull.get? hget).members hmembers _ (List.mem_map_of_mem hs) with
      | table h => exact h
    have harrange : ∀ {tables : List Table}, v.members = .ok (tables.map Value.table) →
        (Ends (if (tables.map SectionSpec.ofTable).isEmpty then .ok defaultSpecs
          else checkOrders (tables.map SectionSpec.ofTable) >>= fun _ =>
            (sortByValue SectionSpec.sortKey (tables.map SectionSpec.ofTable)).mapError .fault) escape
          ↔ OrdersEscape tables escape) := by
      intro tables hmembers
      cases tables with
      | nil =>
        refine iff_of_false (not_ends_ok _) ?_
        intro hend
        cases hend with
        | unhashable hv _ => cases hv
        | mixedShared _ hu _ _ => exact not_isSecond_nil _ hu
        | longShared _ _ hv _ => exact not_isSecond_nil _ hv
        | mixed _ _ hs _ _ => cases hs
      | cons s tables => exact ends_arrange (htables hmembers)
    rw [parseSections_of_get? hget, ends_bind, ends_mapError_fault]
    simp only [ends_bind, ends_mapM, ends_parseSection, parseSection_isOk_iff, mapError_eq_ok,
      Option.some.injEq, exists_eq_left']
    constructor
    · intro h
      rcases h with ⟨rfl, f, hf⟩ | ⟨members, hmembers,
        ⟨before, w, after, rfl, hsound, ⟨rfl, hbad⟩ | ⟨rfl, hlong, s, rfl, hunsound⟩⟩ |
          ⟨sections, hsections, hend⟩⟩
      · exact .noMembers hf
      · exact .noTable hmembers hsound hbad
      · exact .longTable hmembers hsound hunsound hlong
      · obtain ⟨tables, rfl, hsound, rfl⟩ := tables_of_mapM_parseSection hsections
        exact .orders hmembers hsound ((harrange hmembers).mp hend)
    · intro h
      cases h with
      | noMembers hf => exact .inl ⟨rfl, _, hf⟩
      | noTable hmembers hsound hbad =>
        exact .inr ⟨_, hmembers, .inl ⟨_, _, _, rfl, hsound, .inl ⟨rfl, hbad⟩⟩⟩
      | longTable hmembers hsound hunsound hlong =>
        exact .inr ⟨_, hmembers, .inl ⟨_, _, _, rfl, hsound, .inr ⟨rfl, hlong, _, rfl, hunsound⟩⟩⟩
      | orders hmembers hsound hend =>
        have hsections := mapM_parseSection fun s hs => (SectionSpec.error?_eq_none_iff _).mpr (hsound s hs)
        exact .inr ⟨_, hmembers, .inr ⟨_, hsections, (harrange hmembers).mpr hend⟩⟩

/-! ## §4. Documents that end the reading. -/

/-- Tables for this program that end the reading. -/
inductive PartEscapes (t : Table) : Escape → Prop where
  /-- The style is not known, and has too many digits to be shown. -/
  | longStyle {style : Value} (given : t.get? "optional_style" = some style)
      (unknown : ∀ label ∈ styleLabels, style ≠ .text label) (long : style.isWritable = false) :
      PartEscapes t .digits
  /-- The style is known, or there is none, and the sections end the reading. -/
  | sections {v : Value} {escape : Escape}
      (known : ∀ style, t.get? "optional_style" = some style → ∃ label ∈ styleLabels, style = .text label)
      (given : t.get? "sections" = some v) (ends : SectionsEscape v escape) : PartEscapes t escape

theorem Value.same_text_iff (v : Value) (s : String) : v.same (.text s) = true ↔ v = .text s := by
  cases v <;> simp [same, number?]

/-- The options can be read, or the style is reported. -/
theorem parseSettings_cases (t : Table) :
    (∃ settings, parseSettings t = .ok settings ∧
      ∀ style, t.get? "optional_style" = some style → ∃ label ∈ styleLabels, style = .text label) ∨
    ∃ style, t.get? "optional_style" = some style ∧ (∀ label ∈ styleLabels, style ≠ .text label) ∧
      parseSettings t = .error (ConfigError.raised (.unknownStyle style)) := by
  have hknown : ∀ style : Value, (styleLabels.any fun label => style.same (.text label)) = true
      ↔ ∃ label ∈ styleLabels, style = .text label := by
    intro style
    simp only [List.any_eq_true, Value.same_text_iff]
  unfold parseSettings Table.getD
  cases hget : t.get? "optional_style" with
  | none =>
    refine .inl ⟨_, if_pos ((hknown _).mpr ⟨"validate", by decide, rfl⟩), ?_⟩
    intro style hstyle
    cases hstyle
  | some style =>
    by_cases hlabel : ∃ label ∈ styleLabels, style = .text label
    · refine .inl ⟨_, if_pos ((hknown style).mpr hlabel), ?_⟩
      intro style' hstyle'
      cases hstyle'
      exact hlabel
    · refine .inr ⟨style, rfl, ?_, if_neg (mt (hknown style).mp hlabel)⟩
      intro label hmem hsame
      exact hlabel ⟨label, hmem, hsame⟩

/-- Reading a table for this program ends as `PartEscapes` says. -/
theorem ends_parseConfig {t : Table} (hfull : t.IsFull) {escape : Escape} :
    Ends (parseConfig (.table t)) escape ↔ PartEscapes t escape := by
  have hparse : parseConfig (.table t) = parseSettings t >>= fun settings => parseSections t >>= fun sections =>
      .ok { settings, sections } := rfl
  rw [hparse]
  rcases parseSettings_cases t with ⟨settings, hsettings, hknown⟩ | ⟨style, hget, hunknown, herror⟩
  · rw [hsettings]
    show Ends (parseSections t >>= fun sections =>
      (.ok { settings, sections } : Except ConfigError Config)) escape ↔ _
    simp only [ends_bind, not_ends_ok, and_false, exists_false, or_false, ends_parseSections hfull]
    constructor
    · intro ⟨v, hv, hend⟩
      exact .sections hknown hv hend
    · intro hend
      cases hend with
      | longStyle hget hunknown _ =>
        obtain ⟨label, hmem, hsame⟩ := hknown _ hget
        exact absurd hsame (hunknown label hmem)
      | sections _ hv hend => exact ⟨_, hv, hend⟩
  · rw [herror]
    show Ends (.error (ConfigError.raised (.unknownStyle style))) escape ↔ _
    rw [ends_raised (.unknownStyle style)]
    constructor
    · intro ⟨hdigits, v, hv, hlong⟩
      rw [List.mem_singleton.mp hv] at hlong
      rw [hdigits]
      exact .longStyle hget hunknown hlong
    · intro hend
      cases hend with
      | longStyle hget' _ hlong =>
        cases hget.symm.trans hget'
        exact ⟨rfl, style, List.mem_singleton_self style, hlong⟩
      | sections hknown _ _ =>
        obtain ⟨label, hmem, hsame⟩ := hknown style hget
        exact absurd hsame (hunknown label hmem)

/-- Values of the entry `tool` that end the reading. -/
inductive ToolEscapes : Value → Escape → Prop where
  /-- The value holds nothing. -/
  | scalar {tool : Value} (noTable : ∀ t, tool ≠ .table t) (noList : ∀ vs, tool ≠ .list vs)
      (noText : ∀ s, tool ≠ .text s) : ToolEscapes tool .fault
  /-- A name of this program occurs in a text. -/
  | text {s name : String} (mem : name ∈ toolNames) (occurs : name.toList <:+: s.toList) :
      ToolEscapes (.text s) .fault
  /-- A name of this program is a member of a list. -/
  | list {vs : List Value} {name : String} (mem : name ∈ toolNames) (occurs : Value.text name ∈ vs) :
      ToolEscapes (.list vs) .fault
  /-- What a table holds under the name of this program is no table. -/
  | noTable {tools : Table} {part : Value} (first : toolNames.findSome? tools.get? = some part)
      (bad : ∀ t, part ≠ .table t) : ToolEscapes (.table tools) .fault
  /-- The table for this program ends the reading. -/
  | table {tools t : Table} {escape : Escape} (first : toolNames.findSome? tools.get? = some (.table t))
      (ends : PartEscapes t escape) : ToolEscapes (.table tools) escape

/-- Documents that end the reading. -/
def Escapes (document : Table) (escape : Escape) : Prop :=
  ∃ tool, document.get? "tool" = some tool ∧ ToolEscapes tool escape

theorem configOf_of_fault {v : Value} {f : Fault} (h : toolTable v = .error f) :
    configOf v = .error (.fault f) := by
  rw [configOf, h]
  rfl

theorem configOf_of_none {v : Value} (h : toolTable v = .ok .none) : configOf v = .ok defaultConfig := by
  rw [configOf, h]
  rfl

theorem configOf_of_part {v part : Value} (h : toolTable v = .ok part) (hne : part ≠ .none) :
    configOf v = parseConfig part := by
  rw [configOf, h]
  cases part <;> first | rfl | exact absurd rfl hne

theorem parseConfig_of_no_table {v : Value} (h : ∀ t, v ≠ .table t) :
    ∃ f, parseConfig v = .error (.fault f) := by
  cases v with
  | table t => exact absurd rfl (h t)
  | _ => exact ⟨_, rfl⟩

section Tool

variable {document : Table} {escape : Escape}

theorem ends_configOf_table {tools : Table} (htools : tools.IsFull)
    (h : toolTable (.table document) = (Value.table tools).firstItem toolNames) :
    Ends (configOf (.table document)) escape ↔ ToolEscapes (.table tools) escape := by
  rw [Value.firstItem_table] at h
  cases hfirst : toolNames.findSome? tools.get? with
  | none =>
    rw [hfirst] at h
    rw [configOf_of_none h]
    refine iff_of_false (not_ends_ok _) ?_
    intro hend
    cases hend with
    | scalar hbad _ _ => exact hbad tools rfl
    | noTable hfirst' _ => cases hfirst.symm.trans hfirst'
    | table hfirst' _ => cases hfirst.symm.trans hfirst'
  | some part =>
    rw [hfirst, Option.getD_some] at h
    obtain ⟨name, -, hname⟩ := List.exists_of_findSome?_eq_some hfirst
    have hpart := htools.get? hname
    rw [configOf_of_part h hpart.ne_none]
    by_cases hkind : ∃ t, part = .table t
    · obtain ⟨t, rfl⟩ := hkind
      have ht : Table.IsFull t := by
        cases hpart with
        | table h => exact h
      rw [ends_parseConfig ht]
      constructor
      · exact .table hfirst
      · intro hend
        cases hend with
        | scalar hbad _ _ => exact absurd rfl (hbad tools)
        | noTable hfirst' hbad =>
          cases hfirst.symm.trans hfirst'
          exact absurd rfl (hbad t)
        | table hfirst' hend =>
          cases hfirst.symm.trans hfirst'
          exact hend
    · obtain ⟨f, hf⟩ := parseConfig_of_no_table (not_exists.mp hkind)
      rw [hf, ends_fault]
      constructor
      · intro hend
        rw [hend]
        exact .noTable hfirst (not_exists.mp hkind)
      · intro hend
        cases hend with
        | table hfirst' _ =>
          cases hfirst.symm.trans hfirst'
          exact absurd ⟨_, rfl⟩ hkind
        | _ => rfl

/-- What holds names without values ends the reading exactly if it holds one of this program. -/
theorem ends_configOf_names {tool : Value} {p : String → Bool} (hholds : ∀ name, tool.holds name = .ok (p name))
    (hitem : ∀ name, ∃ f, tool.item name = .error f)
    (h : toolTable (.table document) = tool.firstItem toolNames) :
    Ends (configOf (.table document)) escape ↔ escape = .fault ∧ ∃ name ∈ toolNames, p name = true := by
  rcases Value.firstItem_cases hholds hitem toolNames with ⟨hnone, hnames⟩ | ⟨f, hf, hname⟩
  · rw [configOf_of_none (h.trans hnone)]
    refine iff_of_false (not_ends_ok _) ?_
    intro ⟨_, name, hmem, hheld⟩
    rw [hnames name hmem] at hheld
    cases hheld
  · rw [configOf_of_fault (h.trans hf), ends_fault, and_iff_left hname]

/-- **Reading a document ends as `Escapes` says.** -/
theorem ends_configOf (hfull : document.IsFull) :
    Ends (configOf (.table document)) escape ↔ Escapes document escape := by
  have htool := toolTable_table document
  unfold Escapes
  cases hget : document.get? "tool" with
  | none =>
    rw [hget] at htool
    rw [configOf_of_none htool]
    exact iff_of_false (not_ends_ok _) (by simp)
  | some tool =>
    rw [hget] at htool
    simp only [Option.some.injEq, exists_eq_left']
    cases tool with
    | table tools =>
      refine ends_configOf_table ?_ htool
      cases hfull.get? hget with
      | table h => exact h
    | text s =>
      rw [ends_configOf_names (fun _ => rfl) (fun _ => ⟨.textIndex, rfl⟩) htool]
      constructor
      · intro ⟨hfault, name, hmem, hheld⟩
        rw [hfault]
        exact .text hmem (Text.contains_iff.mp hheld)
      · intro hend
        cases hend with
        | scalar _ _ hbad => exact absurd rfl (hbad s)
        | text hmem hoccurs => exact ⟨rfl, _, hmem, Text.contains_iff.mpr hoccurs⟩
    | list vs =>
      rw [ends_configOf_names (fun _ => rfl) (fun _ => ⟨.listIndex, rfl⟩) htool]
      simp only [List.any_eq_true, Value.same_text_iff, exists_eq_right]
      constructor
      · intro ⟨hfault, name, hmem, hheld⟩
        rw [hfault]
        exact .list hmem hheld
      · intro hend
        cases hend with
        | scalar _ hbad _ => exact absurd rfl (hbad vs)
        | list hmem hoccurs => exact ⟨rfl, _, hmem, hoccurs⟩
    | _ =>
      rw [configOf_of_fault htool, ends_fault]
      constructor
      · intro hend
        rw [hend]
        exact .scalar (by simp) (by simp) (by simp)
      · intro hend
        cases hend
        rfl

end Tool

/-! ## §5. Files. -/

/-- No document ends the reading as a path does that leads to no file. -/
theorem not_escapes_lookup (document : Table) : ¬ Escapes document .lookup := by
  intro ⟨tool, _, hend⟩
  cases hend with
  | table _ hend =>
    cases hend with
    | sections _ _ hend =>
      cases hend with
      | orders _ _ hend => cases hend

/-- A file ends the reading exactly if its document does. -/
theorem ends_loadConfig {w : Workspace} {p : Path} {bytes : List UInt8}
    (hfile : w.lookup p = .found (.file bytes)) {escape : Escape} :
    Ends (w.loadConfig (some p)) escape ↔ ∃ document, IsDocument bytes document ∧ Escapes document escape := by
  have hload : w.loadConfig (some p)
      = (readDocument w.diagnoses p.render (.file bytes)).mapError (.unreadable p.render) >>= configOf := by
    show w.readConfig p = _
    rw [Workspace.readConfig, hfile]
  rw [hload]
  rcases readDocument_file w.diagnoses p.render bytes with ⟨document, hdocument, hread⟩ | ⟨hnone, reason, hread⟩
  · rw [hread]
    show Ends (configOf (.table document)) escape ↔ _
    rw [ends_configOf hdocument.isFull]
    constructor
    · intro hend
      exact ⟨document, hdocument, hend⟩
    · intro ⟨document', hdocument', hend⟩
      rwa [hdocument.unique hdocument']
  · rw [hread]
    show Ends (.error (.unreadable p.render reason)) escape ↔ _
    refine iff_of_false (by simp [ends_error, ConfigError.escape?]) ?_
    intro ⟨document, hdocument, _⟩
    exact hnone document hdocument

/-- **A file gives a configuration or an error that is reported, unless its document escapes.** It escapes with a
fault or with a number of too many digits, as its document says, and never as if there were no file. -/
theorem loadConfig_reported_or_escapes {w : Workspace} {p : Path} {bytes : List UInt8}
    (hfile : w.lookup p = .found (.file bytes)) :
    ((∃ c, w.loadConfig (some p) = .ok c) ∨ (∃ e, w.loadConfig (some p) = .error e ∧ e.IsReported)
      ↔ ∀ document escape, IsDocument bytes document → ¬ Escapes document escape) ∧
    (∀ escape, (∃ e, w.loadConfig (some p) = .error e ∧ e.escape? = some escape)
      ↔ ∃ document, IsDocument bytes document ∧ Escapes document escape) ∧
    ¬ ∃ e, w.loadConfig (some p) = .error e ∧ e.escape? = some .lookup := by
  refine ⟨⟨?_, ?_⟩, fun escape => ends_loadConfig hfile, ?_⟩
  · intro h document escape hdocument hend
    obtain ⟨e, he, hescape⟩ := (ends_loadConfig hfile).mpr ⟨document, hdocument, hend⟩
    rcases h with ⟨c, hc⟩ | ⟨e', he', hreported⟩
    · rw [he] at hc
      cases hc
    · cases he.symm.trans he'
      rw [ConfigError.isReported_iff.mp hreported] at hescape
      cases hescape
  · intro h
    cases hload : w.loadConfig (some p) with
    | ok c => exact .inl ⟨c, rfl⟩
    | error e =>
      refine .inr ⟨e, rfl, ConfigError.isReported_iff.mpr ?_⟩
      cases hescape : e.escape? with
      | none => rfl
      | some escape =>
        obtain ⟨document, hdocument, hend⟩ := (ends_loadConfig hfile).mp ⟨e, hload, hescape⟩
        exact absurd hend (h document escape hdocument)
  · intro hend
    obtain ⟨document, -, hend⟩ := (ends_loadConfig hfile).mp hend
    exact not_escapes_lookup document hend

/-- A workspace with one file. -/
def fileWorkspace (text : String) : Workspace :=
  { root := .dir [("c", .file (asciiBytes text))], cwd := [] }

/-- Two sections whose orders are a number and a text. -/
def mixedOrders : List Table :=
  [[("type", .text "list_name"), ("order", .int 1)], [("type", .text "list_name"), ("order", .text "a")]]

/-- A document with these sections. -/
def mixedText : String :=
  "tool.dfc.sections=[\x7btype='list_name',order=1\x7d,\x7btype='list_name',order='a'\x7d]"

/-- The texts and the number of a document with two sections whose orders are a number and a text. -/
def mixedParts? : Except Toml.Error Table → Option (List String × Int)
  | .ok [(tool, .table [(dfc, .table [(sections, .list [.table [(type, .text kind), (order, .int n)],
      .table [(type', .text kind'), (order', .text a)]])])])] =>
    some ([tool, dfc, sections, type, kind, order, type', kind', order', a], n)
  | _ => none

theorem isDocument_mixedText :
    IsDocument (asciiBytes mixedText)
      [("tool", .table [("dfc", .table [("sections", .list (mixedOrders.map Value.table))])])] := by
  -- values have no equality that can be decided, so the document is compared by its parts
  have hparts : mixedParts? (Toml.parse mixedText.toList)
      = some (["tool", "dfc", "sections", "type", "list_name", "order", "type", "list_name", "order", "a"], 1) := by
    decide +kernel
  refine ⟨mixedText.toList, by decide +kernel, ?_⟩
  unfold mixedParts? at hparts
  split at hparts
  next hparse =>
    simp only [Option.some.injEq, Prod.mk.injEq, List.cons.injEq, and_true] at hparts
    obtain ⟨⟨rfl, rfl, rfl, rfl, rfl, rfl, rfl, rfl, rfl, rfl⟩, rfl⟩ := hparts
    exact hparse
  next => cases hparts

theorem escapes_mixedOrders :
    Escapes [("tool", .table [("dfc", .table [("sections", .list (mixedOrders.map Value.table))])])] .fault := by
  have hdistinct : ∀ v, ¬ IsSecond (ordersOf mixedOrders) v := by
    intro v hv
    have hpair : IsSecond ([] ++ [Value.int 1] ++ [Value.text "a"]) v := hv
    rw [isSecond_concat, isSecond_concat] at hpair
    rcases hpair with (hnil | ⟨-, hcount⟩) | ⟨-, hcount⟩
    · exact not_isSecond_nil v hnil
    · cases hcount
    · cases hcount
  have hsound : ∀ t ∈ mixedOrders, (SectionSpec.ofTable t).IsSound := by
    intro t ht
    rw [← SectionSpec.error?_eq_none_iff]
    simp only [mixedOrders, List.mem_cons, List.not_mem_nil, or_false] at ht
    rcases ht with rfl | rfl <;> rfl
  have horders : OrdersEscape mixedOrders .fault :=
    .mixed (by decide) hdistinct List.mem_cons_self (List.mem_cons_of_mem _ List.mem_cons_self) (by decide)
  refine ⟨_, rfl, .table rfl (.sections ?_ rfl (.orders rfl hsound horders))⟩
  intro style hstyle
  cases hstyle

theorem loadConfig_reported_or_escapes_mixed :
    (fileWorkspace mixedText).lookup { parts := ["c"] } = .found (.file (asciiBytes mixedText)) ∧
      ∃ e, (fileWorkspace mixedText).loadConfig (some { parts := ["c"] }) = .error e ∧
        e.escape? = some .fault := by
  have hfile : (fileWorkspace mixedText).lookup { parts := ["c"] } = .found (.file (asciiBytes mixedText)) := by
    rfl
  exact ⟨hfile, ((loadConfig_reported_or_escapes hfile).2.1 .fault).mpr
    ⟨_, isDocument_mixedText, escapes_mixedOrders⟩⟩

/-- **A number in place of the table `tool` is not reported**: the reading ends with a fault. -/
theorem number_for_tool_not_reported :
    (fileWorkspace "tool=1").lookup { parts := ["c"] } = .found (.file (asciiBytes "tool=1")) ∧
      (fileWorkspace "tool=1").loadConfig (some { parts := ["c"] }) = .error (.fault (.notContainer "int")) ∧
      ¬ (ConfigError.fault (.notContainer "int")).IsReported := by
  refine ⟨rfl, by rfl, ?_⟩
  intro hreported
  cases hreported

end DocLint
