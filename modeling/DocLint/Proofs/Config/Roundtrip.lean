import DocLint.Proofs.Config.Sections
import Mathlib.Data.List.Forall2
import Mathlib.Data.List.Sort

/-!
DocLint.Proofs.Config.Roundtrip: sections that are written out and read back.

A table that holds the fields of a section is read back as that section, but for its message, which is never read.
Sections whose orders ascend, with those without one at the end, are kept in their order, because there is only one way
to arrange sections. Main result: such a list of sections comes back from its tables with all messages empty, and so
unchanged exactly if no section has a message.
-/

namespace DocLint

/-! ## §1. Tables of sections. -/

namespace SectionSpec

/-- A table that holds all fields of a section. A section without an order has none in its table. -/
structure IsWrittenIn (s : SectionSpec) (t : Table) : Prop where
  /-- Its name. -/
  name : t.get? "name" = some s.name
  /-- Its kind. -/
  kind : t.get? "type" = some s.kind
  /-- Its order, if it has one. -/
  order : t.get? "order" = if s.isOrdered then some s.order else none
  /-- Its admonition. -/
  admonition : t.get? "admonition" = some s.admonition
  /-- Its mark. -/
  marker : t.get? "prefix" = some s.marker
  /-- Whether it is required. -/
  required : t.get? "required" = some s.required
  /-- Its message. -/
  message : t.get? "message" = some s.message

/-- The table of a section. -/
def toTable (s : SectionSpec) : Table :=
  (if s.isOrdered then [("order", s.order)] else []) ++
    [("name", s.name), ("type", s.kind), ("admonition", s.admonition), ("prefix", s.marker),
      ("required", s.required), ("message", s.message)]

theorem isWrittenIn_toTable (s : SectionSpec) : s.IsWrittenIn s.toTable := by
  unfold toTable
  cases hordered : s.isOrdered with
  | true => exact ⟨rfl, rfl, by rw [hordered]; rfl, rfl, rfl, rfl, rfl⟩
  | false => exact ⟨rfl, rfl, by rw [hordered]; rfl, rfl, rfl, rfl, rfl⟩

/-- A section without its message. -/
def unannotated (s : SectionSpec) : SectionSpec :=
  { s with message := .text "" }

theorem unannotated_eq_self_iff {s : SectionSpec} : s.unannotated = s ↔ s.message = .text "" := by
  constructor
  · intro h
    rw [← h]
    rfl
  · intro h
    unfold unannotated
    rw [← h]

theorem error?_unannotated (s : SectionSpec) : s.unannotated.error? = s.error? := rfl

theorem order_eq_none {s : SectionSpec} (h : s.isOrdered = false) : s.order = .none := by
  unfold isOrdered at h
  cases horder : s.order <;> simp_all

/-- **A sound section is read back from its table, without its message.** -/
theorem ofTable_of_isWrittenIn {s : SectionSpec} {t : Table} (hsound : s.IsSound) (h : s.IsWrittenIn t) :
    ofTable t = s.unannotated := by
  have horder : (if s.isOrdered then some s.order else none).getD .none = s.order := by
    cases hordered : s.isOrdered with
    | true => rfl
    | false => exact (order_eq_none hordered).symm
  unfold ofTable unannotated Table.getD
  rw [h.name, h.kind, h.order, h.admonition, h.marker, h.required, horder]
  -- an admonition that is none would be read as false, but that of a sound section is false or a text
  rcases hsound.admonition with ⟨hfalse, -⟩ | ⟨⟨a, ha⟩, -⟩
  · simp only [Option.getD_some, hfalse]
  · simp only [Option.getD_some, ha]

end SectionSpec

/-! ## §2. There is one arrangement. -/

/-- Sections with integers for their orders, which ascend strictly. -/
def OrdersAscend (sections : List SectionSpec) : Prop :=
  ∃ ns : List Int, sections.map (·.order) = ns.map Value.int ∧ ns.Pairwise (· < ·)

theorem OrdersAscend.pairwise {sections : List SectionSpec} (h : OrdersAscend sections) :
    sections.Pairwise fun s t => ∃ m n, s.order = .int m ∧ t.order = .int n ∧ m < n := by
  obtain ⟨ns, horders, hascend⟩ := h
  have hvalues : (ns.map Value.int).Pairwise fun v w => ∃ m n, v = .int m ∧ w = .int n ∧ m < n :=
    List.pairwise_map.mpr (hascend.imp fun {m n} hmn => ⟨m, n, rfl, rfl, hmn⟩)
  rw [← horders] at hvalues
  exact List.pairwise_map.mp hvalues

theorem OrdersAscend.eq_of_perm {xs ys : List SectionSpec} (hx : OrdersAscend xs) (hy : OrdersAscend ys)
    (h : xs.Perm ys) : xs = ys := by
  refine List.Perm.eq_of_pairwise ?_ hx.pairwise hy.pairwise h
  -- no two sections can precede each other
  intro s t _ _ hst hts
  obtain ⟨m, n, hm, hn, hmn⟩ := hst
  obtain ⟨n', m', hn', hm', hnm⟩ := hts
  rw [hm] at hm'
  rw [hn] at hn'
  cases hm'
  cases hn'
  omega

/-- **Sections are arranged in one way only.** -/
theorem IsArranged.unique {sections xs ys : List SectionSpec} (hx : IsArranged sections xs)
    (hy : IsArranged sections ys) : xs = ys := by
  obtain ⟨front, hfront, hascend⟩ := hx.split
  obtain ⟨front', hfront', hascend'⟩ := hy.split
  have hperm : (front ++ sections.filter (!·.isOrdered)).Perm (front' ++ sections.filter (!·.isOrdered)) := by
    rw [← hfront, ← hfront']
    exact hx.perm.trans hy.perm.symm
  rw [hfront, hfront', OrdersAscend.eq_of_perm hascend hascend' ((List.perm_append_right_iff _).mp hperm)]

/-! ## §3. Sections in loading order. -/

/-- Sections in the order in which they are loaded: orders that ascend, and then no orders. -/
def InLoadingOrder (sections : List SectionSpec) : Prop :=
  ∃ ordered floating, sections = ordered ++ floating ∧ OrdersAscend ordered ∧
    ∀ s ∈ floating, s.order = .none

namespace InLoadingOrder

variable {sections : List SectionSpec}

theorem unannotated (h : InLoadingOrder sections) :
    InLoadingOrder (sections.map SectionSpec.unannotated) := by
  obtain ⟨ordered, floating, rfl, ⟨ns, horders, hascend⟩, hnone⟩ := h
  refine ⟨ordered.map SectionSpec.unannotated, floating.map SectionSpec.unannotated, List.map_append,
    ⟨ns, ?_, hascend⟩, ?_⟩
  · rw [List.map_map]
    exact horders
  · intro s hs
    obtain ⟨u, hu, rfl⟩ := List.mem_map.mp hs
    exact hnone u hu

theorem isOrdered_of_ascend {ordered : List SectionSpec} (h : OrdersAscend ordered) :
    ∀ s ∈ ordered, ∃ n, s.order = .int n := by
  obtain ⟨ns, horders, -⟩ := h
  intro s hs
  have hmem : s.order ∈ ns.map Value.int := horders ▸ List.mem_map.mpr ⟨s, hs, rfl⟩
  obtain ⟨n, -, hn⟩ := List.mem_map.mp hmem
  exact ⟨n, hn.symm⟩

theorem isNumbered (h : InLoadingOrder sections) : ∀ s ∈ sections, s.IsNumbered := by
  obtain ⟨ordered, floating, rfl, hascend, hnone⟩ := h
  intro s hs hordered
  rcases List.mem_append.mp hs with hs | hs
  · obtain ⟨n, hn⟩ := isOrdered_of_ascend hascend s hs
    rw [hn]
    rfl
  · unfold SectionSpec.isOrdered at hordered
    rw [hnone s hs] at hordered
    cases hordered

/-- The orders are pairwise different. -/
theorem nodup_numbers (h : InLoadingOrder sections) : (numbers sections).Nodup := by
  obtain ⟨ordered, floating, rfl, ⟨ns, horders, hascend⟩, hnone⟩ := h
  have hfront : numbers ordered = ns := by
    have hvalues : numbers ordered = (ordered.map (·.order)).filterMap Value.int? := by
      rw [List.filterMap_map]
      rfl
    rw [hvalues, horders, List.filterMap_map]
    exact List.filterMap_some
  have hback : numbers floating = [] := by
    unfold numbers
    rw [List.filterMap_eq_nil_iff]
    intro s hs
    rw [hnone s hs]
    rfl
  have hnumbers : numbers (ordered ++ floating) = ns := by
    unfold numbers at hfront hback ⊢
    rw [List.filterMap_append, hfront, hback, List.append_nil]
  rw [hnumbers]
  exact hascend.imp fun {m n} hmn => Int.ne_of_lt hmn

theorem not_isShared (h : InLoadingOrder sections) (n : Int) : ¬ IsShared sections n := by
  have honce := List.nodup_iff_count_le_one.mp h.nodup_numbers n
  unfold IsShared
  omega

/-- Sections in loading order are arranged as they stand. -/
theorem isArranged (h : InLoadingOrder sections) : IsArranged sections sections := by
  refine ⟨List.Perm.refl _, ?_⟩
  obtain ⟨ordered, floating, rfl, hascend, hnone⟩ := h
  refine ⟨ordered, ?_, hascend⟩
  have hfront : ordered.filter (!·.isOrdered) = [] := by
    rw [List.filter_eq_nil_iff]
    intro s hs
    obtain ⟨n, hn⟩ := isOrdered_of_ascend hascend s hs
    simp [SectionSpec.isOrdered, hn]
  have hback : floating.filter (!·.isOrdered) = floating := by
    rw [List.filter_eq_self]
    intro s hs
    simp [SectionSpec.isOrdered, hnone s hs]
  rw [List.filter_append, hfront, hback, List.nil_append]

end InLoadingOrder

/-! ## §4. Reading sections back. -/

theorem map_ofTable_of_isWrittenIn {sections : List SectionSpec} {tables : List Table}
    (h : List.Forall₂ SectionSpec.IsWrittenIn sections tables) (hsound : ∀ s ∈ sections, s.IsSound) :
    tables.map SectionSpec.ofTable = sections.map SectionSpec.unannotated := by
  induction h with
  | nil => rfl
  | @cons s t sections tables hs _ ih =>
    obtain ⟨hsound, hrest⟩ := List.forall_mem_cons.mp hsound
    rw [List.map_cons, List.map_cons, SectionSpec.ofTable_of_isWrittenIn hsound hs, ih hrest]

/-- Sections in loading order that are written out. -/
structure AreWrittenIn (sections : List SectionSpec) (tables : List Table) (t : Table) : Prop where
  /-- There is at least one. -/
  ne_nil : sections ≠ []
  /-- Each can be used. -/
  sound : ∀ s ∈ sections, s.IsSound
  /-- They stand in the order in which they are loaded. -/
  order : InLoadingOrder sections
  /-- Each has a table with all its fields. -/
  written : List.Forall₂ SectionSpec.IsWrittenIn sections tables
  /-- The tables are the members of a list. -/
  given : t.get? "sections" = some (.list (tables.map Value.table))

theorem AreWrittenIn.givesSections {sections : List SectionSpec} {tables : List Table} {t : Table}
    (h : AreWrittenIn sections tables t) : GivesSections t tables := by
  have hmem : ∀ u ∈ tables, ∃ s ∈ sections, s.unannotated = SectionSpec.ofTable u := by
    intro u hu
    have hin : SectionSpec.ofTable u ∈ sections.map SectionSpec.unannotated :=
      map_ofTable_of_isWrittenIn h.written h.sound ▸ List.mem_map.mpr ⟨u, hu, rfl⟩
    exact List.mem_map.mp hin
  refine ⟨h.given, ?_, ?_, ?_⟩
  · intro hnil
    have hwritten := h.written
    rw [hnil] at hwritten
    exact h.ne_nil (List.forall₂_nil_right_iff.mp hwritten)
  · intro u hu
    obtain ⟨s, hs, heq⟩ := hmem u hu
    rw [← heq, SectionSpec.error?_unannotated]
    exact (SectionSpec.error?_eq_none_iff s).mpr (h.sound s hs)
  · intro u hu
    obtain ⟨s, hs, heq⟩ := hmem u hu
    rw [← heq]
    exact h.order.isNumbered s hs

/-- **Sections that are written out are read back in their places, without messages.** -/
theorem AreWrittenIn.parseSections_eq {sections : List SectionSpec} {tables : List Table} {t : Table}
    (h : AreWrittenIn sections tables t) :
    parseSections t = .ok (sections.map SectionSpec.unannotated) := by
  obtain ⟨shared, -, hshared, hnone, -⟩ := h.givesSections.outcome
  rw [map_ofTable_of_isWrittenIn h.written h.sound] at hshared hnone
  -- no order is shared, so the sections are arranged, and they are arranged already
  have hempty : shared = [] := by
    rw [List.eq_nil_iff_forall_not_mem]
    intro n hn
    exact h.order.unannotated.not_isShared n ((hshared n).mp hn)
  obtain ⟨result, hresult, harranged⟩ := hnone hempty
  have heq : result = sections.map SectionSpec.unannotated :=
    harranged.unique h.order.unannotated.isArranged
  rw [hresult, heq]

theorem map_unannotated_eq_self_iff (sections : List SectionSpec) :
    sections.map SectionSpec.unannotated = sections ↔ ∀ s ∈ sections, s.message = .text "" := by
  constructor
  · intro hsame s hs
    have hself := List.map_inj_left.mp (hsame.trans (List.map_id sections).symm) s hs
    exact SectionSpec.unannotated_eq_self_iff.mp hself
  · intro hmessage
    refine (List.map_congr_left fun s hs => ?_).trans (List.map_id sections)
    exact SectionSpec.unannotated_eq_self_iff.mpr (hmessage s hs)

/-- **Loading undoes writing out, all messages apart.** A list of sound sections in loading order that is not empty comes
back from its tables with every section in its place and every message empty, and so as it was exactly if no section has
a message. -/
theorem sections_read_back_without_messages {sections : List SectionSpec} {tables : List Table} {t : Table}
    (h : AreWrittenIn sections tables t) :
    parseSections t = .ok (sections.map SectionSpec.unannotated) ∧
      (parseSections t = .ok sections ↔ ∀ s ∈ sections, s.message = .text "") := by
  refine ⟨h.parseSections_eq, ?_⟩
  rw [h.parseSections_eq, Except.ok.injEq]
  exact map_unannotated_eq_self_iff sections

/-- Three sections, of which the last has no order and the first a message. -/
def messageSpecs (message : String) : List SectionSpec :=
  [ { name := .text "summary", kind := .text "free_text", order := .int 1, admonition := .text "note",
      marker := .text "!!!", required := .bool true, message := .text message },
    { name := .text "params", kind := .text "list_name_and_type", order := .int 4 },
    { name := .text "notes", kind := .text "free_text" } ]

theorem areWrittenIn_messageSpecs (message : String) :
    AreWrittenIn (messageSpecs message) ((messageSpecs message).map SectionSpec.toTable)
      (sectionsTable ((messageSpecs message).map SectionSpec.toTable)) := by
  refine ⟨by simp [messageSpecs], ?_, ?_, ?_, rfl⟩
  · intro s hs
    rw [← SectionSpec.error?_eq_none_iff]
    simp only [messageSpecs, List.mem_cons, List.not_mem_nil, or_false] at hs
    rcases hs with rfl | rfl | rfl <;> rfl
  · exact ⟨(messageSpecs message).take 2, (messageSpecs message).drop 2, rfl, ⟨[1, 4], rfl, by decide⟩,
      by simp [messageSpecs]⟩
  · exact List.forall₂_map_right_iff.mpr (List.forall₂_same.mpr fun s _ => s.isWrittenIn_toTable)

theorem sections_read_back_without_messages_plain :
    AreWrittenIn (messageSpecs "") ((messageSpecs "").map SectionSpec.toTable)
      (sectionsTable ((messageSpecs "").map SectionSpec.toTable)) ∧
    parseSections (sectionsTable ((messageSpecs "").map SectionSpec.toTable)) = .ok (messageSpecs "") := by
  refine ⟨areWrittenIn_messageSpecs "", ?_⟩
  refine (sections_read_back_without_messages (areWrittenIn_messageSpecs "")).2.mpr ?_
  simp [messageSpecs]

/-- **A message is lost**, although the sections are sound, stand in their order and are written out with all fields. -/
theorem message_not_read_back :
    AreWrittenIn (messageSpecs "Write one.") ((messageSpecs "Write one.").map SectionSpec.toTable)
      (sectionsTable ((messageSpecs "Write one.").map SectionSpec.toTable)) ∧
    parseSections (sectionsTable ((messageSpecs "Write one.").map SectionSpec.toTable))
      ≠ .ok (messageSpecs "Write one.") := by
  refine ⟨areWrittenIn_messageSpecs "Write one.", ?_⟩
  rw [(areWrittenIn_messageSpecs "Write one.").parseSections_eq, ne_eq, Except.ok.injEq,
    map_unannotated_eq_self_iff]
  simp [messageSpecs]

end DocLint
