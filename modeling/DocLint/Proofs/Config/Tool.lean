import DocLint.Proofs.Entries
import DocLint.Proofs.Toml.Document
import DocLint.Workspace.Configuration

/-!
DocLint.Proofs.Config.Tool: documents and the table in them that configures this program.

A file holds a document if its bytes are a text and the text is one of tables. The part of a document that
configures this program is what its entry `tool` holds under the first of two names. Main statement: where
that entry is a table, the search for a configuration file and the reading of it agree on whether there is
such a part.
-/

namespace DocLint

/-! ## §1. Documents in files. -/

/-- The document in the bytes of a file. -/
def IsDocument (bytes : List UInt8) (document : Table) : Prop :=
  ∃ text, Text.decode bytes = .ok text ∧ Toml.parse text = .ok document

theorem IsDocument.isFull {bytes : List UInt8} {document : Table} (h : IsDocument bytes document) :
    document.IsFull := by
  obtain ⟨text, -, hparse⟩ := h
  exact Toml.isFull_of_parse hparse

theorem IsDocument.unique {bytes : List UInt8} {document document' : Table} (h : IsDocument bytes document)
    (h' : IsDocument bytes document') : document = document' := by
  obtain ⟨text, hdecode, hparse⟩ := h
  obtain ⟨text', hdecode', hparse'⟩ := h'
  cases hdecode.symm.trans hdecode'
  cases hparse.symm.trans hparse'
  rfl

/-- The bytes of a text of plain characters. -/
def asciiBytes (text : String) : List UInt8 :=
  text.toList.map fun c => c.toNat.toUInt8

/-- What is read from a file is its document, or a reason why it has none. -/
theorem readDocument_file (d : Diagnoses) (path : String) (bytes : List UInt8) :
    (∃ document, IsDocument bytes document ∧ readDocument d path (.file bytes) = .ok (.table document)) ∨
      (∀ document, ¬ IsDocument bytes document) ∧
        ∃ reason, readDocument d path (.file bytes) = .error reason := by
  cases hdecode : Text.decode bytes with
  | error e =>
    refine .inr ⟨?_, e.message, by simp only [readDocument, hdecode]⟩
    rintro document ⟨text, htext, -⟩
    rw [hdecode] at htext
    cases htext
  | ok text =>
    cases hparse : Toml.parse text with
    | error e =>
      refine .inr ⟨?_, e.message (d.document text), by simp only [readDocument, hdecode, hparse]⟩
      rintro document ⟨text', htext, hdocument⟩
      rw [hdecode] at htext
      cases htext
      rw [hparse] at hdocument
      cases hdocument
    | ok document =>
      exact .inl ⟨document, ⟨text, hdecode, hparse⟩, by simp only [readDocument, hdecode, hparse]⟩

theorem readDocument_eq_ok_iff {d : Diagnoses} {path : String} {n : Node} {v : Value} :
    readDocument d path n = .ok v
      ↔ ∃ bytes document, n = .file bytes ∧ IsDocument bytes document ∧ v = .table document := by
  constructor
  · intro h
    cases n with
    | dir es => cases h
    | file bytes =>
      rcases readDocument_file d path bytes with ⟨document, hdocument, hread⟩ | ⟨-, reason, hread⟩
      · rw [hread] at h
        cases h
        exact ⟨bytes, document, rfl, hdocument, rfl⟩
      · rw [hread] at h
        cases h
  · rintro ⟨bytes, document, rfl, ⟨text, hdecode, hparse⟩, rfl⟩
    simp only [readDocument, hdecode, hparse]

/-! ## §2. Names in tables. -/

theorem Value.holds_table (name : String) (t : Table) :
    (Value.table t).holds name = .ok (t.get? name).isSome := by
  rw [← Entries.has_eq_isSome_get?]
  rfl

theorem Value.item_table (name : String) (t : Table) :
    (Value.table t).item name = .ok ((t.get? name).getD .none) := rfl

/-- A table gives the value of the first name that it holds. -/
theorem Value.firstItem_table (t : Table) (names : List String) :
    (Value.table t).firstItem names = .ok ((names.findSome? t.get?).getD .none) := by
  induction names with
  | nil => rfl
  | cons name names ih =>
    rw [firstItem, holds_table, List.findSome?_cons]
    cases hname : t.get? name with
    | none => exact ih
    | some v =>
      show (Value.table t).item name = _
      rw [item_table, hname]

/-- What holds names without values gives nothing if it holds none of them, and else a fault. -/
theorem Value.firstItem_cases {v : Value} {p : String → Bool} (hholds : ∀ name, v.holds name = .ok (p name))
    (hitem : ∀ name, ∃ f, v.item name = .error f) (names : List String) :
    v.firstItem names = .ok .none ∧ (∀ name ∈ names, p name = false) ∨
      ∃ f, v.firstItem names = .error f ∧ ∃ name ∈ names, p name = true := by
  induction names with
  | nil => exact .inl ⟨rfl, by simp⟩
  | cons name names ih =>
    rw [firstItem, hholds]
    cases hname : p name with
    | true =>
      obtain ⟨f, hf⟩ := hitem name
      exact .inr ⟨f, hf, name, List.mem_cons_self, hname⟩
    | false =>
      rcases ih with ⟨hnone, hnames⟩ | ⟨f, hf, other, hother, hheld⟩
      · exact .inl ⟨hnone, List.forall_mem_cons.mpr ⟨hname, hnames⟩⟩
      · exact .inr ⟨f, hf, other, List.mem_cons_of_mem _ hother, hheld⟩

/-- The part of a document is looked for in its entry `tool`. -/
theorem toolTable_table (document : Table) :
    toolTable (.table document) =
      match document.get? "tool" with
      | some tool => tool.firstItem toolNames
      | none => .ok .none := by
  unfold toolTable
  rw [Value.holds_table, Value.item_table]
  cases document.get? "tool" <;> rfl

/-! ## §3. Whether there is a part for this program. -/

/-- The entry `tool` of a document, if there is one, is a table. -/
def ToolIsTable (document : Table) : Prop :=
  ∀ tool, document.get? "tool" = some tool → ∃ t, tool = .table t

/-- Asking a table for one name after another finds out whether it holds one of them. -/
theorem foldlM_holds_table (t : Table) (names : List String) (found : Bool) :
    names.foldlM (fun found name => if found then pure true else (Value.table t).holds name) found
      = .ok (found || names.any fun name => (t.get? name).isSome) := by
  induction names generalizing found with
  | nil => simp [pure, Except.pure]
  | cons name names ih =>
    rw [List.foldlM_cons, List.any_cons]
    cases found with
    | true => exact ih true
    | false =>
      rw [if_neg (by simp), Value.holds_table]
      exact ih _

/-- A document holds a part for this program exactly if its table `tool` holds one of the names. -/
theorem hasTool_of_get? {document t : Table} (h : document.get? "tool" = some (.table t)) :
    Workspace.hasTool (.table document) = toolNames.any fun name => (t.get? name).isSome := by
  have hasked := foldlM_holds_table t toolNames false
  simp only [Value.holds_table, Bool.false_or] at hasked
  simp only [Workspace.hasTool, Value.holds_table, Value.item_table, h, Option.isSome_some,
    Option.getD_some, bind, Except.bind, if_true]
  rw [hasked]
  rfl

/-- **A document has a part for this program exactly if reading it gives one.** The value that stands for
none is no value of a document, so what is found under a name is never taken for it. -/
theorem hasTool_table_iff {document : Table} (hfull : document.IsFull) (htool : ToolIsTable document) :
    Workspace.hasTool (.table document) = true
      ↔ ∃ part, toolTable (.table document) = .ok part ∧ part ≠ .none := by
  rw [toolTable_table]
  cases hentry : document.get? "tool" with
  | none =>
    have hnone : Workspace.hasTool (.table document) = false := by
      unfold Workspace.hasTool
      rw [Value.holds_table, hentry]
      rfl
    simp [hnone]
  | some tool =>
    obtain ⟨t, rfl⟩ := htool tool hentry
    have ht : Table.IsFull t := by
      cases hfull.get? hentry with
      | table h => exact h
    rw [hasTool_of_get? hentry]
    simp only [Value.firstItem_table]
    cases hfound : toolNames.findSome? (Entries.get? t) with
    | none =>
      rw [List.findSome?_eq_none_iff] at hfound
      simp_all
    | some v =>
      obtain ⟨name, hname, hv⟩ := List.exists_of_findSome?_eq_some hfound
      refine iff_of_true ?_ ⟨v, rfl, (ht.get? hv).ne_none⟩
      exact List.any_eq_true.mpr ⟨name, hname, by rw [hv]; rfl⟩

end DocLint
