import DocLint.Proofs.Check.Docstring
import DocLint.Proofs.Check.Parentheses
import DocLint.Proofs.Report.Quotes
import DocLint.Report.Message

/-!
DocLint.Proofs.Report.Separator: when the messages of a finding can be told apart.

The messages of a finding are joined by a separator and taken apart at it for the report. No message starts
or ends with a blank, so nothing is lost at the seams. What is left is the separator inside a message: the
report shows the messages that were joined exactly if no text that they quote holds it.
-/

namespace DocLint

open Text (isSpace trim)

/-! ## §1. Messages without blanks at their ends. -/

/-- Whether a text starts with a character that is no blank. -/
def startsSolid (s : String) : Bool :=
  s.toList.head?.any (!isSpace ·)

/-- Whether a text ends with a character that is no blank. -/
def endsSolid (s : String) : Bool :=
  s.toList.getLast?.any (!isSpace ·)

theorem startsSolid_append {a b : String} (h : startsSolid a = true) : startsSolid (a ++ b) = true := by
  unfold startsSolid at *
  rw [String.toList_append]
  cases hcs : a.toList with
  | nil => rw [hcs] at h; exact absurd h (by decide)
  | cons c cs => rw [hcs] at h; exact h

theorem endsSolid_append {a b : String} (h : endsSolid b = true) : endsSolid (a ++ b) = true := by
  unfold endsSolid at *
  rw [String.toList_append]
  have hne : b.toList ≠ [] := by
    intro hnil
    rw [hnil] at h
    exact absurd h (by decide)
  rw [List.getLast?_append_of_ne_nil _ hne]
  exact h

theorem endsSolid_intercalate {sep : String} {ts : List String} (hne : ts ≠ [])
    (h : ∀ t ∈ ts, endsSolid t = true) : endsSolid (sep.intercalate ts) = true := by
  induction ts with
  | nil => exact absurd rfl hne
  | cons t ts ih =>
    cases ts with
    | nil => simpa using h
    | cons u us =>
      rw [String.intercalate_cons_cons]
      exact endsSolid_append (ih (by simp) fun x hx => h x (List.mem_cons_of_mem _ hx))

theorem endsSolid_itemized {opening : String} (ho : endsSolid opening = true) {es : List String}
    (h : ∀ e ∈ es, endsSolid e = true) :
    endsSolid (opening ++ "\n  - ".intercalate ("" :: es)) = true := by
  cases es with
  | nil => simpa using ho
  | cons e es =>
    rw [String.intercalate_cons_cons]
    exact endsSolid_append (endsSolid_append (endsSolid_intercalate (by simp) h))

/-- A message that trimming leaves alone, and that is not empty. -/
structure IsNeat (m : String) : Prop where
  /-- It starts with no blank. -/
  starts : startsSolid m = true
  /-- It ends with no blank. -/
  ends : endsSolid m = true

theorem IsNeat.toList_ne_nil {m : String} (h : IsNeat m) : m.toList ≠ [] := by
  intro hnil
  have hstarts := h.starts
  unfold startsSolid at hstarts
  rw [hnil] at hstarts
  exact absurd hstarts (by decide)

theorem IsNeat.trim_toList {m : String} (h : IsNeat m) : trim m.toList = m.toList := by
  obtain ⟨hstarts, hends⟩ := h
  apply Text.trim_eq_self
  · intro c hc
    unfold startsSolid at hstarts
    rw [hc] at hstarts
    simpa using hstarts
  · intro c hc
    unfold endsSolid at hends
    rw [hc] at hends
    simpa using hends

theorem startsSolid_snoc {m t n : String} (h : startsSolid m = true) :
    startsSolid (m ++ t ++ n) = true :=
  startsSolid_append (startsSolid_append h)

/-- A quoted text between wording. -/
theorem IsNeat.quoted {m t n : String} (hm : startsSolid m = true) (hn : endsSolid n = true) :
    IsNeat (m ++ t ++ n) :=
  ⟨startsSolid_snoc hm, endsSolid_append hn⟩

/-! ## §2. Joining and taking apart. -/

theorem toList_joinMessages (ms : List String) :
    (joinMessages ms).toList = Text.joinWith [';', ' '] (ms.map String.toList) := by
  unfold joinMessages
  rw [Text.toList_intercalate]
  rfl

/-- Taking apart gives only parts without the separator. -/
theorem holdsSeparator_of_mem_parts {m message : String} (h : m ∈ Report.parts message) :
    holdsSeparator m = false := by
  -- a part is what trimming leaves of a piece, and so inside it
  have hpart : ∀ cs : Text, Text.contains cs messageSeparator.toList = false →
      holdsSeparator (String.ofList (trim cs)) = false := by
    intro cs hcs
    unfold holdsSeparator
    rw [String.toList_ofList, ← Bool.not_eq_true]
    intro hin
    rw [Text.contains_of_infix (Text.trim_infix cs) hin] at hcs
    exact absurd hcs (by decide)
  unfold Report.parts at h
  simp only at h
  split at h
  · obtain ⟨cs, hcs, rfl⟩ := List.mem_map.mp h
    obtain ⟨piece, hpiece, rfl⟩ := List.mem_map.mp (List.mem_filter.mp hcs).1
    exact hpart piece (Text.not_contains_of_mem_splitOn hpiece)
  · rename_i hfree
    rw [List.mem_singleton.mp h]
    exact hpart _ (by simpa using hfree)

/-- **Joined messages can be taken apart** exactly if none of them holds the separator. -/
theorem parts_joinMessages {ms : List String} (hne : ms ≠ []) (hneat : ∀ m ∈ ms, IsNeat m) :
    Report.parts (joinMessages ms) = ms ↔ ∀ m ∈ ms, holdsSeparator m = false := by
  constructor
  · intro h m hm
    rw [← h] at hm
    exact holdsSeparator_of_mem_parts hm
  · intro hfree
    have hpieces : Text.splitOn [';', ' '] (joinMessages ms).toList = ms.map String.toList := by
      rw [toList_joinMessages]
      apply Text.splitOn_joinWith (by decide) (by simpa using hne)
      intro cs hcs
      obtain ⟨m, hm, rfl⟩ := List.mem_map.mp hcs
      exact hfree m hm
    have htrim : (ms.map String.toList).map trim = ms.map String.toList := by
      rw [List.map_map]
      exact List.map_congr_left fun m hm => (hneat m hm).trim_toList
    have hkept : (ms.map String.toList).filter (!·.isEmpty) = ms.map String.toList := by
      rw [List.filter_eq_self]
      intro cs hcs
      obtain ⟨m, hm, rfl⟩ := List.mem_map.mp hcs
      simpa using (hneat m hm).toList_ne_nil
    have hback : (ms.map String.toList).map String.ofList = ms := by
      rw [List.map_map]
      exact (List.map_congr_left fun m _ => String.ofList_toList).trans (List.map_id ms)
    show (if Text.contains (joinMessages ms).toList [';', ' '] then
      (((Text.splitOn [';', ' '] (joinMessages ms).toList).map trim).filter (!·.isEmpty)).map
        String.ofList else [String.ofList (trim (joinMessages ms).toList)]) = ms
    split
    · rw [hpieces, htrim, hkept, hback]
    · -- a message without the separator is its own only piece
      rename_i hnone
      rw [Text.splitOn_of_not_contains (by simpa using hnone)] at hpieces
      calc [String.ofList (trim (joinMessages ms).toList)]
          = (([(joinMessages ms).toList]).map trim).map String.ofList := rfl
        _ = ms := by rw [hpieces, htrim, hback]

/-! ## §3. The messages of issues. -/

namespace Params

theorem OptionalIssue.isNeat_message (issue : OptionalIssue) : IsNeat issue.message := by
  cases issue with
  | noDefault p | noRemark p => exact .quoted (by decide) (by decide)

theorem isNeat_optionalText {es : List String} (h : ∀ e ∈ es, IsNeat e) :
    IsNeat (optionalText es) := by
  have hends : ∀ e ∈ es, endsSolid e = true := fun e he => (h e he).ends
  match es with
  | [] => exact ⟨startsSolid_append (by decide), endsSolid_itemized (by decide) hends⟩
  | [e] => exact h e (by simp)
  | _ :: _ :: _ =>
    exact ⟨startsSolid_append (by decide), endsSolid_itemized (by decide) hends⟩

theorem TypeIssue.isNeat_message (issue : TypeIssue) : IsNeat issue.message := by
  cases issue with
  | optional issues =>
    refine isNeat_optionalText fun e he => ?_
    obtain ⟨issue, _, rfl⟩ := List.mem_map.mp he
    exact issue.isNeat_message
  | unannotated p => exact .quoted (by decide) (by decide)
  | undocumented p a => exact .quoted (startsSolid_snoc (by decide)) (by decide)
  | mismatch ms =>
    refine ⟨startsSolid_append (by decide), endsSolid_itemized (by decide) ?_⟩
    intro e he
    obtain ⟨m, _, rfl⟩ := List.mem_map.mp he
    exact endsSolid_append (by decide)

theorem Mismatch.endsSolid_sideText {label t : String} {names : List String}
    (h : t ∈ sideText label names) : endsSolid t = true := by
  unfold sideText at h
  split at h
  · exact absurd h (by simp)
  · rw [List.mem_singleton.mp h]
    exact endsSolid_append (by decide)

theorem Mismatch.sideText_ne_nil {label : String} {names : List String} (h : names ≠ []) :
    sideText label names ≠ [] := by
  unfold sideText
  rw [if_neg (by simpa using h)]
  simp

theorem NameIssue.isNeat_mismatch {missing extra : List String} (h : missing ≠ [] ∨ extra ≠ []) :
    IsNeat (NameIssue.mismatch missing extra).message := by
  refine ⟨startsSolid_append (by decide), endsSolid_append (endsSolid_intercalate ?_ ?_)⟩
  · rcases Mismatch.ofNames_ne h with hpairs | hmissing | hextra
    · simp [hpairs]
    · simp [Mismatch.sideText_ne_nil hmissing]
    · simp [Mismatch.sideText_ne_nil hextra]
  · intro t ht
    simp only [List.mem_append] at ht
    rcases ht with (ht | ht) | ht
    · obtain ⟨p, _, rfl⟩ := List.mem_map.mp ht
      exact endsSolid_append (by decide)
    · exact Mismatch.endsSolid_sideText ht
    · exact Mismatch.endsSolid_sideText ht

/-- Names are only reported if there are some. -/
theorem isNeat_of_nameIssue? {s : Signature} {doc : Text} {issue : NameIssue}
    (h : nameIssue? s doc = some issue) : IsNeat issue.message := by
  unfold nameIssue? at h
  simp only at h
  split at h
  · exact absurd h (by simp)
  split at h
  · rw [← Option.some.inj h]
    exact ⟨by decide, by decide⟩
  split at h
  · exact absurd h (by simp)
  · rename_i hsome
    rw [← Option.some.inj h]
    apply NameIssue.isNeat_mismatch
    by_contra hnone
    simp only [not_or, not_not] at hnone
    exact hsome (by rw [hnone.1, hnone.2]; rfl)

end Params

/-- Whether an issue is about the names of parameters. -/
def Issue.isNames : Issue → Bool
  | .names _ => true
  | _ => false

theorem Issue.isNeat_message {issue : Issue} (h : issue.isNames = false) : IsNeat issue.message := by
  cases issue with
  | names issue => cases h
  | types issue => exact issue.isNeat_message
  | returnsAndYields => exact ⟨by decide, by decide⟩
  | missingSection name | outOfOrder name | undefined name | unexpectedAdmonition name =>
    exact .quoted (by decide) (by decide)
  | admonitionColon a b | missingColon a b =>
    exact .quoted (startsSolid_snoc (by decide)) (by decide)
  | wrongAdmonition a b c | titleCase a b c | unparenthesized a b c =>
    exact .quoted (startsSolid_snoc (startsSolid_snoc (by decide))) (by decide)

/-! ## §4. Where names are reported. -/

namespace Rules

variable {r : Rules} {i : Item} {doc : Text} {issue : Issue}

theorem isNames_of_admonitionIssue? {a : Docstring.Admonition} (h : r.admonitionIssue? a = some issue) :
    issue.isNames = false := by
  unfold admonitionIssue? at h
  grind [Issue.isNames]

theorem isNames_of_titleColonIssue? {a : Docstring.Admonition}
    (h : r.titleColonIssue? a = some issue) : issue.isNames = false := by
  unfold titleColonIssue? at h
  grind [Issue.isNames]

theorem isNames_of_mem_formIssues (h : issue ∈ r.formIssues doc) : issue.isNames = false := by
  unfold formIssues at h
  simp only [List.mem_append] at h
  rcases h with (((((horder | hboth) | hundefined) | hadmonition) | hcolon) | hcase) | hparen
  · obtain ⟨name, _, rfl⟩ := List.mem_map.mp horder
    rfl
  · split at hboth
    · rw [List.mem_singleton.mp hboth]
      rfl
    · exact absurd hboth (by simp)
  · split at hundefined
    · exact absurd hundefined (by simp)
    · obtain ⟨name, _, rfl⟩ := List.mem_map.mp hundefined
      rfl
  · obtain ⟨a, _, ha⟩ := List.mem_filterMap.mp hadmonition
    exact isNames_of_admonitionIssue? ha
  · rcases List.mem_append.mp hcolon with htitle | hmissing
    · obtain ⟨a, _, ha⟩ := List.mem_filterMap.mp htitle
      exact isNames_of_titleColonIssue? ha
    · obtain ⟨line, _, hline⟩ := List.mem_filterMap.mp hmissing
      grind [Issue.isNames]
  · obtain ⟨line, _, hline⟩ := List.mem_filterMap.mp hcase
    grind [Issue.isNames]
  · obtain ⟨found, -, hissues⟩ := exists_isReport r.stands_nil (Text.lines doc)
    rw [parenIssues, hissues] at hparen
    obtain ⟨e, _, rfl⟩ := List.mem_map.mp hparen
    rfl

theorem isNeat_of_contentIssue? {s : Section} (h : r.contentIssue? i doc s = some issue) :
    IsNeat issue.message := by
  unfold contentIssue? at h
  split at h
  · split at h
    · split at h
      · rename_i sig _ _ nameIssue hnames
        rw [← Option.some.inj h]
        exact Params.isNeat_of_nameIssue? hnames
      · split at h
        · obtain ⟨typeIssue, _, rfl⟩ := Option.map_eq_some_iff.mp h
          exact typeIssue.isNeat_message
        · exact absurd h (by simp)
    · exact absurd h (by simp)
  · exact absurd h (by simp)

/-- Every message about a docstring starts and ends without a blank. -/
theorem isNeat_of_mem_issues (h : issue ∈ r.issues i doc) : IsNeat issue.message := by
  unfold issues at h
  simp only [List.mem_append] at h
  rcases h with (hmissing | hcontent) | hform
  · obtain ⟨s, _, rfl⟩ := List.mem_map.mp hmissing
    exact Issue.isNeat_message rfl
  · obtain ⟨s, _, hs⟩ := List.mem_filterMap.mp hcontent
    exact isNeat_of_contentIssue? hs
  · exact Issue.isNeat_message (isNames_of_mem_formIssues hform)

theorem message_of_checkDocstring? {file : String} {f : Finding}
    (h : r.checkDocstring? file i doc = some f) :
    r.issues i doc ≠ [] ∧ f.message = joinMessages ((r.issues i doc).map (·.message)) := by
  unfold checkDocstring? at h
  split at h
  · exact absurd h (by simp)
  · rename_i hne
    rw [← Option.some.inj h]
    exact ⟨hne, rfl⟩

end Rules

/-- The message of a finding is taken apart into the messages of the issues, in order and as often as
they were found, exactly if no text that they quote holds the separator. -/
theorem parts_message_iff {r : Rules} {i : Item} {doc : Text} {file : String} {f : Finding}
    (h : r.checkDocstring? file i doc = some f) :
    Report.parts f.message = (r.issues i doc).map (·.message)
      ↔ ∀ issue ∈ r.issues i doc, ∀ t ∈ issue.texts, holdsSeparator t = false := by
  obtain ⟨hne, hmessage⟩ := Rules.message_of_checkDocstring? h
  have hneat : ∀ m ∈ (r.issues i doc).map (·.message), IsNeat m := by
    intro m hm
    obtain ⟨issue, hissue, rfl⟩ := List.mem_map.mp hm
    exact Rules.isNeat_of_mem_issues hissue
  rw [hmessage, parts_joinMessages (by simpa using hne) hneat, List.forall_mem_map]
  refine forall₂_congr fun issue _ => ?_
  rw [issue.holdsSeparator_message, List.any_eq_false]
  simp

/-- A docstring with a section title that holds the separator. -/
def semicolonTitle : Text := "!!! note \"a; b\"".toList

/-- A function without parameters. -/
def bareFunction : Item := { kind := .function, name := "f", line := 1 }

/-- What is reported of it where no section is defined. -/
def semicolonFinding : Finding :=
  bareFunction.finding "m.py" "Section 'a; b' found in docstring but not defined in configuration"

/-- One issue that is shown as two. -/
theorem parts_message_semicolon :
    Rules.checkDocstring? { sections := [] } "m.py" bareFunction semicolonTitle = some semicolonFinding ∧
      Report.parts semicolonFinding.message
        ≠ (Rules.issues { sections := [] } bareFunction semicolonTitle).map (·.message) := by
  have hreported : Rules.checkDocstring? { sections := [] } "m.py" bareFunction semicolonTitle
      = some semicolonFinding := by decide +kernel
  have hissues : Rules.issues { sections := [] } bareFunction semicolonTitle = [.undefined "a; b"] := by
    decide +kernel
  refine ⟨hreported, fun heq => ?_⟩
  have hfree := (parts_message_iff hreported).mp heq (.undefined "a; b") (by simp [hissues]) "a; b"
    (by simp [Issue.texts])
  exact absurd hfree (by decide +kernel)

end DocLint
