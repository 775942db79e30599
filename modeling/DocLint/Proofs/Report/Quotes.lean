import DocLint.Check.Docstring
import DocLint.Proofs.Params.Mismatch
import DocLint.Proofs.Text.Basic

/-!
DocLint.Proofs.Report.Quotes: the texts that messages quote.

A message is wording with texts between apostrophes: names, titles, types, lines of the docstring. The
wording never holds what stands between the messages of a finding. Main result: `holdsSeparator_message`, a
message holds the separator exactly if one of the texts that it quotes does.
-/

namespace DocLint

/-- Whether a text holds what stands between the messages of a finding. -/
def holdsSeparator (s : String) : Bool :=
  Text.contains s.toList messageSeparator.toList

/-! ## §1. Texts put together. -/

theorem holdsSeparator_append (a b : String) :
    holdsSeparator (a ++ b)
      = (holdsSeparator a || holdsSeparator b
          || (a.toList.getLast? == some ';' && b.toList.head? == some ' ')) := by
  unfold holdsSeparator
  rw [String.toList_append]
  exact Text.contains_append_two a.toList b.toList

/-- Whether a text can open a message: it neither holds the separator nor ends in its first character. -/
def isOpening (s : String) : Bool :=
  !holdsSeparator s && s.toList.getLast? != some ';'

/-- Whether a text can stand behind any other: it is not empty, can open a message, and does not start
with the second character of the separator. -/
def isClosing (s : String) : Bool :=
  isOpening s && !s.toList.isEmpty && s.toList.head? != some ' '

theorem isOpening_iff {s : String} :
    isOpening s = true ↔ holdsSeparator s = false ∧ s.toList.getLast? ≠ some ';' := by
  simp [isOpening]

theorem isClosing_iff {s : String} :
    isClosing s = true ↔ isOpening s = true ∧ s.toList ≠ [] ∧ s.toList.head? ≠ some ' ' := by
  simp [isClosing, and_assoc]

/-- A message that holds the separator exactly if one of the texts `ts` does, and that the separator
cannot begin at the end of. -/
structure Quotes (m : String) (ts : List String) : Prop where
  /-- Only the texts can hold the separator. -/
  holds : holdsSeparator m = ts.any holdsSeparator
  /-- The separator does not begin at the end. -/
  last : m.toList.getLast? ≠ some ';'

namespace Quotes

variable {m n t : String} {ts us : List String}

/-- Wording quotes nothing. -/
theorem wording (h : isOpening m = true) : Quotes m [] := by
  obtain ⟨hfree, hlast⟩ := isOpening_iff.mp h
  exact ⟨hfree, hlast⟩

/-- Two messages put together quote what both quote. -/
theorem append (hm : Quotes m ts) (hn : Quotes n us) : Quotes (m ++ n) (ts ++ us) := by
  refine ⟨?_, ?_⟩
  · rw [holdsSeparator_append, hm.holds, hn.holds, List.any_append, beq_false_of_ne hm.last]
    simp
  · rw [String.toList_append, List.getLast?_append]
    cases hlast : n.toList.getLast? with
    | none => simpa using hm.last
    | some c =>
      have hc := hn.last
      rw [hlast] at hc
      simpa using hc

/-- A text and the wording behind it. -/
theorem quote (h : isClosing n = true) : Quotes (t ++ n) [t] := by
  obtain ⟨hopen, hne, hhead⟩ := isClosing_iff.mp h
  obtain ⟨hfree, hlast⟩ := isOpening_iff.mp hopen
  refine ⟨?_, ?_⟩
  · rw [holdsSeparator_append, hfree, beq_false_of_ne hhead]
    simp
  · rw [String.toList_append, List.getLast?_append_of_ne_nil _ hne]
    exact hlast

/-- A message, a text that it quotes, and the wording behind it. -/
theorem snoc (hm : Quotes m ts) (h : isClosing n = true) : Quotes (m ++ t ++ n) (ts ++ [t]) := by
  rw [String.append_assoc]
  exact hm.append (quote h)

end Quotes

/-- Wording between texts adds no separator. -/
theorem holdsSeparator_intercalate {sep : String} (h : isClosing sep = true) (ts : List String) :
    holdsSeparator (sep.intercalate ts) = ts.any holdsSeparator := by
  induction ts with
  | nil => rw [String.intercalate_nil]; rfl
  | cons t ts ih =>
    cases ts with
    | nil => simp
    | cons u us =>
      have hq : Quotes (t ++ sep) [t] := .quote h
      rw [String.intercalate_cons_cons, holdsSeparator_append, hq.holds, ih,
        beq_false_of_ne hq.last]
      simp

/-- An opening and a list below it, one line each, hold the separator if an item does. -/
theorem holdsSeparator_itemized {opening : String} (h : isOpening opening = true) (es : List String) :
    holdsSeparator (opening ++ "\n  - ".intercalate ("" :: es)) = es.any holdsSeparator := by
  obtain ⟨hfree, hlast⟩ := isOpening_iff.mp h
  have hempty : holdsSeparator "" = false := rfl
  rw [holdsSeparator_append, beq_false_of_ne hlast, hfree,
    holdsSeparator_intercalate (by decide), List.any_cons, hempty]
  simp

/-- The texts of several messages with wording between them. -/
theorem any_holdsSeparator_map {α : Type} {f : α → String} {g : α → List String} {xs : List α}
    (h : ∀ x ∈ xs, holdsSeparator (f x) = (g x).any holdsSeparator) :
    (xs.map f).any holdsSeparator = (xs.flatMap g).any holdsSeparator := by
  induction xs with
  | nil => rfl
  | cons x xs ih =>
    rw [List.map_cons, List.any_cons, List.flatMap_cons, List.any_append, h x List.mem_cons_self,
      ih fun y hy => h y (List.mem_cons_of_mem _ hy)]

/-- Writing all quotes alike does not touch the separator. -/
theorem holdsSeparator_shownType (t : String) :
    holdsSeparator (Params.shownType t) = holdsSeparator t := by
  unfold holdsSeparator Params.shownType
  rw [String.toList_ofList]
  generalize t.toList = cs
  have hsep : messageSeparator.toList = [';', ' '] := rfl
  rw [hsep]
  induction cs with
  | nil => rfl
  | cons c cs ih =>
    have hmap : Text.replaceChar '\'' '"' (c :: cs)
        = (if c == '\'' then '"' else c) :: Text.replaceChar '\'' '"' cs := rfl
    rw [hmap, Text.contains_cons, Text.contains_cons, ih, Text.startsWith_two, Text.startsWith_two]
    have hfirst : (';' == if c == '\'' then '"' else c) = (';' == c) := by
      by_cases hc : c = '\''
      · subst hc
        rfl
      · rw [if_neg (by simpa using hc)]
    have hsecond : ((Text.replaceChar '\'' '"' cs).head? == some ' ') = (cs.head? == some ' ') := by
      cases cs with
      | nil => rfl
      | cons d ds =>
        show (some (if d == '\'' then '"' else d) == some ' ') = (some d == some ' ')
        by_cases hd : d = '\''
        · subst hd
          rfl
        · rw [if_neg (by simpa using hd)]
    rw [hfirst, hsecond]

/-! ## §2. The texts that each message quotes. -/

namespace Params

/-- The parameter that a message about a remark quotes. -/
def OptionalIssue.texts : OptionalIssue → List String
  | .noDefault p | .noRemark p => [p]

/-- The texts that a message about types quotes. -/
def TypeMismatch.texts (m : TypeMismatch) : List String :=
  [m.param, m.annotation, m.documented]

/-- The texts that a message about types quotes. -/
def TypeIssue.texts : TypeIssue → List String
  | .optional issues => issues.flatMap (·.texts)
  | .unannotated p => [p]
  | .undocumented p a => [p, a]
  | .mismatch ms => ms.flatMap (·.texts)

/-- The names that a message about names quotes. -/
def NameIssue.texts : NameIssue → List String
  | .noList => []
  | .mismatch missing extra => missing ++ extra

end Params

/-- The texts that a message quotes. -/
def Issue.texts : Issue → List String
  | .names issue => issue.texts
  | .types issue => issue.texts
  | .returnsAndYields => []
  | .missingSection name | .outOfOrder name | .undefined name | .unexpectedAdmonition name => [name]
  | .admonitionColon name line | .missingColon name line => [name, line]
  | .wrongAdmonition a b c | .titleCase a b c | .unparenthesized a b c => [a, b, c]

namespace Params

theorem OptionalIssue.quotes (issue : OptionalIssue) : Quotes issue.message issue.texts := by
  cases issue with
  | noDefault p => exact (Quotes.wording (by decide)).snoc (by decide)
  | noRemark p => exact (Quotes.wording (by decide)).snoc (by decide)

theorem holdsSeparator_optionalText (es : List String) :
    holdsSeparator (optionalText es) = es.any holdsSeparator := by
  match es with
  | [] => exact holdsSeparator_itemized (by decide) []
  | [e] => simp [optionalText]
  | e :: f :: es => exact holdsSeparator_itemized (by decide) (e :: f :: es)

theorem TypeMismatch.holdsSeparator_text (m : TypeMismatch) :
    holdsSeparator m.text = m.texts.any holdsSeparator := by
  have h : Quotes m.text [m.param, shownType m.annotation, shownType m.documented] :=
    (((Quotes.wording (by decide)).snoc (by decide)).snoc (by decide)).snoc
      (by decide)
  rw [h.holds]
  simp [texts, holdsSeparator_shownType]

theorem TypeIssue.holdsSeparator_message (issue : TypeIssue) :
    holdsSeparator issue.message = issue.texts.any holdsSeparator := by
  cases issue with
  | optional issues =>
    show holdsSeparator (optionalText _) = _
    rw [holdsSeparator_optionalText]
    exact any_holdsSeparator_map fun issue _ => issue.quotes.holds
  | unannotated p => exact ((Quotes.wording (by decide)).snoc (by decide)).holds
  | undocumented p a =>
    exact (((Quotes.wording (by decide)).snoc (by decide)).snoc
      (by decide)).holds
  | mismatch ms =>
    show holdsSeparator (mismatchText ms) = _
    unfold mismatchText
    rw [holdsSeparator_itemized (by decide)]
    exact any_holdsSeparator_map fun m _ => m.holdsSeparator_text

theorem Mismatch.quotes_pairText (p : String × String) : Quotes (pairText p) [p.1, p.2] := by
  have hnames : Quotes ("  - Parameter '" ++ p.1 ++ "' found in docstring as '" ++ p.2 ++
      "'. Please remove the ") [p.1, p.2] :=
    ((Quotes.wording (by decide)).snoc (by decide)).snoc (by decide)
  have hstars : Quotes (if starCount p.2 == 1 then "asterisk" else "asterisks") [] := by
    split
    · exact .wording (by decide)
    · exact .wording (by decide)
  exact (hnames.append hstars).append (.wording (by decide))

theorem Mismatch.any_sideText {label : String} (h : isOpening ("  - " ++ label ++ ": '") = true)
    (names : List String) :
    (sideText label names).any holdsSeparator = names.any holdsSeparator := by
  unfold sideText
  cases names with
  | nil => rfl
  | cons n ns =>
    have hline : Quotes ("  - " ++ label ++ ": '" ++ "', '".intercalate (n :: ns) ++ "'")
        ["', '".intercalate (n :: ns)] := (Quotes.wording h).snoc (by decide)
    have hnames : holdsSeparator ("', '".intercalate (n :: ns)) = (n :: ns).any holdsSeparator :=
      holdsSeparator_intercalate (by decide) _
    rw [List.isEmpty_cons, if_neg (by decide), List.any_cons, List.any_nil, Bool.or_false, hline.holds,
      List.any_cons, List.any_nil, Bool.or_false, hnames]

theorem Mismatch.any_flatMap_pair (f : String → Bool) (ps : List (String × String)) :
    (ps.flatMap fun p => [p.1, p.2]).any f = ((ps.map (·.1)).any f || (ps.map (·.2)).any f) := by
  induction ps with
  | nil => rfl
  | cons p ps ih =>
    rw [List.flatMap_cons, List.any_append, ih, List.map_cons, List.map_cons, List.any_cons,
      List.any_cons, List.any_cons, List.any_cons, List.any_nil]
    simp only [Bool.or_false]
    ac_rfl

/-- A report of names quotes every name given, whether it is paired or listed. -/
theorem NameIssue.holdsSeparator_message (issue : NameIssue) :
    holdsSeparator issue.message = issue.texts.any holdsSeparator := by
  cases issue with
  | noList => decide
  | mismatch missing extra =>
    have hopen : Quotes "Parameter mismatch:\n" [] := .wording (by decide)
    have hpairs : ((Mismatch.ofNames missing extra).pairs.map Mismatch.pairText).any holdsSeparator
        = ((Mismatch.ofNames missing extra).pairs.flatMap fun p => [p.1, p.2]).any holdsSeparator :=
      any_holdsSeparator_map fun p _ => (Mismatch.quotes_pairText p).holds
    -- pairing only distributes the names
    have hpairing := Mismatch.isPairing_ofNames missing extra
    have hmissing : missing.any holdsSeparator = _ := hpairing.missing_perm.any_eq
    have hextra : extra.any holdsSeparator = _ := hpairing.extra_perm.any_eq
    show holdsSeparator (Mismatch.message _) = (missing ++ extra).any holdsSeparator
    unfold Mismatch.message
    rw [holdsSeparator_append, beq_false_of_ne hopen.last, hopen.holds,
      holdsSeparator_intercalate (by decide), List.any_append, List.any_append, hpairs,
      Mismatch.any_flatMap_pair, Mismatch.any_sideText (by decide), Mismatch.any_sideText (by decide),
      List.any_append, hmissing, hextra, List.any_append, List.any_append]
    ac_rfl

end Params

/-- **What can hold the separator.** A message holds it exactly if a text that it quotes does. -/
theorem Issue.holdsSeparator_message (issue : Issue) :
    holdsSeparator issue.message = issue.texts.any holdsSeparator := by
  cases issue with
  | names issue => exact issue.holdsSeparator_message
  | types issue => exact issue.holdsSeparator_message
  | returnsAndYields => decide
  | missingSection name | outOfOrder name | undefined name | unexpectedAdmonition name =>
    exact ((Quotes.wording (by decide)).snoc (by decide)).holds
  | admonitionColon name line | missingColon name line =>
    exact (((Quotes.wording (by decide)).snoc (by decide)).snoc
      (by decide)).holds
  | wrongAdmonition a b c | titleCase a b c | unparenthesized a b c =>
    exact ((((Quotes.wording (by decide)).snoc (by decide)).snoc
      (by decide)).snoc (by decide)).holds

end DocLint
