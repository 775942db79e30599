import DocLint.Check.Docstring
import DocLint.Proofs.Check.Order
import DocLint.Proofs.Check.Parentheses
import DocLint.Proofs.Docstring.Scan
import DocLint.Proofs.Params.Template

/-!
DocLint.Proofs.Check.Template: the docstring for given names and types has no issue of form.

The docstring has two headers, and its entries are quiet, so that nothing in them is taken for another one:
its landmarks stand in order, its only admonition is that of the summary, and each line of the list is an
entry with its type in parentheses. Main result: `formIssues_template`.
-/

namespace DocLint

open Docstring (Quiet isLoud agrees admonitions colonWords)
open Params (IsEntry template entry entryLine entryLines summaryLine heading)

/-! ## §1. Order. -/

/-- The headers of the docstring, without the last colon. -/
def templateFront : Text := "!!! note \"Summary\"\nParams".toList

theorem template_eq (es : List (Text × Text)) : template es = templateFront ++ ':' :: entryLines es := by
  have hfront : summaryLine ++ '\n' :: heading = templateFront ++ [':'] := by decide
  have happend : template es = (summaryLine ++ '\n' :: heading) ++ entryLines es := by simp [template]
  rw [happend, hfront, List.append_assoc]
  rfl

theorem quiet_colon_entryLines {es : List (Text × Text)} (hes : ∀ e ∈ es, IsEntry e) :
    Quiet (':' :: entryLines es) := by
  show Quiet ([':'] ++ entryLines es)
  refine Quiet.append (.singleton _) (Params.quiet_entryLines hes) ?_
  intro y hy
  rw [Params.head?_entryLines hy]
  rfl

/-- Whether a landmark that has the place `k` is a loud literal which agrees with the headers at most where
the summary or the list of parameters stand in their places. -/
def isHeadedAt (k : Nat) (l : Landmark) : Bool :=
  match l.pieces with
  | [.letters pat] => isLoud pat && (List.range templateFront.length).all fun n =>
      !agrees pat ((templateFront ++ [':']).drop n) || (n == 0 && k == 0) || (n == 19 && k == 2)
  | _ => false

theorem isHeadedAt_landmarks :
    ∀ l ∈ defaultRules.landmarks, ∀ k, defaultRules.expectedOrder.idxOf? l.name = some k →
      isHeadedAt k l = true := by
  have htable : ∀ l ∈ (defaultSections ++ defaultRules.floating).filterMap (·.landmark?) ++
      commonHeaders.map (fun h => (⟨[.letters h.1.toList], h.2⟩ : Landmark)),
      ((defaultSections.map (Text.titled ·.name) ++ commonHeaders.map (·.2)).idxOf? l.name).all
        (isHeadedAt · l) = true := by
    decide +kernel
  intro l hl k hk
  unfold Rules.landmarks at hl
  unfold Rules.expectedOrder at hk
  rw [ordered_defaultRules] at hl hk
  have hall := htable l hl
  rwa [hk] at hall

variable {es : List (Text × Text)} (hes : ∀ e ∈ es, IsEntry e)
include hes

/-- A landmark that is found is the summary, or the list of parameters. -/
theorem place_of_found {l : Landmark} (hl : l ∈ defaultRules.landmarks) {n k : Nat}
    (hn : Text.find? l.pieces (template es) = some n)
    (hk : defaultRules.expectedOrder.idxOf? l.name = some k) : n = 0 ∧ k = 0 ∨ n = 19 ∧ k = 2 := by
  have hmatch := (Text.find?_eq_some_iff.mp hn).2.1
  have hheaded := isHeadedAt_landmarks l hl k hk
  unfold isHeadedAt at hheaded
  split at hheaded
  · next pat hpieces =>
    rw [Bool.and_eq_true] at hheaded
    rw [hpieces, template_eq] at hmatch
    obtain ⟨hlt, hagrees⟩ :=
      Docstring.agrees_of_matchesAt hheaded.1 (quiet_colon_entryLines hes) hmatch
    have hplace := List.all_eq_true.mp hheaded.2 n (List.mem_range.mpr hlt)
    simpa [hagrees] using hplace
  · cases hheaded

theorem orderIssues_template : defaultRules.orderIssues (template es) = [] := by
  apply Rules.orderIssues_eq_nil
  intro la hla i hi lb hlb j hj hij k hk l hl
  have ha := place_of_found hes hla hi hk
  have hb := place_of_found hes hlb hj hl
  omega

theorem returnsAndYields_template : returnsAndYields (template es) = false := by
  have hreturns : Text.contains (template es) "Returns:".toList = false := by
    by_contra h
    rw [Bool.not_eq_false, template_eq] at h
    obtain ⟨n, hn, hagrees⟩ :=
      Docstring.agrees_of_contains (by decide) (quiet_colon_entryLines hes) h
    have hnone : ∀ n < templateFront.length,
        agrees "Returns:".toList ((templateFront ++ [':']).drop n) = false := by
      decide
    rw [hnone n hn] at hagrees
    cases hagrees
  unfold returnsAndYields
  rw [hreturns]
  rfl

/-! ## §2. Admonitions and section names. -/

/-- The admonition of the summary. -/
def summaryAdmonition : Docstring.Admonition :=
  { word := "note".toList, title := "Summary".toList, written := summaryLine }

theorem admonitions_template : admonitions (template es) = [summaryAdmonition] := by
  have hfirst : Docstring.admonitionAt? (template es)
      = some (summaryAdmonition, '\n' :: (heading ++ entryLines es)) := rfl
  have hrest : admonitions ('\n' :: (heading ++ entryLines es)) = [] := by
    have hmarks : '!' ∉ '\n' :: heading ∧ '?' ∉ '\n' :: heading := by decide
    have hplain : ∀ c ∈ '\n' :: heading, c ≠ '!' ∧ c ≠ '?' := by
      intro c hc
      exact ⟨fun h => hmarks.1 (h ▸ hc), fun h => hmarks.2 (h ▸ hc)⟩
    rw [← List.cons_append, Docstring.admonitions_append_of_forall hplain]
    exact (Params.quiet_entryLines hes).admonitions_eq_nil
  obtain ⟨rest, hcons⟩ : ∃ rest, template es = '!' :: rest := ⟨_, rfl⟩
  have hshorter : ('\n' :: (heading ++ entryLines es)).length < (template es).length := by
    have hsummary : 0 < summaryLine.length := by decide
    unfold template
    rw [List.length_append]
    omega
  rw [hcons] at hfirst hshorter ⊢
  rw [admonitions, hfirst]
  simp only [hshorter, hrest, dite_true]

theorem colonWords_template : colonWords (template es) = ["Params".toList] := by
  have hentry : ∀ l ∈ es.map entryLine, Docstring.colonWord? l = none := by
    intro l hl
    obtain ⟨e, -, rfl⟩ := List.mem_map.mp hl
    rfl
  have hsummary : Docstring.colonWord? summaryLine = none := by decide
  have hheading : Docstring.colonWord? heading = some "Params".toList := by decide
  rw [Docstring.colonWords_eq_filterMap, Params.lines_template hes, List.filterMap_cons_none hsummary,
    List.filterMap_cons_some hheading, List.filterMap_eq_nil_iff.mpr hentry]

theorem undefinedIssues_template : defaultRules.undefinedIssues (template es) = [] := by
  have hnames : sectionNames (template es) = ["params", "summary"] := by
    have hfound : ((([("Params".toList)] ++ [summaryAdmonition].map (·.title)).map normalizeName).filter
        isSectionName).map String.ofList = ["params", "summary"] := by decide
    unfold sectionNames
    rw [colonWords_template hes, admonitions_template hes]
    simp only [hfound]
    rw [List.mergeSort_of_pairwise (by decide)]
    decide
  unfold Rules.undefinedIssues
  rw [hnames]
  decide

/-- The admonition is the right one, and its title has no colon. -/
theorem admonitionIssues_template :
    defaultRules.admonitionIssues (template es) ++ defaultRules.titleColonIssues (template es) = [] := by
  unfold Rules.admonitionIssues Rules.titleColonIssues
  rw [admonitions_template hes]
  decide

/-! ## §3. Lines. -/

/-- The list of parameters of the default rules. -/
def paramsSection : Section :=
  { name := "params", kind := .listNameAndType, order := some 3, required := true }

omit hes in
theorem plainHeader?_entry (r : Rules) {e : Text × Text} (he : IsEntry e) :
    r.plainHeader? (entry e) = none := by
  have hword : Docstring.wordLine? (entry e) = none := by
    unfold Docstring.wordLine?
    rw [Params.run?_entry he]
    rfl
  unfold Rules.plainHeader?
  rw [hword]
  rfl

/-- The heading is written as it has to be, and no other line looks like a header. -/
theorem headerIssues_template :
    defaultRules.missingColonIssues (template es) ++ defaultRules.titleCaseIssues (template es) = [] := by
  have htrimmed : trimmedLines (template es) = summaryLine :: heading :: es.map entry := by
    have hheads : Text.trim summaryLine = summaryLine ∧ Text.trim heading = heading := by decide
    unfold trimmedLines
    rw [Params.lines_template hes, List.map_cons, List.map_cons, hheads.1, hheads.2, List.map_map]
    exact congrArg _ (congrArg _ (List.map_congr_left fun e he => Params.trim_entryLine (hes e he)))
  have hsummary : defaultRules.plainHeader? summaryLine = none := by decide
  have hheading : defaultRules.plainHeader? heading = some (paramsSection, "Params".toList, true) := by
    decide
  have htitle : String.ofList "Params".toList = Text.titled paramsSection.name := by decide
  have hentries : ∀ l ∈ es.map entry, defaultRules.plainHeader? l = none := by
    intro l hl
    obtain ⟨e, he, rfl⟩ := List.mem_map.mp hl
    exact plainHeader?_entry _ (hes e he)
  unfold Rules.missingColonIssues Rules.titleCaseIssues
  rw [htrimmed, List.append_eq_nil_iff, List.filterMap_eq_nil_iff, List.filterMap_eq_nil_iff]
  simp only [List.forall_mem_cons, hsummary, hheading, htitle, true_and]
  exact ⟨fun l hl => by rw [hentries l hl], by simp, fun l hl => by rw [hentries l hl]⟩

/-! ## §4. Parentheses. -/

omit hes

/-- **An entry is well formed, and the lines after it belong to the same section.** -/
theorem parenStep_entryLine (r : Rules) {e : Text × Text} (he : IsEntry e) {st : ParenState} {s : Section}
    (hcurrent : st.current = some s) (hkind : s.kind = .listNameAndType) :
    (r.parenStep st (entryLine e)).1 = [] ∧ (r.parenStep st (entryLine e)).2.current = some s := by
  have hheader : r.isHeader (entry e) (entryLine e) = false := by
    have hquiet : Quiet (entry e) :=
      (Params.quiet_entryLine he).within (List.suffix_append _ _).isInfix
    have htitle : headerTitle? (entry e) (entryLine e) = none := by
      unfold headerTitle?
      rw [Docstring.admonitionAt?_of_mark? hquiet.mark?_eq_none]
      rfl
    unfold Rules.isHeader
    rw [htitle]
    rfl
  have htyped : isNameTypeEntry (entry e) = true := by
    refine isNameTypeEntry_iff.mpr ⟨e.1 ++ [' '], '(' :: (Params.spread e.2 ++ [')', ':']), by simp [entry], ?_⟩
    exact ⟨Params.spread e.2, [], rfl, by simp [Params.spread], Params.noParen_spread he⟩
  have hline : (checkLine s st.last (entryLine e) (entry e)).1 = [] := by
    unfold checkLine
    simp only [hkind, htyped, if_true]
    split_ifs <;> rfl
  unfold Rules.parenStep
  simp only [Params.trim_entryLine he, hheader, hcurrent, Bool.false_eq_true, if_false]
  split_ifs
  · exact ⟨hline, rfl⟩
  · exact ⟨rfl, hcurrent⟩

theorem parenLines_entries (r : Rules) (hes : ∀ e ∈ es, IsEntry e) {st : ParenState} {s : Section}
    (hcurrent : st.current = some s) (hkind : s.kind = .listNameAndType) :
    r.parenLines st (es.map entryLine) = [] := by
  induction es generalizing st with
  | nil => rfl
  | cons e es ih =>
    obtain ⟨hissues, hnext⟩ := parenStep_entryLine r (hes e List.mem_cons_self) hcurrent hkind
    rw [List.map_cons, Rules.parenLines]
    simp only [hissues, List.nil_append]
    exact ih (fun e he => hes e (List.mem_cons_of_mem _ he)) hnext

theorem parenIssues_template (hes : ∀ e ∈ es, IsEntry e) :
    defaultRules.parenIssues (template es) = [] := by
  have hsummary : defaultRules.isHeader (Text.trim summaryLine) summaryLine = true := by decide
  have hheading : defaultRules.isHeader (Text.trim heading) heading = true := by decide
  have hparams : defaultRules.typedHeader? (Text.trim heading) heading = some paramsSection := by
    decide
  unfold Rules.parenIssues
  rw [Params.lines_template hes]
  simp only [Rules.parenLines, Rules.parenStep, hsummary, hheading, if_true, List.nil_append]
  exact parenLines_entries _ hes hparams rfl

/-- **The docstring has no issue of form.** -/
theorem formIssues_template (hes : ∀ e ∈ es, IsEntry e) :
    defaultRules.formIssues (template es) = [] := by
  obtain ⟨hadmonitions, htitles⟩ := List.append_eq_nil_iff.mp (admonitionIssues_template hes)
  obtain ⟨hcolons, hcases⟩ := List.append_eq_nil_iff.mp (headerIssues_template hes)
  unfold Rules.formIssues Rules.colonIssues
  rw [orderIssues_template hes, returnsAndYields_template hes, undefinedIssues_template hes, hadmonitions,
    htitles, hcolons, hcases, parenIssues_template hes]
  rfl

end DocLint
