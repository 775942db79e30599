import DocLint.Check.Admonition
import DocLint.Proofs.Docstring.Quiet
import DocLint.Proofs.Docstring.Scan
import DocLint.Proofs.Entries

/-!
DocLint.Proofs.Check.Admonition: which header lines have their admonition checked.

A line that starts with an admonition holds it where the scan of the docstring may find it, and its issue is then
decided by the section that its title names. What the scan has found before may run over it: only a title that is left
open on a line above does. Main result: `header_line_examined_iff`.
-/

namespace DocLint

open Docstring (Admonition IsScan admonitionAt? admonitionAt?_eq_some_iff)
open Text (IsLine isSpace trim trimLeft lower lowered indent)

/-! ## §1. The issue with an admonition. -/

namespace Rules

/-- A section that is the only one that a title names. -/
structure IsNamed (r : Rules) (s : Section) (title : Text) : Prop where
  /-- It is one of the sections. -/
  mem : s ∈ r.sections
  /-- The title is its name, up to case. -/
  named : lowered s.name = lower title
  /-- No other section has this name. -/
  only : ∀ t ∈ r.sections, lowered t.name = lower title → t = s

variable {r : Rules} {s : Section} {title : Text}

theorem IsNamed.named? (h : r.IsNamed s title) : r.named? title = some s := by
  unfold Rules.named?
  cases hfound : r.sections.find? fun t => lowered t.name == lower title with
  | none =>
    have hmiss := List.find?_eq_none.mp hfound s h.mem
    simp [h.named] at hmiss
  | some t =>
    rw [h.only t (List.mem_of_find?_eq_some hfound) (by simpa using List.find?_some hfound)]

/-- The entries of the map are the sections of free text with their admonitions. -/
theorem mem_of_admonitionMap {key expected : String} (h : r.admonitionMap.get? key = some expected) :
    ∃ t ∈ r.sections, t.kind = .freeText ∧ String.ofList (lowered t.name) = key ∧
      ∃ w, t.admonition = some w ∧ w ≠ "" ∧ String.ofList (lowered w) = expected := by
  obtain ⟨t, ht, hpair⟩ := List.mem_filterMap.mp (Entries.mem_of_get?_ofPairs h)
  refine ⟨t, ht, ?_⟩
  split at hpair
  · next w hkind hw =>
    split at hpair
    · cases hpair
    · next hne =>
      cases hpair
      exact ⟨hkind, rfl, w, hw, by simpa using hne, rfl⟩
  · cases hpair

theorem has_admonitionMap (hs : s ∈ r.sections) (hkind : s.kind = .freeText) {w : String}
    (hw : s.admonition = some w) (hne : w ≠ "") :
    r.admonitionMap.has (String.ofList (lowered s.name)) = true := by
  refine Entries.has_ofPairs.mpr ⟨String.ofList (lowered w), List.mem_filterMap.mpr ⟨s, hs, ?_⟩⟩
  simp [hkind, hw, hne]

/-- **The issue under a title that names one section of free text with an admonition of its own**: any other
admonition is wrong. -/
theorem IsNamed.admonitionIssue?_wrong {a : Admonition} (h : r.IsNamed s a.title) (hkind : s.kind = .freeText)
    {w : String} (hw : s.admonition = some w) (hne : w ≠ "") (hother : lower a.word ≠ lowered w) :
    r.admonitionIssue? a = some (.wrongAdmonition (String.ofList a.title) (String.ofList (lower a.word))
      (String.ofList (lowered w))) := by
  have hhas := has_admonitionMap h.mem hkind hw hne
  rw [h.named, Entries.has_eq_isSome_get?] at hhas
  obtain ⟨expected, hget⟩ := Option.isSome_iff_exists.mp hhas
  -- what the map holds for the title comes from a section of this name, and there is one
  obtain rfl : expected = String.ofList (lowered w) := by
    obtain ⟨t, ht, -, hkey, w', hw', -, rfl⟩ := mem_of_admonitionMap hget
    obtain rfl : t = s := h.only t ht (String.ofList_injective hkey)
    rw [hw, Option.some.injEq] at hw'
    rw [hw']
  have hactual : (String.ofList (lower a.word) == String.ofList (lowered w)) = false :=
    beq_false_of_ne fun heq => hother (String.ofList_injective heq)
  unfold Rules.admonitionIssue?
  simp only [hget, hactual]
  rfl

/-- **The issue under a title that names one section without an admonition**: it should have none. -/
theorem IsNamed.admonitionIssue?_unexpected {a : Admonition} (h : r.IsNamed s a.title) (hnone : s.admonition = none) :
    r.admonitionIssue? a = some (.unexpectedAdmonition (String.ofList a.title)) := by
  have hget : r.admonitionMap.get? (String.ofList (lower a.title)) = none := by
    rw [Option.eq_none_iff_forall_ne_some]
    intro expected hget
    obtain ⟨t, ht, -, hkey, w, hw, -⟩ := mem_of_admonitionMap hget
    rw [h.only t ht (String.ofList_injective hkey), hnone] at hw
    cases hw
  unfold Rules.admonitionIssue?
  simp only [hget, h.named?, Option.any_some, hnone, Option.isNone_none, if_true]

end Rules

/-! ## §2. Header lines. -/

section HeaderLine

variable {doc above line below rest : Text} {a : Admonition}

/-- The text is cut behind the blanks that start a line. -/
theorem cut_at_indent (hline : IsLine doc above line below) :
    ∃ lead, doc = (above ++ lead) ++ (trimLeft line ++ below) ∧ lead.length = indent line ∧
      ∀ c ∈ lead, isSpace c = true := by
  refine ⟨line.takeWhile isSpace, ?_, rfl, List.all_eq_true.mp List.all_takeWhile⟩
  rw [hline.cut, List.append_assoc, ← List.append_assoc (line.takeWhile isSpace), trimLeft,
    List.takeWhile_append_dropWhile]

/-- An admonition that starts a line stands in the text behind the blanks of the line. -/
theorem standsAt_of_header (hline : IsLine doc above line below)
    (hheader : admonitionAt? (trim line) = some (a, rest)) : a.StandsAt doc (above.length + indent line) := by
  obtain ⟨lead, hcut, hlead, -⟩ := cut_at_indent hline
  obtain ⟨hwritten, htrim⟩ := admonitionAt?_eq_some_iff.mp hheader
  obtain ⟨tail, htail⟩ := Text.exists_trim line
  refine ⟨hwritten, rest ++ tail ++ below, ?_⟩
  rw [hcut, List.drop_left' (by rw [List.length_append, hlead]), htail, htrim]
  simp

/-- An admonition at a place runs over another place: it starts in front of it and ends behind it. -/
def RunsOver (x : Nat × Admonition) (n : Nat) : Prop :=
  x.1 < n ∧ n < x.1 + x.2.written.length

/-- What runs over a place is cut in two there. -/
theorem RunsOver.exists_cut {front tail : Text} {x : Nat × Admonition} (hx : x.2.StandsAt (front ++ tail) x.1)
    (hover : RunsOver x front.length) :
    ∃ before inside outside, front = before ++ inside ∧ before.length = x.1 ∧ inside ≠ [] ∧
      x.2.written = inside ++ outside ∧ outside ≠ [] ∧ outside <+: tail := by
  obtain ⟨hstart, hend⟩ := hover
  obtain ⟨-, after, hafter⟩ := hx
  have hsplit : front = front.take x.1 ++ front.drop x.1 := (List.take_append_drop _ _).symm
  have hinside : (front.drop x.1).length = front.length - x.1 := List.length_drop
  refine ⟨front.take x.1, front.drop x.1, ?_⟩
  rw [List.drop_append_of_le_length hstart.le] at hafter
  rcases List.append_eq_append_iff.mp hafter with ⟨gap, hgap, -⟩ | ⟨outside, hwritten, htail⟩
  · have hlength := congrArg List.length hgap
    rw [List.length_append] at hlength
    omega
  · refine ⟨outside, hsplit, by simp [hstart.le], ?_, hwritten, ?_, after, htail.symm⟩
    · rw [← List.length_pos_iff]
      omega
    · rintro rfl
      rw [hwritten, List.append_nil] at hend
      omega

/-- The blanks that start a line, and the newline in front of them, leave a blank at the end of what stands above. -/
theorem isSpace_of_above {lead front : Text} {c : Char} (hstarts : Text.EndsLine above)
    (hlead : ∀ c ∈ lead, isSpace c = true) (hcut : above ++ lead = front ++ [c]) : isSpace c = true := by
  obtain rfl | ⟨lead, d, rfl⟩ := List.eq_nil_or_concat lead
  · rw [List.append_nil] at hcut
    rcases hstarts with rfl | hlast
    · exact absurd hcut (by simp)
    · rw [hcut, List.getLast?_concat, Option.some.injEq] at hlast
      rw [hlast]
      rfl
  · rw [List.concat_eq_append, ← List.append_assoc] at hcut
    obtain rfl : d = c := (List.cons.inj (List.append_inj' hcut rfl).2).1
    exact hlead d (by simp)

/-- A quote in front of the first character of a line stands above the line, and the newline behind it. -/
theorem newline_of_quote {lead before opened : Text} (hstarts : Text.EndsLine above)
    (hlead : ∀ c ∈ lead, isSpace c = true) (hcut : above ++ lead = before ++ '"' :: opened) :
    before.length < above.length ∧ '\n' ∈ opened := by
  have hquote : '"' ∉ lead := fun hmem => absurd (hlead _ hmem) (by decide)
  rcases List.append_eq_append_iff.mp hcut with ⟨within, -, hwithin⟩ | ⟨behind, habove, hbehind⟩
  · exact absurd (hwithin ▸ List.mem_append_right within List.mem_cons_self) hquote
  · cases behind with
    | nil => exact absurd (show '"' ∈ [] ++ lead from hbehind ▸ List.mem_cons_self) hquote
    | cons q behind =>
      obtain ⟨rfl, hopened⟩ := List.cons.inj hbehind
      rw [hopened, habove]
      refine ⟨by simp, List.mem_append_left _ ?_⟩
      rcases hstarts with hnil | hlast
      · exact absurd (hnil.symm.trans habove) (by simp)
      · rw [habove, List.getLast?_append, List.getLast?_cons, Option.some_or, Option.some.injEq] at hlast
        cases hend : behind.getLast? with
        | none =>
          rw [hend] at hlast
          exact absurd hlast (by decide)
        | some c =>
          rw [hend, Option.getD_some] at hlast
          rw [← hlast]
          exact List.mem_of_getLast? hend

/-- **What runs over a header line is a title that is left open above it**: the admonition starts on a line above, and
its title goes over a newline. -/
theorem newline_mem_title (hline : IsLine doc above line below)
    (hheader : admonitionAt? (trim line) = some (a, rest)) {x : Nat × Admonition} (hx : x.2.StandsAt doc x.1)
    (hover : RunsOver x (above.length + indent line)) : x.1 < above.length ∧ '\n' ∈ x.2.title := by
  obtain ⟨lead, hcut, hlead, hblanks⟩ := cut_at_indent hline
  obtain ⟨hwritten, after, hafter⟩ := standsAt_of_header hline hheader
  obtain ⟨mark, written, hmark, hstarts⟩ := hwritten.exists_startsMark
  rw [← hlead, ← List.length_append] at hover hafter
  rw [hcut] at hx hafter
  rw [List.drop_left, hmark] at hafter
  obtain ⟨before, inside, outside, hfront, hbefore, hinside, hparts, houtside, back, htail⟩ := hover.exists_cut hx
  -- it is cut where a mark starts, and behind a blank
  obtain ⟨c, outside, rfl⟩ := List.exists_cons_of_ne_nil houtside
  obtain rfl : mark = c := (List.cons.inj (hafter.trans htail.symm)).1
  obtain rfl | ⟨inside, blank, rfl⟩ := List.eq_nil_or_concat inside
  · exact absurd rfl hinside
  rw [List.concat_eq_append] at hfront hparts
  have hblank : isSpace blank = true :=
    isSpace_of_above hline.starts hblanks (hfront.trans (List.append_assoc _ _ _).symm)
  -- so its title is open there
  obtain ⟨head, opened, tail, hopened, htitle⟩ := hx.1.mark_in_title hparts hblank hstarts
  rw [hopened, ← List.append_assoc] at hfront
  obtain ⟨habove, hnewline⟩ := newline_of_quote hline.starts hblanks hfront
  rw [List.length_append] at habove
  rw [htitle]
  exact ⟨by omega, List.mem_append_left _ hnewline⟩

end HeaderLine

/-! ## §3. Which header lines are examined. -/

theorem Rules.admonitionIssues_eq (r : Rules) {doc : Text} {hits : List (Nat × Admonition)} (h : IsScan doc hits) :
    r.admonitionIssues doc = hits.filterMap fun x => r.admonitionIssue? x.2 := by
  obtain ⟨found, hscan, hmap⟩ := Docstring.exists_isScan doc
  rw [Rules.admonitionIssues, hmap, hscan.unique h, List.filterMap_map]
  rfl

/-- **A header line is examined unless a title that is left open above runs over it.** The check goes through the
admonitions that one scan of the docstring finds. The admonition that starts a line is one of them exactly if none of
the others runs over the start of the line, which only one can that starts above and whose title goes over a newline.
If it is found, and its title names one section only, then the issues say what is wrong with it. -/
theorem header_line_examined_iff (r : Rules) (doc above line below rest : Text) (a : Admonition)
    (hline : IsLine doc above line below) (hheader : admonitionAt? (trim line) = some (a, rest)) :
    ∃ hits, (∀ found, IsScan doc found ↔ found = hits) ∧
      (r.admonitionIssues doc = hits.filterMap fun x => r.admonitionIssue? x.2) ∧
      ((above.length + indent line, a) ∈ hits ↔ ∀ x ∈ hits, ¬ RunsOver x (above.length + indent line)) ∧
      (∀ x ∈ hits, RunsOver x (above.length + indent line) → x.1 < above.length ∧ '\n' ∈ x.2.title) ∧
      ((above.length + indent line, a) ∈ hits → ∀ s, r.IsNamed s a.title →
        (∀ w, s.kind = .freeText → s.admonition = some w → w ≠ "" → lower a.word ≠ lowered w →
          Issue.wrongAdmonition (String.ofList a.title) (String.ofList (lower a.word)) (String.ofList (lowered w))
            ∈ r.admonitionIssues doc) ∧
        (s.admonition = none →
          Issue.unexpectedAdmonition (String.ofList a.title) ∈ r.admonitionIssues doc)) := by
  obtain ⟨hits, hscan, -⟩ := Docstring.exists_isScan doc
  have hstands := standsAt_of_header hline hheader
  have hissues := r.admonitionIssues_eq hscan
  refine ⟨hits, hscan.iff_eq, hissues, ?_, ?_, ?_⟩
  · rw [hscan.mem_iff hstands]
    refine forall₂_congr fun x _ => ?_
    unfold RunsOver
    rw [not_and, not_lt]
  · exact fun x hx hover => newline_mem_title hline hheader (hscan.stands x hx) hover
  · intro hmem s hs
    rw [hissues]
    exact ⟨fun w hkind hw hne hother =>
        List.mem_filterMap.mpr ⟨_, hmem, hs.admonitionIssue?_wrong hkind hw hne hother⟩,
      fun hnone => List.mem_filterMap.mpr ⟨_, hmem, hs.admonitionIssue?_unexpected hnone⟩⟩

/-- A summary, and behind it details under a wrong admonition. -/
def wrongDetails : Text :=
  "!!! note \"Summary\"\n    S.\n\n  !!! tip \"Details\"\n    D.".toList

theorem header_line_examined_details :
    IsLine wrongDetails (wrongDetails.take 27) "  !!! tip \"Details\"".toList "\n    D.".toList ∧
    Issue.wrongAdmonition "Details" "tip" "info" ∈ defaultRules.admonitionIssues wrongDetails := by
  have hline : IsLine wrongDetails (wrongDetails.take 27) "  !!! tip \"Details\"".toList "\n    D.".toList :=
    ⟨by decide, .inr (by decide), by decide, .inr rfl⟩
  have hclosed : ∀ k < 27, ∀ y ∈ admonitionAt? (wrongDetails.drop k), '\n' ∉ y.1.title := by decide
  have hnamed : defaultRules.IsNamed defaultSections[1] "Details".toList :=
    ⟨by decide, by decide, by decide⟩
  obtain ⟨hits, hscan, -, hmem, hover, hissue⟩ := header_line_examined_iff defaultRules wrongDetails _ _ _ []
    ⟨"tip".toList, "Details".toList, "!!! tip \"Details\"".toList⟩ hline (by decide)
  have hfree : ∀ x ∈ hits, ¬ RunsOver x 29 := by
    intro x hx hrun
    obtain ⟨hbefore, hnewline⟩ := hover x hx hrun
    obtain ⟨after, hat⟩ := Docstring.standsAt_iff.mp (((hscan hits).mpr rfl).stands x hx)
    exact hclosed x.1 hbefore _ hat hnewline
  exact ⟨hline, (hissue (hmem.mpr hfree) _ hnamed).1 "info" rfl rfl (by decide) (by decide)⟩

/-- A summary whose title is left open, and behind it details under a wrong admonition. -/
def openSummary : Text :=
  "!!! note \"Summary\n!!! tip \"Details\"\n    D.".toList

/-- **The check misses a header line behind a title that is left open**: the second line starts with an admonition
whose title names one section only, with another admonition, and there is no issue. -/
theorem admonitionIssues_open_title :
    IsLine openSummary "!!! note \"Summary\n".toList "!!! tip \"Details\"".toList "\n    D.".toList ∧
    admonitionAt? (trim "!!! tip \"Details\"".toList)
      = some (⟨"tip".toList, "Details".toList, "!!! tip \"Details\"".toList⟩, []) ∧
    defaultRules.IsNamed defaultSections[1] "Details".toList ∧
    defaultSections[1].kind = .freeText ∧ defaultSections[1].admonition = some "info" ∧
    defaultRules.admonitionIssues openSummary = [] := by
  refine ⟨⟨by decide, .inr rfl, by decide, .inr rfl⟩, by decide, ⟨by decide, by decide, by decide⟩, rfl, rfl, ?_⟩
  have hfirst : admonitionAt? openSummary = some (⟨"note".toList, "Summary\n!!! tip ".toList,
      "!!! note \"Summary\n!!! tip \"".toList⟩, "Details\"\n    D.".toList) := by decide
  -- the title of the first admonition ends at the first quote of the second line
  have hrest : Docstring.admonitions "Details\"\n    D.".toList = [] := by
    have hquiet : "Details\"\n    D.".toList.all (!Docstring.isHeaderSign ·) = true := rfl
    refine (Docstring.quiet_of_forall fun c hc => ?_).admonitions_eq_nil
    simpa using List.all_eq_true.mp hquiet c hc
  have hfound : Docstring.admonitions openSummary = [⟨"note".toList, "Summary\n!!! tip ".toList,
      "!!! note \"Summary\n!!! tip \"".toList⟩] := by
    have hcons : openSummary = '!' :: openSummary.tail := rfl
    rw [hcons] at hfirst ⊢
    rw [Docstring.admonitions, hfirst]
    simp only [hrest]
    rfl
  unfold Rules.admonitionIssues
  rw [hfound]
  decide

end DocLint
