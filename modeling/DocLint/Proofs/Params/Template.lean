import DocLint.Docstring.Clean
import DocLint.Proofs.Docstring.Quiet
import DocLint.Proofs.Params.Reading
import DocLint.Proofs.Params.Types
import Mathlib.Data.List.TakeWhile

/-!
DocLint.Proofs.Params.Template: a docstring for given names and types.

A docstring is written with a summary and a list of parameters. Each type is written with a blank around
each of its characters, which changes nothing in the comparison of types but keeps a type from being read
as a heading, as a remark or as the end of the list. Main results: the names and the types that are read
from the docstring are those it was written for.
-/

namespace DocLint.Params

open Docstring (run? run?_eq_some Quiet isHeaderSign quiet_of_forall)
open Text (isSpace isWord trim trimLeft joinWith lines)

/-! ## §1. Types. -/

/-- A type with a blank around each of its characters. -/
def spread (type : Text) : Text :=
  ' ' :: (type.filter (!isSpace ·)).flatMap fun c => [c, ' ']

/-- Blanks do not count in the comparison of types. -/
theorem normalizeType_spread (type : Text) : normalizeType (spread type) = normalizeType type := by
  have hfilter : ∀ cs : Text, (∀ c ∈ cs, isSpace c = false) →
      (cs.flatMap fun c => [c, ' ']).filter (!isSpace ·) = cs := by
    intro cs
    induction cs with
    | nil => simp
    | cons c cs ih =>
      intro h
      rw [List.flatMap_cons, List.filter_append, ih fun d hd => h d (List.mem_cons_of_mem _ hd)]
      simp [h c List.mem_cons_self, show isSpace ' ' = true from rfl]
  unfold normalizeType spread
  rw [List.filter_cons_of_neg (by decide), hfilter]
  intro c hc
  simpa using (List.mem_filter.mp hc).2

theorem mem_spread {type : Text} {c : Char} (h : c ∈ spread type) :
    c = ' ' ∨ c ∈ type ∧ isSpace c = false := by
  unfold spread at h
  rcases List.mem_cons.mp h with rfl | h
  · exact .inl rfl
  · obtain ⟨d, hd, hc⟩ := List.mem_flatMap.mp h
    obtain ⟨hmem, hsolid⟩ := List.mem_filter.mp hd
    rcases List.mem_cons.mp hc with rfl | hc
    · exact .inr ⟨hmem, by simpa using hsolid⟩
    · exact .inl (List.mem_singleton.mp hc)

/-- Of two characters in a row one is a blank. -/
theorem isChain_spread (type : Text) : (spread type).IsChain fun x y => x = ' ' ∨ y = ' ' := by
  unfold spread
  generalize type.filter (!isSpace ·) = cs
  induction cs with
  | nil => exact .singleton _
  | cons c cs ih => exact .cons_cons (.inl rfl) (.cons_cons (.inr rfl) ih)

/-- A type that is written in this way has no remark. -/
theorem hasOptional_spread (type : Text) : hasOptional (spread type) = false := by
  cases hbefore : beforeOptional? (spread type) with
  | none => simp [hasOptional, hbefore]
  | some bare =>
    -- the first two letters of the remark would stand next to each other
    obtain ⟨_, hcut, blanks, word, tail, rfl, -, hletters, -⟩ := beforeOptional?_eq_some hbefore
    have hword : "optional".toList = 'o' :: 'p' :: "tional".toList := by decide
    rw [hword] at hletters
    obtain ⟨x, xs, hx, hxs, rfl⟩ := List.forall₂_cons_left_iff.mp hletters
    obtain ⟨y, ys, hy, -, rfl⟩ := List.forall₂_cons_left_iff.mp hxs
    have hpair : [x, y] <:+: spread type := ⟨bare ++ ',' :: blanks, ys ++ tail, by simp [hcut]⟩
    have hchain := List.IsChain.infix (isChain_spread type) hpair
    rcases (List.isChain_cons_cons.mp hchain).1 with rfl | rfl
    · exact absurd hx (by decide)
    · exact absurd hy (by decide)

/-- **A type that is written in this way agrees with the type it was written for.** -/
theorem sameType_spread (a : String) :
    sameType a (String.ofList (withoutOptional (spread a.toList))) = true := by
  have hnone : beforeOptional? (spread a.toList) = none := by
    simpa [hasOptional] using hasOptional_spread a.toList
  unfold withoutOptional
  rw [sameType_iff, String.toList_ofList, hnone, Option.getD_none, normalizeType_trim,
    normalizeType_spread]

/-! ## §2. Entries. -/

/-- The entry of a name and a type. -/
def entry (e : Text × Text) : Text :=
  e.1 ++ ' ' :: '(' :: (spread e.2 ++ [')', ':'])

/-- The line of an entry. -/
def entryLine (e : Text × Text) : Text :=
  List.replicate 8 ' ' ++ entry e

/-- A name and a type that an entry can hold. -/
structure IsEntry (e : Text × Text) : Prop where
  /-- The name is not empty. -/
  nonempty : e.1 ≠ []
  /-- It is a word. -/
  word : ∀ c ∈ e.1, isWord c = true
  /-- The type holds no closing parenthesis. -/
  noParen : ')' ∉ e.2

variable {e : Text × Text} (he : IsEntry e)
include he

theorem head?_entry : ∃ c, (entry e).head? = some c ∧ isWord c = true := by
  obtain ⟨name, type⟩ := e
  cases name with
  | nil => exact absurd rfl he.nonempty
  | cons c cs => exact ⟨c, rfl, he.word c List.mem_cons_self⟩

theorem trim_entryLine : trim (entryLine e) = entry e := by
  have hend : entry e = (e.1 ++ ' ' :: '(' :: (spread e.2 ++ [')'])) ++ [':'] := by simp [entry]
  refine Text.trim_append (fun _ => Text.isSpace_of_mem_spaces) ?_ ?_
  · intro d hd
    obtain ⟨c, hc, hword⟩ := head?_entry he
    rw [hc] at hd
    cases hd
    exact Text.isSpace_of_isWord hword
  · intro d hd
    rw [hend, List.getLast?_concat] at hd
    cases hd
    rfl

theorem run?_entry : run? isWord (entry e) = some (e.1, ' ' :: '(' :: (spread e.2 ++ [')', ':'])) := by
  rw [run?_eq_some]
  refine ⟨he.nonempty, rfl, he.word, ?_⟩
  rintro c hc
  cases hc
  decide

theorem noParen_spread : ')' ∉ spread e.2 := by
  intro hin
  rcases mem_spread hin with hblank | ⟨hin, -⟩
  · cases hblank
  · exact he.noParen hin

/-- **An entry has the shape of one**, as a name and as a type. -/
theorem shape_entryLine : EntryShape (entryLine e) [] e.1 (spread e.2) [] :=
  .mk (List.replicate 8 ' ') [' '] [] (fun _ => Text.isSpace_of_mem_spaces) (List.forall_mem_nil _)
    he.nonempty he.word (List.forall_mem_singleton.mpr rfl) (by simp [spread]) (noParen_spread he) (List.forall_mem_nil _)

theorem entryName?_entryLine : entryName? (entryLine e) = some e.1 :=
  entryName?_eq_some_iff.mpr ⟨[], e.1, spread e.2, rfl, Nat.zero_le 2, shape_entryLine he⟩

theorem entryType?_entryLine : entryType? (entryLine e) = some (e.1, spread e.2) :=
  entryType?_eq_some_iff.mpr ⟨[], shape_entryLine he⟩

/-- The only blanks in an entry are spaces. -/
theorem eq_space_of_mem_entryLine {c : Char} (hc : c ∈ entryLine e) (hblank : isSpace c = true) :
    c = ' ' := by
  unfold entryLine entry at hc
  simp only [List.mem_append, List.mem_cons, List.not_mem_nil, or_false] at hc
  rcases hc with hc | hc | rfl | rfl | hc | rfl | rfl
  · exact List.eq_of_mem_replicate hc
  · rw [Text.isSpace_of_isWord (he.word c hc)] at hblank
    cases hblank
  · rfl
  · cases hblank
  · rcases mem_spread hc with rfl | ⟨-, hsolid⟩
    · rfl
    · rw [hsolid] at hblank
      cases hblank
  · cases hblank
  · cases hblank

/-- **No header can be read in an entry.** -/
theorem quiet_entryLine : Quiet (entryLine e) := by
  have hname : Quiet (List.replicate 8 ' ' ++ e.1 ++ [' ', '(']) := by
    apply quiet_of_forall
    intro c hc
    simp only [List.mem_append, List.mem_cons, List.not_mem_nil, or_false] at hc
    rcases hc with (hc | hc) | rfl | rfl
    · rw [List.eq_of_mem_replicate hc]
      rfl
    · by_contra hsign
      have hword := he.word c hc
      simp only [isHeaderSign, Bool.not_eq_false, Bool.or_eq_true, beq_iff_eq] at hsign
      rcases hsign with (rfl | rfl) | rfl <;> exact absurd hword (by decide)
    · rfl
    · rfl
  have htype : Quiet (spread e.2) := by
    refine (isChain_spread e.2).imp ?_
    rintro x y (rfl | rfl) hsign
    · exact .inl rfl
    · cases hsign
  have hend : Quiet [')', ':'] := .cons_cons (fun _ => .inr rfl) (.singleton _)
  have hentry : entryLine e = (List.replicate 8 ' ' ++ e.1 ++ [' ', '(']) ++ (spread e.2 ++ [')', ':']) := by
    simp [entryLine, entry]
  rw [hentry]
  refine hname.append (htype.append hend ?_) ?_
  · rintro y ⟨⟩
    rfl
  · rintro y ⟨⟩
    rfl

theorem mentions_entryLine : mentions (entryLine e) = false := by
  by_contra h
  have hinfix : heading <:+: entryLine e := Text.contains_iff.mp (by simpa [mentions] using h)
  exact Docstring.not_quiet_of_isLoud (by decide) (Text.sameLetters_refl heading)
    ((quiet_entryLine he).within hinfix)

omit he

/-- An entry is indented too far to open another section. -/
theorem opensSection_entryLine (p : Char → Bool) (e : Text × Text) :
    opensSection p (entryLine e) = false := rfl

/-! ## §3. The docstring. -/

/-- The header of the summary. -/
def summaryLine : Text := "!!! note \"Summary\"".toList

/-- The entries, each on a line of its own. -/
def entryLines (es : List (Text × Text)) : Text :=
  es.flatMap fun e => '\n' :: entryLine e

/-- A docstring with a summary and a list of parameters. -/
def template (es : List (Text × Text)) : Text :=
  summaryLine ++ '\n' :: (heading ++ entryLines es)

variable {es : List (Text × Text)} (hes : ∀ e ∈ es, IsEntry e)

theorem template_eq_joinWith (es : List (Text × Text)) :
    template es = joinWith ['\n'] (summaryLine :: heading :: es.map entryLine) := by
  have hjoin : ∀ (l : Text) (ls : List Text),
      joinWith ['\n'] (l :: ls) = l ++ ls.flatMap ('\n' :: ·) := by
    intro l ls
    induction ls generalizing l with
    | nil => simp [joinWith]
    | cons m ms ih => simp [joinWith, ih]
  rw [hjoin]
  simp [template, entryLines, List.flatMap_map]

theorem head?_entryLines {c : Char} (h : (entryLines es).head? = some c) : c = '\n' := by
  cases es with
  | nil => cases h
  | cons e es =>
    cases h
    rfl

include hes

theorem quiet_entryLines : Quiet (entryLines es) := by
  induction es with
  | nil => exact .nil
  | cons e es ih =>
    have hline : Quiet ('\n' :: entryLine e) := by
      show Quiet (['\n'] ++ entryLine e)
      refine Quiet.append (.singleton _) (quiet_entryLine (hes e (by simp))) ?_
      rintro y ⟨⟩
      rfl
    rw [entryLines, List.flatMap_cons]
    refine hline.append (ih fun e he => hes e (List.mem_cons_of_mem _ he)) ?_
    intro y hy
    rw [head?_entryLines hy]
    rfl

theorem lines_template : lines (template es) = summaryLine :: heading :: es.map entryLine := by
  have hheads : '\n' ∉ summaryLine ∧ '\n' ∉ heading := by decide
  rw [template_eq_joinWith]
  refine Text.splitBy_joinWith rfl (by simp) ?_
  intro m hm c hc
  by_contra hnewline
  obtain rfl : c = '\n' := by simpa using hnewline
  rcases List.mem_cons.mp hm with rfl | hm
  · exact hheads.1 hc
  rcases List.mem_cons.mp hm with rfl | hm
  · exact hheads.2 hc
  · obtain ⟨e, he, rfl⟩ := List.mem_map.mp hm
    cases eq_space_of_mem_entryLine (hes e he) hc rfl

theorem listLines_template {closes : Text → Bool} (hcloses : ∀ e ∈ es, closes (entryLine e) = false) :
    listLines closes (lines (template es)) = es.map entryLine := by
  have hsummary : mentions summaryLine = false := by decide
  have hheading : mentions heading = true := by decide
  have hentries : ∀ l ∈ es.map entryLine, mentions l = false ∧ closes l = false := by
    intro l hl
    obtain ⟨e, he, rfl⟩ := List.mem_map.mp hl
    exact ⟨mentions_entryLine (hes e he), hcloses e he⟩
  have hread := listLines_of_body (List.forall_mem_singleton.mpr hsummary) hheading hentries
    (fun l hl => absurd hl (by simp : ([] : List Text).head? ≠ some l))
  rw [List.append_nil] at hread
  rw [lines_template hes]
  exact hread

/-- **The names that are read are those the docstring was written for.** -/
theorem names_template : names (template es) = es.map fun e => String.ofList e.1 := by
  have hread : (es.map entryLine).filterMap entryName? = es.map (·.1) := by
    rw [List.filterMap_map, ← List.filterMap_eq_map]
    exact List.filterMap_congr fun e he => entryName?_entryLine (hes e he)
  unfold names closesNames
  rw [listLines_template hes fun e _ => opensSection_entryLine _ e, hread, List.map_map]
  rfl

/-- **The types that are read are those the docstring was written for**, up to blanks. -/
theorem types_template (hdistinct : (es.map fun e => String.ofList e.1).Nodup) :
    types (template es) = es.map fun e => (String.ofList e.1, String.ofList (spread e.2)) := by
  have hread : (es.map entryLine).filterMap entryType? = es.map fun e => (e.1, spread e.2) := by
    rw [List.filterMap_map, ← List.filterMap_eq_map]
    exact List.filterMap_congr fun e he => entryType?_entryLine (hes e he)
  unfold types closesTypes
  rw [listLines_template hes fun e _ => opensSection_entryLine _ e, hread, List.map_map]
  refine Entries.ofPairs_of_nodup ?_
  rw [List.map_map]
  exact hdistinct

omit hes

/-! ## §4. The docstring in the source. -/

theorem expandTabs_eq_self {cs : Text} (h : '\t' ∉ cs) (n : Nat) : Docstring.expandTabs n cs = cs := by
  induction cs generalizing n with
  | nil => rfl
  | cons c cs ih =>
    rw [List.mem_cons, not_or] at h
    rw [Docstring.expandTabs, if_neg (by simpa using Ne.symm h.1), ih h.2, ih h.2]
    exact ite_self _

theorem dropEmptyEnds_eq_self {ls : List Text} (h : ∀ l ∈ ls, l ≠ []) :
    Docstring.dropEmptyEnds ls = ls := by
  have hkeep : ∀ ms : List Text, (∀ m ∈ ms, m ≠ []) → ms.dropWhile (·.isEmpty) = ms := by
    intro ms hms
    cases ms with
    | nil => rfl
    | cons m ms => simp [hms m List.mem_cons_self]
  unfold Docstring.dropEmptyEnds
  rw [hkeep ls.reverse (by simpa using h), List.reverse_reverse, hkeep ls h]

/-- **The docstring can stand in the source as it is.** The heading is not indented, so no line is moved. -/
theorem clean_template (hes : ∀ e ∈ es, IsEntry e) : Docstring.clean (template es) = template es := by
  have htab : '\t' ∉ template es := by
    have hhead : '\t' ∉ summaryLine ∧ '\t' ∉ heading := by decide
    unfold template entryLines
    simp only [List.mem_append, List.mem_cons, List.mem_flatMap, not_or, not_exists, not_and]
    refine ⟨hhead.1, by decide, hhead.2, fun e he => ⟨by decide, fun hin => ?_⟩⟩
    cases eq_space_of_mem_entryLine (hes e he) hin rfl
  have hmargin : Docstring.margin (heading :: es.map entryLine) = some 0 := by
    have hzero : ∀ ns : List Nat, ns.foldl min 0 = 0 := by
      intro ns
      induction ns with
      | nil => rfl
      | cons n ns ih => rw [List.foldl_cons, Nat.zero_min, ih]
    have hindent : Text.indent heading = 0 := by decide
    unfold Docstring.margin
    rw [List.filter_cons_of_pos (by decide), List.map_cons, List.min?_cons', hindent, hzero]
  have hfirst : trimLeft summaryLine = summaryLine := by decide
  have hnonempty : ∀ l ∈ summaryLine :: heading :: es.map entryLine, l ≠ [] := by
    simp only [List.forall_mem_cons, List.forall_mem_map]
    exact ⟨by decide, by decide, fun e _ => by simp [entryLine, entry]⟩
  unfold Docstring.clean
  rw [expandTabs_eq_self htab, lines_template hes]
  simp only [hmargin, hfirst, List.drop_zero, List.map_id']
  rw [dropEmptyEnds_eq_self hnonempty, template_eq_joinWith]

end DocLint.Params
