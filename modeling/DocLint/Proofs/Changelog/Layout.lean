import DocLint.Proofs.Changelog.Notes
import DocLint.Proofs.Changelog.Write

/-!
DocLint.Proofs.Changelog.Layout: nothing stands outside the block of its release.

A changelog is written in pieces of whole lines. Whatever notes and messages hold, each line behind the styling is
blank, opens the block of a release or is indented, and in the entry of a commit each line but the first is indented
by three levels and says something. This holds of every run, also of one that ends early: a writer only appends
pieces (`Adds`), and what one of them appends keeps to the layout (`lines_stay_inside`).
-/

namespace DocLint.Changelog

open Text (isSpace trim joinWith lines)

/-! ## §1. Texts of whole lines. -/

/-- A text of whole lines with a property; behind its last newline there is nothing. -/
def WholeLines (P : Text → Prop) (text : Text) : Prop :=
  ∃ ls, lines text = ls ++ [[]] ∧ ∀ l ∈ ls, P l

section WholeLines

variable {P : Text → Prop}

/-- Behind whole lines the next text starts a line of its own. -/
theorem lines_append_of_whole {xs : Text} {ls : List Text} (h : lines xs = ls ++ [[]]) (ys : Text) :
    lines (xs ++ ys) = ls ++ lines ys := by
  induction ls generalizing xs with
  | nil =>
    obtain ⟨line, rest, hlines, -, ⟨rfl, rfl⟩ | ⟨below, rfl, rfl⟩⟩ := Text.exists_lines xs
    · obtain rfl : xs = [] := by simpa [hlines] using h
      rfl
    · obtain ⟨line', rest', hbelow, -⟩ := Text.exists_lines below
      simp [hlines, hbelow] at h
  | cons l ls ih =>
    obtain ⟨line, rest, hlines, hsolid, ⟨rfl, rfl⟩ | ⟨below, rfl, rfl⟩⟩ := Text.exists_lines xs
    · simp [hlines] at h
    · rw [hlines, List.cons_append, List.cons.injEq] at h
      rw [List.append_assoc, List.cons_append, Text.lines_cons hsolid, ih h.2, h.1, List.cons_append]

theorem wholeLines_nil : WholeLines P [] :=
  ⟨[], rfl, List.forall_mem_nil _⟩

theorem WholeLines.append {xs ys : Text} (hx : WholeLines P xs) (hy : WholeLines P ys) : WholeLines P (xs ++ ys) := by
  obtain ⟨ls, hls, hP⟩ := hx
  obtain ⟨ms, hms, hP'⟩ := hy
  refine ⟨ls ++ ms, ?_, List.forall_mem_append.mpr ⟨hP, hP'⟩⟩
  rw [lines_append_of_whole hls, hms, List.append_assoc]

theorem WholeLines.join {ts : List String} (h : ∀ t ∈ ts, WholeLines P t.toList) :
    WholeLines P (String.join ts).toList := by
  induction ts with
  | nil => exact wholeLines_nil
  | cons t ts ih =>
    rw [String.join_cons, String.toList_append]
    obtain ⟨ht, hts⟩ := List.forall_mem_cons.mp h
    exact ht.append (ih hts)

/-- Each of several lines, with a newline behind it. -/
def unlines (ls : List String) : String :=
  String.join (ls.map (· ++ "\n"))

theorem wholeLines_unlines {ls : List String} (h : ∀ l ∈ ls, '\n' ∉ l.toList ∧ P l.toList) :
    WholeLines P (unlines ls).toList := by
  refine WholeLines.join fun t ht => ?_
  obtain ⟨l, hl, rfl⟩ := List.mem_map.mp ht
  obtain ⟨hsolid, hP⟩ := h l hl
  refine ⟨[l.toList], ?_, by simpa using hP⟩
  rw [String.toList_append]
  exact Text.lines_cons hsolid []

theorem WholeLines.mem_lines {text : Text} (h : WholeLines P text) : ∀ l ∈ lines text, l = [] ∨ P l := by
  obtain ⟨ls, hls, hP⟩ := h
  intro l hl
  rw [hls] at hl
  rcases List.mem_append.mp hl with hl | hl
  · exact .inr (hP l hl)
  · exact .inl (List.mem_singleton.mp hl)

end WholeLines

/-! ## §2. Pieces of a changelog. -/

/-- The line that opens the block of a release. -/
def openingLine (r : Release) : String :=
  "!!! info \"" ++ r.tag ++ "\""

/-- Whether a line keeps to the layout: it is blank, opens the block of a release or is indented. -/
def IsInside (releases : List Release) (line : Text) : Prop :=
  isBlank line = true ∨ (∃ r ∈ releases, line = (openingLine r).toList) ∨ List.replicate 4 ' ' <+: line

/-- Names, tags, pages and the like that hold no newline. -/
def OneLine (texts : List String) : Prop :=
  ∀ t ∈ texts, '\n' ∉ t.toList

/-- What a changelog says of a release beside its notes. -/
def Release.labels (r : Release) : List String :=
  [r.tag, r.page] ++ r.name.toList

/-- What a changelog says of a commit beside its message. -/
def Commit.labels (c : Commit) : List String :=
  [c.sha, c.page] ++ c.author.toList.flatMap fun a => [a.login, a.page]

/-- A host whose labels hold no newline. Notes and messages hold what they like. -/
structure Host.OneLine (h : Host) : Prop where
  /-- The name of the repository. -/
  repository : '\n' ∉ h.repository.fullName.toList
  /-- The labels of releases. -/
  releases : ∀ r ∈ h.releases, Changelog.OneLine r.labels
  /-- The labels of commits. -/
  commits : ∀ n since till, ∀ c ∈ h.commits n since till, Changelog.OneLine c.labels

theorem newline_not_mem_padded (width n : Nat) : '\n' ∉ (padded width n).toList := by
  unfold padded
  rw [String.toList_ofList, List.mem_append, not_or]
  refine ⟨fun h => absurd (List.eq_of_mem_replicate h) (by decide), fun h => ?_⟩
  have hdigit := Nat.isDigit_of_mem_toDigits (by decide) (by decide) h
  cases hdigit

theorem newline_not_mem_plain (d : Date) : '\n' ∉ d.plain.toList := by
  simp [Date.plain, newline_not_mem_padded]

theorem releaseHead_eq (repository : Repository) (r : Release) :
    releaseHead repository r = unlines [openingLine r, "", tab ++ "## **" ++ r.name.getD "None" ++ "**", "",
      tab ++ "<!-- md:tag " ++ r.tag ++ " --><br>", tab ++ "<!-- md:date " ++ r.created.day.plain ++ " --><br>",
      tab ++ "<!-- md:link [" ++ repository.fullName ++ "/releases/" ++ r.tag ++ "](" ++ r.page ++ ") -->", ""] := by
  have hquote : "\"\n\n" = "\"" ++ ("\n" ++ "\n") := by decide
  have hstars : "**\n\n" = "**" ++ ("\n" ++ "\n") := by decide
  have hbreak : " --><br>\n" = " --><br>" ++ "\n" := by decide
  have hend : ") -->\n\n" = ") -->" ++ ("\n" ++ "\n") := by decide
  unfold releaseHead unlines openingLine
  rw [hquote, hstars, hbreak, hend]
  simp only [List.map_cons, List.map_nil, String.join_cons, String.join_nil, String.append_assoc, String.empty_append,
    String.append_empty]

/-- An indented line keeps to the layout. -/
theorem isInside_tab (releases : List Release) (text : String) : IsInside releases (tab ++ text).toList := by
  rw [String.toList_append]
  exact .inr (.inr ⟨text.toList, rfl⟩)

theorem isInside_empty (releases : List Release) : IsInside releases "".toList :=
  .inl rfl

/-- **The head of a block** opens it, and all else in it is indented. -/
theorem wholeLines_releaseHead {h : Host} (hlabels : h.OneLine) {r : Release} (hr : r ∈ h.releases) :
    WholeLines (IsInside h.releases) (releaseHead h.repository r).toList := by
  have hfull := hlabels.repository
  have htag : '\n' ∉ r.tag.toList := hlabels.releases r hr _ (by simp [Release.labels])
  have hpage : '\n' ∉ r.page.toList := hlabels.releases r hr _ (by simp [Release.labels])
  have hname : '\n' ∉ (r.name.getD "None").toList := by
    cases hsome : r.name with
    | none => decide
    | some name => exact hlabels.releases r hr name (by simp [Release.labels, hsome])
  have hday := newline_not_mem_plain r.created.day
  rw [releaseHead_eq]
  apply wholeLines_unlines
  have hopens : IsInside h.releases (openingLine r).toList := .inr (.inl ⟨r, hr, rfl⟩)
  simp only [List.forall_mem_cons, String.append_assoc, isInside_tab, isInside_empty, hopens, and_true]
  simp [openingLine, tab, hfull, htag, hpage, hname, hday]

theorem releaseNotes_eq (body : String) :
    releaseNotes body = unlines [tab ++ "??? note \"Release Notes\"", "",
      tabs 2 ++ String.ofList (notesText body.toList), ""] := by
  have hquote : "??? note \"Release Notes\"\n\n" = "??? note \"Release Notes\"" ++ ("\n" ++ "\n") := by decide
  have hend : "\n\n" = "\n" ++ "\n" := by decide
  unfold releaseNotes unlines
  rw [hquote, hend]
  simp only [List.map_cons, List.map_nil, String.join_cons, String.join_nil, String.append_assoc, String.empty_append,
    String.append_empty]

/-- Two levels of indentation are one and another one. -/
theorem tabs_succ (n : Nat) : tabs (n + 1) = tab ++ tabs n := by
  unfold tabs
  rw [List.replicate_succ, String.join_cons]

/-- **Notes** stand on one indented line. -/
theorem wholeLines_releaseNotes (releases : List Release) (body : String) :
    WholeLines (IsInside releases) (releaseNotes body).toList := by
  rw [releaseNotes_eq]
  apply wholeLines_unlines
  rw [tabs_succ]
  simp only [List.forall_mem_cons, String.append_assoc, isInside_tab, isInside_empty, and_true]
  have hnotes := newline_not_mem_notesText body.toList
  simp [tab, tabs, hnotes]

theorem wholeLines_updatesHead (releases : List Release) : WholeLines (IsInside releases) updatesHead.toList := by
  have heq : updatesHead = unlines [tab ++ "??? abstract \"Updates\"", ""] := by decide
  rw [heq]
  apply wholeLines_unlines
  simp only [List.forall_mem_cons, isInside_tab, isInside_empty, and_true]
  simp [tab]

theorem wholeLines_gap (releases : List Release) : WholeLines (IsInside releases) "\n\n".toList := by
  have heq : "\n\n" = unlines ["", ""] := by decide
  rw [heq]
  apply wholeLines_unlines
  simp only [List.forall_mem_cons, isInside_empty, and_true]
  simp

/-! ## §3. Entries of commits. -/

/-- The first line of a message is told, and of the others those that say something. -/
theorem exists_toldLines (message : Text) :
    ∃ first more, toldLines message = first :: more ∧ '\n' ∉ first ∧
      ∀ l ∈ more, '\n' ∉ l ∧ isBlank l = false := by
  obtain ⟨first, more, hlines, -⟩ := Text.exists_lines message
  have hsolid : ∀ l ∈ lines message, '\n' ∉ trim l := fun l hl hnewline =>
    newline_of_mem_lines hl ((Text.trim_infix l).subset hnewline)
  rw [hlines] at hsolid
  refine ⟨trim first, (more.filter (!isOmitted ·)).map trim, ?_, hsolid first List.mem_cons_self, ?_⟩
  · unfold toldLines
    rw [hlines]
    rfl
  · intro l hl
    obtain ⟨line, hline, rfl⟩ := List.mem_map.mp hl
    obtain ⟨hmem, htold⟩ := List.mem_filter.mp hline
    refine ⟨hsolid line (List.mem_cons_of_mem _ hmem), ?_⟩
    -- a trimmed line that is not empty starts with a character that is no blank
    unfold isOmitted at htold
    cases htrim : trim line with
    | nil => simp [htrim] at htold
    | cons c rest =>
      have hc : isSpace c = false := Text.head?_trim (by rw [htrim]; rfl)
      simp [isBlank, hc]

/-- Where the lines of a message are put together, each but the first starts with the indentation. -/
theorem exists_lines_joined {close indent : Text} (hclose : '\n' ∉ close) (hindent : '\n' ∉ indent) (tail : Text)
    {front first : Text} {more : List Text} (hfront : '\n' ∉ front) (hfirst : '\n' ∉ first)
    (hmore : ∀ l ∈ more, '\n' ∉ l) :
    ∃ head rest, lines (front ++ joinWith (close ++ '\n' :: indent) (first :: more) ++ '\n' :: tail)
        = head :: (rest ++ lines tail) ∧
      front ++ first <+: head ∧ ∀ l ∈ rest, ∃ told ∈ more, indent ++ told <+: l := by
  induction more generalizing front first with
  | nil =>
    refine ⟨front ++ first, [], ?_, List.prefix_rfl, List.forall_mem_nil _⟩
    show lines (front ++ first ++ '\n' :: tail) = _
    exact Text.lines_cons (by simp [hfront, hfirst]) tail
  | cons told more ih =>
    obtain ⟨htold, hmore'⟩ := List.forall_mem_cons.mp hmore
    obtain ⟨head, rest, hlines, hhead, hrest⟩ := ih hindent htold hmore'
    refine ⟨front ++ first ++ close, head :: rest, ?_, List.prefix_append _ _, ?_⟩
    · have hcut : front ++ joinWith (close ++ '\n' :: indent) (first :: told :: more) ++ '\n' :: tail
          = front ++ first ++ close ++ '\n' :: (indent ++ joinWith (close ++ '\n' :: indent) (told :: more)
            ++ '\n' :: tail) := by
        simp [joinWith]
      rw [hcut, Text.lines_cons (by simp [hfront, hfirst, hclose]), hlines]
      rfl
    · rw [List.forall_mem_cons]
      refine ⟨⟨told, List.mem_cons_self, hhead⟩, fun l hl => ?_⟩
      obtain ⟨m, hm, hl⟩ := hrest l hl
      exact ⟨m, List.mem_cons_of_mem _ hm, hl⟩

/-- A line of an entry: indented by three levels, and saying something. -/
def IsDeep (line : Text) : Prop :=
  List.replicate 12 ' ' <+: line ∧ isBlank line = false

theorem isDeep_of_prefix {told line : Text} (htold : isBlank told = false)
    (h : List.replicate 12 ' ' ++ told <+: line) : IsDeep line := by
  obtain ⟨rest, rfl⟩ := h
  refine ⟨⟨told ++ rest, by simp⟩, ?_⟩
  unfold isBlank at htold ⊢
  simp [htold]

/-- What stands in front of the message of a commit. -/
def entryLead (c : Commit) : String :=
  tabs 2 ++ "* [`" ++ String.ofList (c.sha.toList.take 7) ++ "`](" ++ c.page ++ "): "

/-- The line below the message of a commit. -/
def byLine (c : Commit) : String :=
  tabs 3 ++ "(by [" ++ (c.author.map (·.login)).getD "" ++ "](" ++ (c.author.map (·.page)).getD "" ++ "))"

theorem toList_commitEntry (c : Commit) :
    (commitEntry c).toList = (entryLead c).toList ++
      joinWith ("<br>".toList ++ '\n' :: List.replicate 12 ' ') (toldLines c.message.toList) ++
        '\n' :: ((byLine c).toList ++ '\n' :: []) := by
  have hsep : ("<br>\n" ++ tabs 3).toList = "<br>".toList ++ '\n' :: List.replicate 12 ' ' := by decide
  have hend : "))\n" = "))" ++ "\n" := by decide
  unfold commitEntry entryLead byLine
  rw [hend, hsep]
  simp only [String.toList_append, String.toList_ofList, List.append_assoc]
  rfl

theorem newline_not_mem_entryLead {c : Commit} (hlabels : OneLine c.labels) : '\n' ∉ (entryLead c).toList := by
  have hsha : '\n' ∉ c.sha.toList.take 7 := fun h =>
    hlabels c.sha (by simp [Commit.labels]) (List.mem_of_mem_take h)
  have hpage : '\n' ∉ c.page.toList := hlabels _ (by simp [Commit.labels])
  simp [entryLead, tabs, tab, hsha, hpage]

theorem newline_not_mem_byLine {c : Commit} (hlabels : OneLine c.labels) : '\n' ∉ (byLine c).toList := by
  cases hauthor : c.author with
  | none => simp [byLine, hauthor, tabs, tab]
  | some a =>
    have hlogin : '\n' ∉ a.login.toList := hlabels _ (by simp [Commit.labels, hauthor])
    have hpage : '\n' ∉ a.page.toList := hlabels _ (by simp [Commit.labels, hauthor])
    simp [byLine, hauthor, tabs, tab, hlogin, hpage]

theorem isDeep_byLine (c : Commit) : IsDeep (byLine c).toList := by
  have hby : isBlank "(by [".toList = false := by decide
  refine isDeep_of_prefix hby ⟨((c.author.map (·.login)).getD "" ++ "](" ++ (c.author.map (·.page)).getD "" ++
    "))").toList, ?_⟩
  have htabs : (tabs 3).toList = List.replicate 12 ' ' := by decide
  unfold byLine
  simp only [String.toList_append, htabs, List.append_assoc]

/-- **The entry of a commit** is a line indented by two levels, and below it are lines indented by three. -/
theorem exists_lines_commitEntry {c : Commit} (hlabels : OneLine c.labels) :
    ∃ first more, lines (commitEntry c).toList = first :: (more ++ [[]]) ∧ List.replicate 8 ' ' <+: first ∧
      ∀ l ∈ more, IsDeep l := by
  obtain ⟨told, more, htold, hfirst, hmore⟩ := exists_toldLines c.message.toList
  have hlast : lines ((byLine c).toList ++ '\n' :: []) = [(byLine c).toList, []] :=
    Text.lines_cons (newline_not_mem_byLine hlabels) []
  have hclose : '\n' ∉ "<br>".toList := by decide
  have hindent : '\n' ∉ List.replicate 12 ' ' := by decide
  obtain ⟨first, rest, hlines, hhead, hrest⟩ := exists_lines_joined hclose hindent ((byLine c).toList ++ '\n' :: [])
    (newline_not_mem_entryLead hlabels) hfirst fun l hl => (hmore l hl).1
  refine ⟨first, rest ++ [(byLine c).toList], ?_, ?_, ?_⟩
  · rw [toList_commitEntry, htold, hlines, hlast]
    simp
  · have htabs : (tabs 2).toList = List.replicate 8 ' ' := by decide
    refine List.IsPrefix.trans ?_ hhead
    unfold entryLead
    simp only [String.toList_append, htabs, List.append_assoc]
    exact List.prefix_append _ _
  · intro l hl
    rcases List.mem_append.mp hl with hl | hl
    · obtain ⟨m, hm, hl⟩ := hrest l hl
      exact isDeep_of_prefix (hmore m hm).2 hl
    · rw [List.mem_singleton.mp hl]
      exact isDeep_byLine c

theorem wholeLines_commitEntry (releases : List Release) {c : Commit} (hlabels : OneLine c.labels) :
    WholeLines (IsInside releases) (commitEntry c).toList := by
  obtain ⟨first, more, hlines, hfirst, hmore⟩ := exists_lines_commitEntry hlabels
  refine ⟨first :: more, by rw [hlines, List.cons_append], ?_⟩
  have hindented : ∀ {n : Nat} {l : Text}, 4 ≤ n → List.replicate n ' ' <+: l → IsInside releases l := by
    intro n l hn hl
    exact .inr (.inr ((List.prefix_replicate_iff.mpr ⟨by simpa using hn, by simp⟩).trans hl))
  rw [List.forall_mem_cons]
  exact ⟨hindented (by decide) hfirst, fun l hl => hindented (by decide) (hmore l hl).1⟩

/-! ## §4. What a run writes. -/

/-- A piece of a changelog. -/
inductive Piece where
  /-- The head of the block of a release. -/
  | head (r : Release)
  /-- Notes. -/
  | notes (body : String)
  /-- What stands above commits. -/
  | updates
  /-- The entry of a commit. -/
  | entry (c : Commit)
  /-- The end of a block. -/
  | gap

/-- The text of a piece. -/
def Piece.text (repository : Repository) : Piece → String
  | .head r => releaseHead repository r
  | .notes body => releaseNotes body
  | .updates => updatesHead
  | .entry c => commitEntry c
  | .gap => "\n\n"

/-- The text of pieces. -/
def textOf (repository : Repository) (pieces : List Piece) : String :=
  String.join (pieces.map (Piece.text repository))

/-- A piece that is about a release or a commit of a host. -/
def Piece.IsOf (h : Host) : Piece → Prop
  | .head r => r ∈ h.releases
  | .entry c => ∃ n since till, c ∈ h.commits n since till
  | _ => True

/-- **Each piece keeps to the layout.** -/
theorem Piece.wholeLines {h : Host} (hlabels : h.OneLine) {p : Piece} (hp : p.IsOf h) :
    WholeLines (IsInside h.releases) (p.text h.repository).toList := by
  cases p with
  | head r => exact wholeLines_releaseHead hlabels hp
  | notes body => exact wholeLines_releaseNotes h.releases body
  | updates => exact wholeLines_updatesHead h.releases
  | entry c =>
    obtain ⟨n, since, till, hc⟩ := hp
    exact wholeLines_commitEntry h.releases (hlabels.commits n since till c hc)
  | gap => exact wholeLines_gap h.releases

/-- A writer that appends pieces of a host to the file and does nothing else to it, whether or not it ends early. -/
def Adds {α : Type} (h : Host) (w : Writer α) : Prop :=
  ∀ p text, p.file = some text → ∃ pieces : List Piece,
    (w.exec p).2.file = some (text ++ textOf h.repository pieces) ∧ ∀ x ∈ pieces, x.IsOf h

section Adds

variable {h : Host} {α β : Type}

/-- A writer that does not touch the file. -/
theorem adds_of_file {w : Writer α} (hfile : ∀ p, (w.exec p).2.file = p.file) : Adds h w := by
  intro p text htext
  exact ⟨[], by rw [hfile, htext]; simp [textOf], List.forall_mem_nil _⟩

theorem adds_put {pieces : List Piece} (hpieces : ∀ x ∈ pieces, x.IsOf h) :
    Adds h (Writer.put (textOf h.repository pieces)) := by
  intro p text htext
  exact ⟨pieces, by rw [exec_put, htext]; rfl, hpieces⟩

/-- **One writer after another**; the second is run only if the first gives a value. -/
theorem Adds.bind {w : Writer α} {f : α → Writer β} (hw : Adds h w)
    (hf : ∀ p a q, w.exec p = (.ok a, q) → Adds h (f a)) : Adds h (w >>= f) := by
  intro p text htext
  obtain ⟨pieces, hfile, hpieces⟩ := hw p text htext
  rw [exec_bind]
  cases hrun : w.exec p with
  | mk result q =>
    rw [hrun] at hfile
    cases result with
    | error e => exact ⟨pieces, hfile, hpieces⟩
    | ok a =>
      obtain ⟨more, hfile', hmore⟩ := hf p a q hrun q _ hfile
      refine ⟨pieces ++ more, ?_, List.forall_mem_append.mpr ⟨hpieces, hmore⟩⟩
      rw [hfile', String.append_assoc]
      simp [textOf]

theorem adds_orFault (r : Except Fault α) : Adds h (Writer.orFault r) := by
  refine adds_of_file fun p => ?_
  cases r <;> rfl

theorem exec_orFault_eq_ok {r : Except Fault α} {p q : Progress} {a : α} (hrun : (Writer.orFault r).exec p = (.ok a, q)) :
    r = .ok a := by
  cases r with
  | ok b => cases hrun; rfl
  | error f => cases hrun

theorem adds_piece {x : Piece} (hx : x.IsOf h) : Adds h (Writer.put (x.text h.repository)) := by
  have hadds := adds_put (List.forall_mem_singleton.mpr hx)
  rwa [textOf, List.map_singleton, String.join_cons, String.join_nil, String.append_empty] at hadds

theorem mem_of_newestFirst {time : α → Stamp} {xs sorted : List α} (hsorted : newestFirst time xs = .ok sorted) {x : α}
    (hx : x ∈ sorted) : x ∈ xs := by
  unfold newestFirst at hsorted
  split at hsorted
  · cases hsorted
  · obtain rfl := Except.ok.inj hsorted
    exact List.mem_mergeSort.mp hx

/-- Commits that are told are among those that the host gives. -/
theorem mem_of_toldCommits {cs told : List Commit} (htold : toldCommits cs = .ok told) {c : Commit} (hc : c ∈ told) :
    c ∈ cs := by
  unfold toldCommits at htold
  cases hsorted : newestFirst (·.date) cs with
  | error f =>
    rw [hsorted] at htold
    cases htold
  | ok sorted =>
    rw [hsorted] at htold
    obtain rfl := Except.ok.inj htold
    exact mem_of_newestFirst hsorted (List.mem_of_mem_filter hc)

theorem exists_of_notesOf {r : Release} {text : String} (h : notesOf r = .ok text) :
    ∃ body, text = releaseNotes body := by
  unfold notesOf at h
  split at h
  · exact ⟨_, (Except.ok.inj h).symm⟩
  · cases h

/-- **The releases are written in pieces**, up to the one at which the run ends. -/
theorem adds_writeReleases {rs : List Release} (hrs : ∀ r ∈ rs, r ∈ h.releases) (n : Nat) :
    Adds h (writeReleases h n rs) := by
  induction rs generalizing n with
  | nil => exact adds_of_file fun _ => rfl
  | cons r before ih =>
    obtain ⟨hr, hbefore⟩ := List.forall_mem_cons.mp hrs
    have hhead : (Piece.head r).IsOf h := hr
    rw [writeReleases]
    refine (adds_piece hhead).bind fun _ _ _ _ => (adds_orFault _).bind fun _ notes _ hnotes => ?_
    obtain ⟨body, rfl⟩ := exists_of_notesOf (exec_orFault_eq_ok hnotes)
    have hbody : (Piece.notes body).IsOf h := trivial
    have hupdates : Piece.updates.IsOf h := trivial
    refine (adds_piece hbody).bind fun _ _ _ _ => (adds_piece hupdates).bind fun _ _ _ _ => ?_
    refine Adds.bind (adds_of_file fun _ => rfl) fun _ _ _ _ => (adds_orFault _).bind fun _ told _ htold => ?_
    have hentries : ∀ x ∈ told.map Piece.entry, x.IsOf h := by
      intro x hx
      obtain ⟨c, hc, rfl⟩ := List.mem_map.mp hx
      exact ⟨n, _, _, mem_of_toldCommits (exec_orFault_eq_ok htold) hc⟩
    have htext : String.join (told.map commitEntry) = textOf h.repository (told.map Piece.entry) := by
      rw [textOf, List.map_map]
      rfl
    have hgap : Piece.gap.IsOf h := trivial
    rw [htext]
    exact (adds_put hentries).bind fun _ _ _ _ => (adds_piece hgap).bind fun _ _ _ _ => ih hbefore (n + 1)

end Adds

/-- **Every run writes the heading, the styling and then pieces of the host.** -/
theorem exists_pieces (h : Host) (name : String) :
    ∃ pieces : List Piece, (∀ x ∈ pieces, x.IsOf h) ∧
      (writeAll h name).outcome.2.file = some (heading h.repository ++ styling ++ textOf h.repository pieces) := by
  have hadds : Adds h (Writer.orFault (newestFirst (·.created) h.releases) >>= fun releases =>
      writeReleases h 0 releases >>= fun _ => Writer.command ("blacken-docs " ++ fileName)) := by
    refine (adds_orFault _).bind fun _ releases _ hsorted => ?_
    have hmem : ∀ r ∈ releases, r ∈ h.releases := fun r hr => mem_of_newestFirst (exec_orFault_eq_ok hsorted) hr
    exact (adds_writeReleases hmem 0).bind fun _ _ _ _ => adds_of_file fun _ => rfl
  obtain ⟨p, hp, hstart⟩ : ∃ p, p.file = some (heading h.repository ++ styling) ∧
      (writeAll h name).exec {} = (Writer.orFault (newestFirst (·.created) h.releases) >>= fun releases =>
        writeReleases h 0 releases >>= fun _ => Writer.command ("blacken-docs " ++ fileName)).exec p := by
    refine ⟨_, ?_, rfl⟩
    simp
  obtain ⟨pieces, hfile, hpieces⟩ := hadds p _ hp
  refine ⟨pieces, hpieces, ?_⟩
  rw [← hfile, ← hstart, outcome_eq]
  cases hrun : (writeAll h name).exec {} with
  | mk result q => cases result <;> rfl

/-! ## §5. The layout. -/

/-- Whatever the notes of releases and the messages of commits hold, a changelog is its heading, the styling and pieces
of its host. Each line behind the styling that is not blank opens the block of a release or is indented by one level,
and each line of the entry of a commit but the first is indented by three levels and not blank. -/
theorem lines_stay_inside {h : Host} (hlabels : h.OneLine) (name : String) :
    (∃ pieces : List Piece, (∀ x ∈ pieces, x.IsOf h) ∧
      (writeAll h name).outcome.2.file = some (heading h.repository ++ styling ++ textOf h.repository pieces) ∧
      ∀ line ∈ lines (textOf h.repository pieces).toList, isBlank line = false →
        (∃ r ∈ h.releases, line = ("!!! info \"" ++ r.tag ++ "\"").toList) ∨ List.replicate 4 ' ' <+: line) ∧
      ∀ n since till, ∀ c ∈ h.commits n since till, ∃ first more,
        lines (commitEntry c).toList = first :: (more ++ [[]]) ∧
        ∀ line ∈ more, List.replicate 12 ' ' <+: line ∧ isBlank line = false := by
  constructor
  · obtain ⟨pieces, hpieces, hfile⟩ := exists_pieces h name
    have hwhole : WholeLines (IsInside h.releases) (textOf h.repository pieces).toList := by
      refine WholeLines.join fun t ht => ?_
      obtain ⟨x, hx, rfl⟩ := List.mem_map.mp ht
      exact Piece.wholeLines hlabels (hpieces x hx)
    refine ⟨pieces, hpieces, hfile, fun line hline hsolid => ?_⟩
    rcases hwhole.mem_lines line hline with rfl | hblank | hinside
    · cases hsolid
    · rw [hblank] at hsolid
      cases hsolid
    · exact hinside
  · intro n since till c hc
    obtain ⟨first, more, hlines, -, hmore⟩ := exists_lines_commitEntry (hlabels.commits n since till c hc)
    exact ⟨first, more, hlines, hmore⟩

/-- A release whose notes hold what looks like the head of a block. -/
def unrulyRelease : Release :=
  { tag := "v1", name := none, created := { day := ⟨2024, 1, 1⟩, clock := ⟨0, 0, 0, 0⟩ }, page := "https://h/v1"
    body := some "# News\n\n!!! info \"v0\"\n\n\n- one\n" }

/-- A commit whose message has blank lines, blanks in front and further authors. -/
def unrulyCommit : Commit :=
  { sha := "aaaaaaaaaa", page := "https://h/c"
    message := "\n\n  !!! warning\n \t\nCo-authored-by: b\n\rend"
    date := { day := ⟨2024, 1, 1⟩, clock := ⟨0, 0, 0, 0⟩ }, author := some { login := "a", page := "https://h/a" } }

/-- A host with both. -/
def unrulyHost : Host :=
  { repository := { fullName := "o/r", page := "https://h/o/r", api := "https://api/o/r" }
    releases := [unrulyRelease]
    commits := fun _ _ _ => [unrulyCommit] }

theorem oneLine_unrulyHost : unrulyHost.OneLine where
  repository := by decide
  releases := by
    intro r hr t ht
    obtain rfl := List.mem_singleton.mp hr
    revert t
    decide
  commits := by
    intro _ _ _ c hc t ht
    obtain rfl := List.mem_singleton.mp hc
    revert t
    decide

/-- Unruly notes and messages stay inside the block of their release. -/
theorem lines_stay_inside_unruly :
    unrulyHost.OneLine ∧
      (∃ pieces : List Piece, (∀ x ∈ pieces, x.IsOf unrulyHost) ∧
        (writeAll unrulyHost "o/r").outcome.2.file
          = some (heading unrulyHost.repository ++ styling ++ textOf unrulyHost.repository pieces) ∧
        ∀ line ∈ lines (textOf unrulyHost.repository pieces).toList, isBlank line = false →
          (∃ r ∈ unrulyHost.releases, line = ("!!! info \"" ++ r.tag ++ "\"").toList) ∨
            List.replicate 4 ' ' <+: line) ∧
      ∃ first more, lines (commitEntry unrulyCommit).toList = first :: (more ++ [[]]) ∧
        ∀ line ∈ more, List.replicate 12 ' ' <+: line ∧ isBlank line = false := by
  obtain ⟨hfile, hentries⟩ := lines_stay_inside oneLine_unrulyHost "o/r"
  exact ⟨oneLine_unrulyHost, hfile, hentries 0 none unrulyCommit.date unrulyCommit List.mem_cons_self⟩

end DocLint.Changelog
