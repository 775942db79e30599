import DocLint.Text.Case
import DocLint.Text.Basic
import DocLint.Value.Order
import DocLint.Value.Show

/-!
DocLint.Changelog.Entry: releases and commits, and what the changelog says of them.

Every release has a block of its own, with its notes and its commits indented below its head.
-/

namespace DocLint.Changelog

open Text (trim lower startsWith)

/-! ## Points in time -/

/-- A day and a time, perhaps with an offset from universal time. -/
structure Stamp where
  /-- The day. -/
  day : Date
  /-- The time. -/
  clock : Clock
  /-- The minutes ahead of universal time. -/
  offset : Option Int := none
  deriving DecidableEq, Repr

namespace Stamp

/-- The point in time of a moment that has a day; without a time it is midnight. -/
def ofMoment? : Moment → Option Stamp
  | .date d => some { day := d, clock := ⟨0, 0, 0, 0⟩ }
  | .time _ => none
  | .atTime d t => some { day := d, clock := t }
  | .atOffset d t minutes => some { day := d, clock := t, offset := some minutes }

/-- A point in time as `2020-01-31T07:32:00+01:00`. -/
def iso (s : Stamp) : String :=
  s.day.plain ++ "T" ++ s.clock.plain ++ (s.offset.map Moment.offsetText).getD ""

/-- The microseconds since a fixed day. -/
def instant (s : Stamp) : Int :=
  Moment.instant s.day s.clock (s.offset.getD 0)

end Stamp

/-- Sorts by time, the latest first; equal ones keep their order. Times with and without an offset
cannot be compared. -/
def newestFirst {α : Type} (time : α → Stamp) (xs : List α) : Except Fault (List α) :=
  if xs.any (fun x => (time x).offset.isSome) && xs.any (fun x => (time x).offset.isNone) then
    .error .mixedOffsets
  else .ok (xs.mergeSort fun a b => (time b).instant ≤ (time a).instant)

/-! ## Releases and commits -/

/-- A repository. -/
structure Repository where
  /-- Its name with that of its owner. -/
  fullName : String
  /-- Its page. -/
  page : String
  /-- Its address for programs. -/
  api : String
  deriving DecidableEq, Repr

/-- A release. -/
structure Release where
  /-- Its tag. -/
  tag : String
  /-- Its name. -/
  name : Option String
  /-- When it was made. -/
  created : Stamp
  /-- Its page. -/
  page : String
  /-- Its notes. -/
  body : Option String
  deriving DecidableEq, Repr

/-- An account. -/
structure Account where
  /-- Its name. -/
  login : String
  /-- Its page. -/
  page : String
  deriving DecidableEq, Repr

/-- A commit. -/
structure Commit where
  /-- Its identifier. -/
  sha : String
  /-- Its page. -/
  page : String
  /-- Its message. -/
  message : String
  /-- When it was made. -/
  date : Stamp
  /-- Who made it. -/
  author : Option Account
  deriving DecidableEq, Repr

/-! ## Pieces of the changelog -/

/-- One level of indentation. -/
def tab : String := "    "

/-- Several levels of indentation. -/
def tabs (n : Nat) : String :=
  String.join (List.replicate n tab)

/-- What the changelog starts with. -/
def heading (r : Repository) : String :=
  "<!-- !This file is auto-generated. Do not edit this file manually! -->\n\n" ++
    "<!-- repo='" ++ r.fullName ++ "' -->\n" ++
    "<!-- origin_url='" ++ r.page ++ "' -->\n" ++
    "<!-- api_url='" ++ r.api ++ "' -->\n\n"

/-- The style of the page. -/
def styling : String :=
  "<style>\n" ++
    ".md-nav--secondary .md-nav__list .md-nav__item \x7b display: block; padding-bottom: 0.5em; \x7d\n" ++
    ".md-nav--secondary .md-nav__list .md-nav__list \x7b display: none; \x7d\n" ++
    "</style>\n\n"

/-- The head of the block of a release. -/
def releaseHead (r : Repository) (release : Release) : String :=
  "!!! info \"" ++ release.tag ++ "\"\n\n" ++
    tab ++ "## **" ++ release.name.getD "None" ++ "**\n\n" ++
    tab ++ "<!-- md:tag " ++ release.tag ++ " --><br>\n" ++
    tab ++ "<!-- md:date " ++ release.created.day.plain ++ " --><br>\n" ++
    tab ++ "<!-- md:link [" ++ r.fullName ++ "/releases/" ++ release.tag ++ "](" ++ release.page ++
    ") -->\n\n"

/-- Notes as they stand in the changelog: one newline for two, headings one level lower, and each
newline an indentation. -/
def notesText (body : Text) : Text :=
  let body := Text.replace ['\n', '\n'] ['\n'] body
  let body := Text.replace "## ".toList "### ".toList body
  Text.replace ['\n'] (tabs 2).toList body

/-- The notes of a release. -/
def releaseNotes (body : String) : String :=
  tab ++ "??? note \"Release Notes\"\n\n" ++ tabs 2 ++ String.ofList (notesText body.toList) ++ "\n\n"

/-- The head of the commits of a release. -/
def updatesHead : String :=
  tab ++ "??? abstract \"Updates\"\n\n"

/-- Whether a line of a message is left out: blank ones, and those that name further authors. -/
def isOmitted (line : Text) : Bool :=
  (trim line).isEmpty || startsWith (lower line) "co-authored-by:".toList

/-- The lines of a message that are told; the first one always is. -/
def toldLines (message : Text) : List Text :=
  match Text.lines message with
  | [] => []
  | first :: more => (first :: more.filter (!isOmitted ·)).map trim

/-- A commit in the changelog. -/
def commitEntry (c : Commit) : String :=
  let text := Text.joinWith ("<br>\n" ++ tabs 3).toList (toldLines c.message.toList)
  let login := (c.author.map (·.login)).getD ""
  let page := (c.author.map (·.page)).getD ""
  tabs 2 ++ "* [`" ++ String.ofList (c.sha.toList.take 7) ++ "`](" ++ c.page ++ "): " ++
    String.ofList text ++ "\n" ++ tabs 3 ++ "(by [" ++ login ++ "](" ++ page ++ "))\n"

/-- Words of messages that are of no interest. -/
def skippedWords : List String :=
  ["Merge", "Bump", "Update coverage report", "Update changelog"]

/-- Whether a commit is told. -/
def isRelevant (c : Commit) : Bool :=
  !skippedWords.any (Text.contains c.message.toList ·.toList)

end DocLint.Changelog
