import DocLint.Changelog.Entry
import DocLint.Workspace.Check

/-!
DocLint.Changelog.Write: the whole changelog.

Releases are told from the latest to the first. The commits of a release are those since the release
before it, where a release with the tag `0` counts as none. The file is written piece by piece, so that
it holds what came before an error.
-/

namespace DocLint.Changelog

/-- Why the changelog is not written to its end. -/
inductive Failure where
  /-- A variable of the environment is not set. -/
  | missingVariable (name : String)
  /-- A value is not of the type that is needed. -/
  | fault (f : Fault)
  deriving DecidableEq, Repr

/-- The message of a failure. -/
def Failure.message : Failure → String
  | .missingVariable name =>
    "Environment variable `" ++ name ++ "` is not set. Please set it before running the script."
  | .fault f => f.message

/-- A question to the host of the repository. -/
inductive Call where
  /-- Signs in. -/
  | auth (token : String)
  /-- Asks for a repository. -/
  | repo (name : String)
  /-- Asks for the commits of a period, from the beginning if it has no start. -/
  | commits (since : Option Stamp) (till : Stamp)
  deriving DecidableEq, Repr

/-- What has happened so far. -/
structure Progress where
  /-- The questions asked. -/
  calls : List Call := []
  /-- The content of the file, once it exists. -/
  file : Option String := none
  /-- The commands run. -/
  commands : List String := []
  deriving DecidableEq, Repr

/-- Writes the changelog. -/
abbrev Writer := ExceptT Failure (StateM Progress)

namespace Writer

/-- Asks a question. -/
def ask (c : Call) : Writer Unit :=
  modify fun p => { p with calls := p.calls ++ [c] }

/-- Writes to the file. -/
def put (text : String) : Writer Unit :=
  modify fun p => { p with file := some (p.file.getD "" ++ text) }

/-- Runs a command. -/
def command (text : String) : Writer Unit :=
  modify fun p => { p with commands := p.commands ++ [text] }

/-- Goes on unless there is a fault. -/
def orFault {α : Type} (r : Except Fault α) : Writer α :=
  match r with
  | .ok a => pure a
  | .error f => throw (.fault f)

end Writer

/-- Where releases and commits come from. -/
structure Host where
  /-- The repository. -/
  repository : Repository
  /-- Its releases. -/
  releases : List Release
  /-- The answer to the question for commits that is asked as number `n`, from 0 on. -/
  commits : (n : Nat) → (since : Option Stamp) → (till : Stamp) → List Commit

/-- The start of the period of a release, from the releases before it. -/
def periodStart : List Release → Option Stamp
  | [] => none
  | r :: _ => if r.tag == "0" then none else some r.created

/-- The notes of a release, which it must have. -/
def notesOf (r : Release) : Except Fault String :=
  match r.body with
  | some body => .ok (releaseNotes body)
  | none => .error (.noAttribute "NoneType" "replace")

/-- The commits of a release in the order in which they are told. -/
def toldCommits (cs : List Commit) : Except Fault (List Commit) :=
  (newestFirst (·.date) cs).map (·.filter isRelevant)

/-- Writes the blocks of releases; `n` of them have been written. -/
def writeReleases (h : Host) (n : Nat) : List Release → Writer Unit
  | [] => pure ()
  | r :: before => do
    Writer.put (releaseHead h.repository r)
    Writer.put (← Writer.orFault (notesOf r))
    Writer.put updatesHead
    let since := periodStart before
    Writer.ask (.commits since r.created)
    let cs ← Writer.orFault (toldCommits (h.commits n since r.created))
    Writer.put (String.join (cs.map commitEntry))
    Writer.put "\n\n"
    writeReleases h (n + 1) before

/-- The name of the file. -/
def fileName : String := "CHANGELOG.md"

/-- Writes the changelog of a repository. -/
def writeAll (h : Host) (name : String) : Writer Unit := do
  Writer.put ""
  Writer.ask (.repo name)
  Writer.put (heading h.repository)
  Writer.put styling
  let releases ← Writer.orFault (newestFirst (·.created) h.releases)
  writeReleases h 0 releases
  Writer.command ("blacken-docs " ++ fileName)

/-- A variable of the environment. -/
def variableOf (environment : List (String × String)) (name : String) : Writer String :=
  match environment.lookup name with
  | some value => pure value
  | none => throw (.missingVariable name)

/-- Writes the changelog of the repository that the environment names. -/
def write (h : Host) (environment : List (String × String)) : Writer Unit := do
  let token ← variableOf environment "GITHUB_TOKEN"
  let name ← variableOf environment "REPOSITORY_NAME"
  Writer.ask (.auth token)
  writeAll h name

/-- Runs a writer: why it ended early, if it did, and what happened. -/
def Writer.outcome (w : Writer Unit) : Option Failure × Progress :=
  match (w.run).run {} with
  | (.ok _, p) => (none, p)
  | (.error f, p) => (some f, p)

/-- Empties the file, or makes it. -/
def prepareFile (w : Workspace) : Except FileError Workspace :=
  let p := Path.ofString fileName
  if w.isDir p then .error (.isDirectory fileName) else .ok (w.write p [])

end DocLint.Changelog
