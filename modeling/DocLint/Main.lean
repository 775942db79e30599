import DocLint.CommandLine.Help
import DocLint.CommandLine.Run
import DocLint.Report.Plain

/-!
DocLint.Main: the command line.

The run itself is a function of a workspace. What is done here is to read into one the files that the
run may look at, to print what it shows and to end with its exit code.
-/

namespace DocLint.CommandLine

/-- The absolute path of names as text. -/
def diskPath (names : List String) : String :=
  (Workspace.absolute names).render

/-- Reads a file or a directory with everything in it; what cannot be read is left out. -/
partial def loadNode (names : List String) : IO (Option Node) := do
  let path := System.mkFilePath [diskPath names]
  if ← path.isDir then
    let entries ← try path.readDir catch _ => pure #[]
    let mut found : List (String × Node) := []
    for e in entries do
      if let some n ← loadNode (names ++ [e.fileName]) then
        found := found ++ [(e.fileName, n)]
    return some (.dir found)
  else if ← path.pathExists then
    try return some (.file (← IO.FS.readBinFile path).toList)
    catch _ => return none
  else return none

/-- Reads what a path leads to, and the directories on the way. -/
def loadPath (w : Workspace) (p : Path) : IO Workspace := do
  let mut w := w
  for n in List.range p.parts.length do
    let above : Path := { p with parts := p.parts.take n }
    if ← (System.mkFilePath [diskPath (w.resolve above)]).isDir then
      w := w.makeDir above
  match ← loadNode (w.resolve p) with
  | some n => return { w with root := w.root.updateAt (fun _ => some n) (w.resolve p) }
  | none => return w

/-- The configuration files in the directory of a path and in those above it. -/
def configPaths (w : Workspace) (p : Path) : List Path :=
  let names := w.resolve p
  (List.range (names.length + 1)).map fun n => Workspace.absolute (names.take n ++ [configName])

/-- Reads everything that a run may look at. -/
def loadWorkspace (args : List String) : IO Workspace := do
  let cwd := Path.ofString (← IO.currentDir).toString
  let mut w : Workspace := { root := .dir [], cwd := cwd.parts }
  w := w.makeDir cwd
  if let some a := Arguments.parse? args then
    let paths := a.paths.map Path.ofString
    let configs := (cwd :: paths).flatMap (configPaths w)
    for p in (a.values .config).map Path.ofString ++ configs ++ paths do
      w ← loadPath w p
  return w

/-- The width of the terminal, if the environment tells it. -/
def terminalWidth : IO (Option Nat) := do
  return (← IO.getEnv "COLUMNS").bind (·.toNat?)

end DocLint.CommandLine

open DocLint DocLint.CommandLine in
/-- Runs the command. -/
def main (args : List String) : IO UInt32 := do
  let outcome := run .plain (← loadWorkspace args) (← terminalWidth) args
  for o in outcome.out do
    IO.println (o.text helpText)
  if let some message := outcome.escaped then
    IO.eprintln message
  return outcome.exit.toUInt32
