import DocLint.Config.Parse
import DocLint.Toml.Document
import DocLint.Workspace.Check

/-!
DocLint.Workspace.Configuration: configuration files.

`loadConfig` reads the configuration in a file, `findConfig` looks for a file that has one: the
nearest, in a directory and those above it. What cannot be read there is passed over, except that a
path that cannot be looked up ends the search.
-/

namespace DocLint

/-- The name of configuration files. -/
def configName : String := "pyproject.toml"

/-- The document in a file, or the reason why there is none in words. -/
def readDocument (d : Diagnoses) (path : String) : Node → Except String Value
  | .dir _ => .error (isDirectoryMessage path)
  | .file bytes =>
    match Text.decode bytes with
    | .error e => .error e.message
    | .ok text =>
      match Toml.parse text with
      | .error e => .error (e.message (d.document text))
      | .ok table => .ok (.table table)

namespace Workspace

/-- Reads the configuration in a file. -/
def readConfig (w : Workspace) (p : Path) : Except ConfigError Config := do
  match w.lookup p with
  | .tooLong => throw (.unknowable (tooLongMessage p.render))
  | .missing => throw (.notFound p.render)
  | .found n =>
    let document ← (readDocument w.diagnoses p.render n).mapError (.unreadable p.render)
    configOf document

/-- The configuration of a path. Without a path it is that of the directory in which one works, or the
default one. -/
def loadConfig (w : Workspace) : Option Path → Except ConfigError Config
  | some p => w.readConfig p
  | none =>
    let p := absolute (w.cwd ++ [configName])
    match w.lookup p with
    | .missing => .ok defaultConfig
    | _ => w.readConfig p

/-- Whether a document holds a table that configures this program. -/
def hasTool (document : Value) : Bool :=
  let found : Except Fault Bool := do
    if ← document.holds "tool" then
      let tool ← document.item "tool"
      toolNames.foldlM (fun found name => if found then pure true else tool.holds name) false
    else pure false
  found.toOption.getD false

/-- Whether a node is a file that configures this program. -/
def configures (w : Workspace) (path : String) (n : Node) : Bool :=
  match readDocument w.diagnoses path n with
  | .ok document => hasTool document
  | .error _ => false

/-- The nearest file that configures this program in the directory of `names`, given innermost first,
and those above it; the root is not searched. -/
def findFrom (w : Workspace) : (names : List String) → Except ConfigError (Option Path)
  | [] => .ok none
  | name :: above =>
    let p := absolute ((name :: above).reverse ++ [configName])
    match w.lookup p with
    | .tooLong => .error (.unknowable (tooLongMessage p.render))
    | .missing => w.findFrom above
    | .found n => if w.configures p.render n then .ok (some p) else w.findFrom above

/-- The nearest file that configures this program, from a path on upwards. -/
def findConfig (w : Workspace) (start : Path) : Except ConfigError (Option Path) :=
  w.findFrom (w.resolve start).reverse

end Workspace

end DocLint
