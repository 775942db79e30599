import DocLint.Schema.Generate
import DocLint.Schema.Json
import DocLint.Workspace.Configuration

/-!
DocLint.Schema.Write: generators of schemas, and the files that they write.

All generators start from one common schema. A generator keeps a schema of its own from the moment on
at which it makes one; before that it adds to the common one.
-/

namespace DocLint.Schema

/-! ## Errors -/

/-- Why a schema is not made or written. -/
inductive Error where
  /-- A table lacks a key. -/
  | missingKey (key : String)
  /-- A value is not of the type that is needed. -/
  | fault (f : Fault)
  /-- There is no such file. -/
  | noFile (path : String)
  /-- A directory is used like a file. -/
  | isDirectory (path : String)
  /-- A file is used like a directory. -/
  | notDirectory (path : String)
  /-- A file stands where a directory is to be made. -/
  | fileExists (path : String)
  /-- A file is no text. -/
  | undecodable (e : Text.DecodeError)
  /-- A file is no TOML document. -/
  | malformed (e : Toml.Error) (diagnosis : String)
  /-- A value of this type has no form in JSON. -/
  | notSerializable (type : String)

/-- The message of an error. -/
def Error.message : Error → String
  | .missingKey key => Text.quote key
  | .fault f => f.message
  | .noFile path => "[Errno 2] No such file or directory: " ++ Text.quote path
  | .isDirectory path => isDirectoryMessage path
  | .notDirectory path => "[Errno 20] Not a directory: " ++ Text.quote path
  | .fileExists path => "[Errno 17] File exists: " ++ Text.quote path
  | .undecodable e => e.message
  | .malformed e diagnosis => e.message diagnosis
  | .notSerializable type => "Object of type " ++ type ++ " is not JSON serializable"

/-! ## Generators -/

/-- What a generator describes. -/
inductive Kind where
  /-- The configuration. -/
  | config
  /-- The project file. -/
  | project
  deriving DecidableEq, Repr

/-- A generator. -/
structure Generator where
  /-- What it describes. -/
  kind : Kind
  /-- Its own schema, once it has one. -/
  own : Option Table := none
  /-- What the project file says of the project, once that has been read. -/
  project : Option Value := none

/-- Generators at work. -/
structure Studio where
  /-- The files. -/
  workspace : Workspace
  /-- The project file. -/
  projectFile : Path
  /-- The global options. -/
  globals : List Field := globalFields
  /-- The fields of sections. -/
  sections : List Field := sectionFields
  /-- The schema that generators share. -/
  common : Table := []
  /-- The generator at work. -/
  generator : Generator := { kind := .config }

namespace Studio

/-- The schema of the generator at work. -/
def schema (s : Studio) : Table :=
  s.generator.own.getD s.common

/-- Another generator takes over. -/
def renew (s : Studio) (kind : Kind) : Studio :=
  { s with generator := { kind } }

/-- Gives the generator a schema of its own. -/
def setOwn (s : Studio) (t : Table) : Studio :=
  { s with generator := { s.generator with own := some t } }

/-- Changes the schema of the generator, which may be the common one. -/
def change (s : Studio) (t : Table) : Studio :=
  match s.generator.own with
  | some _ => s.setOwn t
  | none => { s with common := t }

/-- Makes the start of a schema. -/
def addHeaders (s : Studio) : Studio :=
  s.setOwn headers

/-- Adds the global options. -/
def addGlobals (s : Studio) : Studio :=
  s.change (addGlobal s.globals s.schema)

/-- Adds the list of sections. -/
def addSections (s : Studio) : Except Error Studio :=
  match addSections? s.sections s.schema with
  | some t => .ok (s.change t)
  | none => .error (.missingKey "properties")

/-- The entry of a table, which must have it. -/
def need (key : String) (v : Value) : Except Error Value :=
  match v with
  | .table es =>
    match es.lookup key with
    | some w => .ok w
    | none => .error (.missingKey key)
  | v => (v.item key).mapError .fault

/-- Reads what the project file says of the project. -/
def readProject (s : Studio) : Except Error Value := do
  let path := s.projectFile.render
  match s.workspace.node? s.projectFile with
  | none => throw (.noFile path)
  | some (.dir _) => throw (.isDirectory path)
  | some (.file bytes) =>
    let text ← (Text.decode bytes).mapError .undecodable
    let document ← (Toml.parse text).mapError (.malformed · (s.workspace.diagnoses.document text))
    need "project" (.table document)

/-- What the project file says of the project; it is read once. -/
def projectInfo (s : Studio) : Except Error Value :=
  match s.generator.project with
  | some v => .ok v
  | none => s.readProject

/-- Makes the schema of the project file. -/
def addProject (s : Studio) (info : Value) : Except Error Studio := do
  let name ← need "name" info
  let description ← need "description" info
  pure (s.setOwn (projectSchema name description))

/-- Makes the schema of the generator at work: the studio after it, and the error if there is one. -/
def generate (s : Studio) : Studio × Option Error :=
  match s.generator.kind with
  | .config => after s.addHeaders.addGlobals s.addHeaders.addGlobals.addSections
  | .project =>
    match s.projectInfo with
    | .error e => (s, some e)
    | .ok info =>
      let s := { s with generator := { s.generator with project := some info } }
      after s (s.addProject info)
where
  /-- The studio `s`, or the one that comes after it. -/
  after (s : Studio) : Except Error Studio → Studio × Option Error
    | .ok s => (s, none)
    | .error e => (s, some e)

/-! ## Files -/

/-- Makes a directory and those on the way. -/
def makeDir (w : Workspace) (p : Path) : Except Error Workspace :=
  match w.node? p with
  | some (.dir _) => .ok w
  | some (.file _) => .error (.fileExists p.render)
  | none =>
    if (List.range p.parts.length).any fun n => w.isFile { p with parts := p.parts.take n } then
      .error (.notDirectory p.render)
    else .ok (w.makeDir p)

/-- What is printed when a schema has been written. -/
def doneLine (path : String) : String :=
  "✅ Successfully generated docstring-format-checker schema at: " ++ path ++ "\n"

/-- The workspace after a schema is written to a file of a directory, and what is printed or the error.
A schema that has no form in JSON is written up to where it has none. -/
def write (s : Studio) (name : String) (directory : Path) : Workspace × Except Error String :=
  match makeDir s.workspace directory with
  | .error e => (s.workspace, .error e)
  | .ok w =>
    let target := Path.ofString name
    let p := if target.isAbsolute then target else directory.child target.parts
    let (text, bad) := jsonText (.table s.schema)
    let bytes (t : String) : List UInt8 := t.toUTF8.toList
    if w.isDir p then (w, .error (.isDirectory p.render))
    else if w.isFile p.parent then (w, .error (.notDirectory p.render))
    else if !w.exists? p.parent then (w, .error (.noFile p.render))
    else match bad with
      | some type => (w.write p (bytes text), .error (.notSerializable type))
      | none => (w.write p (bytes (text ++ "\n")), .ok (doneLine p.render))

end Studio

/-- Makes both schemas and writes them to a directory: the workspace after it, what is printed, and the
error that ended it. -/
def writeBoth (w : Workspace) (projectFile directory : Path) : Workspace × String × Option Error :=
  let made (w : Workspace) (kind : Kind) (name : String) : Workspace × Except Error String :=
    let s : Studio := { workspace := w, projectFile, generator := { kind } }
    match s.generate with
    | (_, some e) => (w, .error e)
    | (s, none) => s.write name directory
  match made w .config "partial-dfc.json" with
  | (w, .error e) => (w, "", some e)
  | (w, .ok first) =>
    match made w .project "pyproject.json" with
    | (w, .error e) => (w, first, some e)
    | (w, .ok second) => (w, first ++ second, none)

end DocLint.Schema
