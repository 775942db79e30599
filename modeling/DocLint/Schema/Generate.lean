import DocLint.Config.Parse
import DocLint.Value.Order

/-!
DocLint.Schema.Generate: a schema of the configuration.

The options and the fields of sections are described by `Field`s; a schema is a table that says for
each of them its title, its description, its type and its default. The schema of a whole project file
only refers to that one.
-/

namespace DocLint.Schema

/-! ## Fields -/

/-- The type of a field. -/
inductive FieldType where
  /-- A type by its name. -/
  | named (name : String)
  /-- One of several values. -/
  | literal (values : List Value)
  /-- One of several types by name, where `none` is the type of no value. -/
  | union (types : List (Option String))

/-- A field of the configuration. -/
structure Field where
  /-- Its name. -/
  name : String
  /-- Its type. -/
  type : FieldType
  /-- Its default; a field without one is required. -/
  default : Option Value := none
  /-- Its title. -/
  title : Option Value := none
  /-- Its description. -/
  description : Option Value := none

/-- The names of types in schemas. -/
def typeNames : List (String × String) :=
  [("str", "string"), ("int", "integer"), ("bool", "boolean"), ("float", "number")]

/-- The name of a type in a schema; types without one keep theirs. -/
def schemaName (type : String) : String :=
  (typeNames.lookup type).getD type

/-- The name of the type of no value, where it stands alone. -/
def noneName : String := "NoneType"

/-- The members of a list, each once. Values of different types differ. -/
def distinct (vs : List Value) : List Value :=
  vs.foldl (fun seen v =>
    if seen.any fun w => w.same v && w.typeName == v.typeName then seen else seen ++ [v]) []

/-- What a schema says of a type. -/
def FieldType.entries : FieldType → Table
  | .named name => [("type", .text (schemaName name))]
  | .literal values => [("type", .text "string"), ("enum", .list (distinct values))]
  | .union types =>
    match types.eraseDups with
    | [some name] => [("type", .text (schemaName name))]
    | [none] => [("type", .text noneName)]
    | ts =>
      let named := (ts.filterMap id).map fun t => Value.text (schemaName t)
      [("type", .list (named ++ if ts.contains none then [.text "null"] else []))]

/-- What a schema says of a field. -/
def Field.entries (f : Field) : Table :=
  let given (key : String) (v : Option Value) : Table := (v.map (key, ·)).toList
  given "title" f.title ++ given "description" f.description ++ f.type.entries ++
    given "default" f.default

/-- The table of fields; of two with one name the later one counts. -/
def fieldTable (fs : List Field) : Table :=
  Entries.ofPairs (fs.map fun f => (f.name, .table f.entries))

/-! ## The fields of the configuration -/

/-- A field with its title and description. -/
def described (name : String) (type : FieldType) (default : Option Value) (title text : String) :
    Field :=
  { name, type, default, title := some (.text title), description := some (.text text) }

/-- The global options. -/
def globalFields : List Field :=
  let d : Settings := {}
  [described "allow_undefined_sections" (.named "bool") (some d.allowUndefined)
      "Allow Undefined Sections" "Allow sections not defined in the configuration.",
    described "require_docstrings" (.named "bool") (some d.requireDocstrings)
      "Require Docstrings" "Require docstrings for all functions/methods.",
    described "check_private" (.named "bool") (some d.checkPrivate)
      "Check Private Members"
      "Check docstrings for private members (starting with an underscore).",
    described "validate_param_types" (.named "bool") (some d.checkTypes)
      "Validate Parameter Types" "Validate that parameter types are provided in the docstring.",
    described "optional_style" (.literal (styleLabels.map .text)) (some d.optionalStyle)
      "Optional Style" "The style for reporting issues in optional sections."]

/-- The fields of a section. -/
def sectionFields : List Field :=
  let d : SectionSpec := { name := .none, kind := .none }
  [described "name" (.named "str") none "Name" "Name of the docstring section.",
    described "type" (.literal (SectionKind.known.map (.text ·.1))) none "Type"
      "Type of the section content.",
    described "order" (.union [some "int", none]) (some d.order) "Order"
      "Order of the section in the docstring.",
    described "admonition" (.union [some "bool", some "str"]) (some d.admonition) "Admonition"
      ("Admonition style for the section. Can be False (no admonition) or a string specifying " ++
        "the admonition type."),
    described "prefix" (.named "str") (some d.marker) "Prefix"
      "Prefix string for the admonition values.",
    described "required" (.named "bool") (some d.required) "Required"
      "Whether this section is required in the docstring.",
    described "message" (.named "str") (some d.message) "Message"
      "Optional message for validation errors."]

/-! ## Schemas -/

/-- The address of the schema. -/
def schemaAddress : String := "https://json.schemastore.org/partial-dfc.json"

/-- What a schema starts with. -/
def headers : Table :=
  [("$schema", .text "http://json-schema.org/draft-07/schema#"),
    ("$id", .text schemaAddress),
    ("$comment", .text ("This is a partial schema for the `docstring-format-checker` package " ++
      "pyproject.toml, under the header [tool.dfc] or [tool.docstring-format-checker].")),
    ("type", .text "object"),
    ("additionalProperties", .bool false)]

/-- Adds the global options to a schema. -/
def addGlobal (fs : List Field) (schema : Table) : Table :=
  schema.put "properties" (.table (fieldTable fs))

/-- What a schema says of the list of sections. -/
def sectionsEntry (fs : List Field) : Value :=
  .table
    [("type", .text "array"),
      ("title", .text "Docstring Sections"),
      ("description", .text "List of docstring section configurations."),
      ("items", .table
        [("type", .text "object"),
          ("additionalProperties", .bool false),
          ("required", .list ((fs.filter (·.default.isNone)).map (.text ·.name))),
          ("properties", .table (fieldTable fs))])]

/-- Adds the list of sections to a schema, which must have properties. -/
def addSections? (fs : List Field) (schema : Table) : Option Table :=
  match schema.get? "properties" with
  | some (.table ps) => some (schema.put "properties" (.table (Entries.put ps "sections" (sectionsEntry fs))))
  | _ => none

/-- The schema of a project file, with the title and the description of the project. -/
def projectSchema (title description : Value) : Table :=
  let entry : Value := .table
    [("$ref", .text schemaAddress), ("title", title), ("description", description)]
  [("properties", .table [("tool", .table [("properties", .table
    (toolNames.map fun name => (name, entry)))])])]

end DocLint.Schema
