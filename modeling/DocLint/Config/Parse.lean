import DocLint.Config.Spec
import DocLint.Text.Basic
import DocLint.Value.Order

/-!
DocLint.Config.Parse: configurations from tables.

`toolTable` finds the part of a document that configures this program, `parseConfig` reads it. Its
sections are sorted by their order, those without one last; no two may have the same.
-/

namespace DocLint

/-- Why a configuration cannot be used. -/
inductive ConfigError where
  /-- There is no file of this path. -/
  | notFound (path : String)
  /-- The path cannot be looked up, for a reason given in words. -/
  | unknowable (reason : String)
  /-- The file cannot be read, for a reason given in words. -/
  | unreadable (path reason : String)
  /-- There is no such way to treat `, optional`. -/
  | unknownStyle (style : Value)
  /-- A section has an error. -/
  | badSection (table : Value) (error : SpecError)
  /-- Orders that occur more than once. -/
  | duplicateOrders (orders : List Value)
  /-- A value has the wrong type. -/
  | fault (f : Fault)
  /-- A value that is to be shown holds an integer with too many digits. -/
  | tooManyDigits

/-- The styles by their labels. -/
def styleLabels : List String := ["silent", "validate", "strict"]

/-- The message of an error. -/
def ConfigError.message : ConfigError → String
  | .notFound path => "Configuration file not found: " ++ path
  | .unknowable reason => reason
  | .unreadable path reason => "Failed to parse TOML file " ++ path ++ ": " ++ reason
  | .unknownStyle style =>
    "Invalid optional_style: '" ++ style.plain ++ "'. Must be one of: " ++ ", ".intercalate styleLabels
  | .badSection table error =>
    "Invalid section configuration: " ++ table.plain ++ ". Error: " ++ error.message
  | .duplicateOrders orders =>
    "Configuration contains duplicate order values: " ++ (Value.list orders).literal ++
      ". Each section must have a unique order value."
  | .fault f => f.message
  | .tooManyDigits => digitsDiagnosis ""

/-- The values that the message of an error shows. -/
def ConfigError.shown : ConfigError → List Value
  | .unknownStyle style => [style]
  | .badSection table _ => [table]
  | .duplicateOrders orders => orders
  | _ => []

/-- The error that is given in place of one whose message cannot be written. -/
def ConfigError.raised (e : ConfigError) : ConfigError :=
  if e.shown.all Value.isWritable then e else .tooManyDigits

/-! ## Looking values up -/

/-- The names of the table that configures this program; the first one wins. -/
def toolNames : List String := ["dfc", "docstring-format-checker"]

/-- Whether a value holds a name. -/
def Value.holds (name : String) : Value → Except Fault Bool
  | .table es => .ok (es.any (·.1 == name))
  | .list vs => .ok (vs.any (·.same (.text name)))
  | .text s => .ok (Text.contains s.toList name.toList)
  | v => .error (.notContainer v.typeName)

/-- The value under a name that a value holds. -/
def Value.item (name : String) : Value → Except Fault Value
  | .table es => .ok ((es.lookup name).getD .none)
  | .list _ => .error .listIndex
  | .text _ => .error .textIndex
  | v => .error (.notSubscriptable v.typeName)

/-- The first of several names that a value holds, with its value. -/
def Value.firstItem (v : Value) : List String → Except Fault Value
  | [] => .ok .none
  | name :: names => do
    if ← v.holds name then v.item name else v.firstItem names

/-- The part of a document that configures this program, or none. -/
def toolTable (document : Value) : Except Fault Value := do
  if ← document.holds "tool" then (← document.item "tool").firstItem toolNames else pure .none

/-- The entries of a value that must be a table. -/
def Value.entries : Value → Except Fault Table
  | .table es => .ok es
  | v => .error (.noAttribute v.typeName "get")

/-- The members of a value, if it has members. -/
def Value.members : Value → Except Fault (List Value)
  | .list vs => .ok vs
  | .text s => .ok (s.toList.map fun c => .text (String.ofList [c]))
  | .table es => .ok (es.map fun e => .text e.1)
  | v => .error (.notIterable v.typeName)

/-- The value of a key, or a default. -/
def Table.getD (t : Table) (k : String) (d : Value) : Value :=
  (t.get? k).getD d

/-! ## Sections -/

/-- The section of a table. An admonition that is none counts as false. -/
def SectionSpec.ofTable (t : Table) : SectionSpec :=
  { name := t.getD "name" (.text "")
    kind := t.getD "type" (.text "")
    order := t.getD "order" .none
    admonition := match t.getD "admonition" .none with
      | .none => .bool false
      | v => v
    marker := t.getD "prefix" (.text "")
    required := t.getD "required" (.bool false) }

/-- Reads one section. -/
def parseSection (v : Value) : Except ConfigError SectionSpec := do
  let t ← v.entries.mapError .fault
  (SectionSpec.ofTable t).check.mapError fun e => ConfigError.raised (.badSection v e)

/-- Whether a section has an order. -/
def SectionSpec.isOrdered (s : SectionSpec) : Bool :=
  match s.order with
  | .none => false
  | _ => true

/-- The values that occur again after their first occurrence, each once; fails at a value that
cannot be a member of a set. -/
def repeated (seen again : List Value) : List Value → Except Fault (List Value)
  | [] => .ok again
  | v :: vs =>
    if !v.isHashable then .error (.unhashable v.typeName)
    else if seen.any (·.same v) then
      repeated seen (if again.any (·.same v) then again else again ++ [v]) vs
    else repeated (seen ++ [v]) again vs

/-- Fails if two sections have the same order. -/
def checkOrders (sections : List SectionSpec) : Except ConfigError Unit := do
  let orders := (sections.filter (·.isOrdered)).map (·.order)
  let again ← (repeated [] [] orders).mapError .fault
  if again.isEmpty then pure ()
  else
    let sorted ← (sortBy? Value.lt again).mapError .fault
    throw (ConfigError.raised (.duplicateOrders sorted))

/-- What a section is sorted by: its order, or infinity. -/
def SectionSpec.sortKey (s : SectionSpec) : Value :=
  match s.order with
  | .none => .float (.infinite false)
  | v => v

/-- Sorts by values that may be of any type. -/
def sortByValue {α : Type} (key : α → Value) (xs : List α) : Except Fault (List α) :=
  if xs.all fun x => (key x).number?.isSome then
    -- Numbers can always be compared.
    let le (a b : α) : Bool :=
      match (key a).number?, (key b).number? with
      | some x, some y => !y.lt x
      | _, _ => true
    .ok (xs.mergeSort le)
  else sortBy? (fun a b => (key a).lt (key b)) xs

/-- Reads the sections of a configuration; an empty list stands for the default ones. -/
def parseSections (t : Table) : Except ConfigError (List SectionSpec) := do
  match t.get? "sections" with
  | none => pure defaultSpecs
  | some v =>
    let members ← v.members.mapError .fault
    let sections ← members.mapM parseSection
    if sections.isEmpty then pure defaultSpecs
    else
      checkOrders sections
      (sortByValue SectionSpec.sortKey sections).mapError .fault

/-! ## The whole configuration -/

/-- Reads the global options. -/
def parseSettings (t : Table) : Except ConfigError Settings := do
  let style := t.getD "optional_style" (.text "validate")
  if styleLabels.any (style.same <| .text ·) then
    pure
      { allowUndefined := t.getD "allow_undefined_sections" (.bool false)
        requireDocstrings := t.getD "require_docstrings" (.bool true)
        checkPrivate := t.getD "check_private" (.bool false)
        checkTypes := t.getD "validate_param_types" (.bool true)
        optionalStyle := style }
  else throw (ConfigError.raised (.unknownStyle style))

/-- Reads a configuration. -/
def parseConfig (tool : Value) : Except ConfigError Config := do
  let t ← tool.entries.mapError .fault
  let settings ← parseSettings t
  pure { settings, sections := ← parseSections t }

/-- The configuration in a document, or the default one. -/
def configOf (document : Value) : Except ConfigError Config := do
  match ← (toolTable document).mapError .fault with
  | .none => pure defaultConfig
  | tool => parseConfig tool

end DocLint
