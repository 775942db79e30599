import DocLint.Toml.Scalar

/-!
DocLint.Toml.Document: TOML documents.

A document is a list of statements: headers of tables and of arrays of tables, and entries. Tables
grow by later statements as far as the rules allow: a table has one header, values in brackets or
braces are complete where they stand, and a table made by a dotted key cannot get a header.
-/

namespace DocLint.Toml

/-- A path of keys. -/
abbrev Path := List String

/-- Whether `p` is `q` or lies above it. -/
def isAbove (p q : Path) : Bool :=
  p.isPrefixOf q

/-- Changes the table at a path, and makes the tables on the way that are missing. A path leads into
the last member of an array of tables if `intoLists` is set; anything else than a table on the way is
an error. -/
def updateNest (intoLists : Bool) (f : Table → Option Table) : Path → Table → Option Table
  | [], t => f t
  | k :: ks, t =>
    match t.get? k with
    | none => (updateNest intoLists f ks []).map fun u => t.put k (.table u)
    | some (.table u) => (updateNest intoLists f ks u).map fun u => t.put k (.table u)
    | some (.list vs) =>
      match intoLists, vs.getLast? with
      | true, some (.table u) =>
        (updateNest intoLists f ks u).map fun u => t.put k (.list (vs.dropLast ++ [.table u]))
      | _, _ => none
    | some _ => none

/-- Whether a value is complete where it stands. -/
def isContainer : Value → Bool
  | .list _ => true
  | .table _ => true
  | _ => false

/-- Skips blanks, newlines and comments; `fuel` bounds their number. -/
def skipSpace : (fuel : Nat) → Reader Unit
  | 0 => pure ()
  | fuel + 1 => do
    let before ← get
    let _ ← run fun c => isBlank c || c == '\n'
    skipComment
    if (← get).length < before.length then skipSpace fuel

/-- Skips blanks, newlines and comments between the members of an array. -/
def skipArraySpace : Reader Unit := do
  skipSpace (← get).length

/-- Continues with what a pure reader found. -/
def continueWith (r : Except Error (Value × Text)) : Reader Value := do
  match r with
  | .ok (v, rest) =>
    set rest
    pure v
  | .error e => throw e

/-- A value that is neither an array nor a table. -/
def scalar : Reader Value := do
  let cs ← get
  let inText (body : Reader Text) : Reader Value := do
    pure (.text (String.ofList (← body)))
  if ← at? "\"\"\"" then inText (longText false)
  else if ← at? "\"" then inText shortText
  else if ← at? "'''" then inText (longText true)
  else if ← accept "'" then inText literalText
  else if ← accept "true" then pure (.bool true)
  else if ← accept "false" then pure (.bool false)
  else match moment? cs with
    | some r => continueWith r
    | none =>
      match clock? cs with
      | some (t, rest) => continueWith (.ok (.moment (.time t), rest))
      | none =>
        match based? cs with
        | some r => continueWith (.ok r)
        | none =>
          match decimal? cs with
          | some r => continueWith r
          | none =>
            match namedFloats.find? fun (name, _) => Text.startsWith cs name.toList with
            | some (name, x) =>
              skip name.length
              pure (.float x)
            | none => malformed

mutual

/-- A value; `fuel` bounds the length of the text. -/
def value : (fuel : Nat) → Reader Value
  | 0 => malformed
  | fuel + 1 => do
    if ← accept "[" then
      skipArraySpace
      if ← accept "]" then pure (.list []) else arrayRest fuel
    else if ← accept "\x7b" then
      skipBlanks
      if ← accept "\x7d" then pure (.table []) else inlineRest fuel [] []
    else scalar

/-- The members of an array up to its closing bracket. -/
def arrayRest : (fuel : Nat) → Reader Value
  | 0 => malformed
  | fuel + 1 => do
    let v ← value fuel
    skipArraySpace
    if ← accept "]" then pure (.list [v])
    else if ← accept "," then
      skipArraySpace
      if ← accept "]" then pure (.list [v])
      else match ← arrayRest fuel with
        | .list vs => pure (.list (v :: vs))
        | _ => malformed
    else malformed

/-- The entries of a table in braces up to the closing one; the paths `closed` are complete. -/
def inlineRest : (fuel : Nat) → (table : Table) → (closed : List Path) → Reader Value
  | 0, _, _ => malformed
  | fuel + 1, table, closed => do
    let path ← key
    if !(← accept "=") then malformed
    skipBlanks
    let v ← value fuel
    if closed.any (isAbove · path) then malformed
    let stem := path.getLast?.getD ""
    let insert (t : Table) : Option Table := if t.has stem then none else some (t.put stem v)
    match updateNest false insert path.dropLast table with
    | none => malformed
    | some table =>
      skipBlanks
      if ← accept "\x7d" then pure (.table table)
      else if ← accept "," then
        skipBlanks
        inlineRest fuel table (if isContainer v then path :: closed else closed)
      else malformed

end

/-! ## Statements -/

/-- A document that is being read. -/
structure State where
  /-- What has been read. -/
  table : Table := []
  /-- Paths that cannot get a header any more. -/
  declared : List Path := []
  /-- Paths that dotted keys have made since the last header. -/
  pending : List Path := []
  /-- Paths of values that are complete. -/
  closed : List Path := []
  /-- The path of the current table. -/
  header : Path := []

/-- The non-empty proper initial parts of a path. -/
def properPrefixes (p : Path) : List Path :=
  (List.range p.length).filterMap fun i => if i == 0 then none else some (p.take i)

/-- An entry. -/
def entry (st : State) : Reader State := do
  let path ← key
  if !(← accept "=") then malformed
  skipBlanks
  let v ← value ((← get).length + 1)
  let through := (properPrefixes path).map (st.header ++ ·)
  if through.any st.declared.contains then malformed
  let parent := st.header ++ path.dropLast
  if st.closed.any (isAbove · parent) then malformed
  let stem := path.getLast?.getD ""
  let insert (t : Table) : Option Table := if t.has stem then none else some (t.put stem v)
  match updateNest true insert parent st.table with
  | none => malformed
  | some table =>
    let closed := if isContainer v then (st.header ++ path) :: st.closed else st.closed
    pure { st with table, closed, pending := through ++ st.pending }

/-- A header, after its opening brackets; `many` says whether it adds to an array. -/
def headerOf (many : Bool) (st : State) : Reader State := do
  skipBlanks
  let path ← key
  let st := { st with declared := st.pending ++ st.declared, pending := [] }
  if st.closed.any (isAbove · path) then malformed
  if many then
    let st := { st with
      declared := path :: st.declared.filter (!isAbove path ·)
      closed := st.closed.filter (!isAbove path ·) }
    let stem := path.getLast?.getD ""
    let append (t : Table) : Option Table :=
      match t.get? stem with
      | none => some (t.put stem (.list [.table []]))
      | some (.list vs) => some (t.put stem (.list (vs ++ [.table []])))
      | some _ => none
    match updateNest true append path.dropLast st.table with
    | none => malformed
    | some table =>
      if !(← accept "]]") then malformed
      pure { st with table, header := path }
  else
    if st.declared.contains path then malformed
    match updateNest true some path st.table with
    | none => malformed
    | some table =>
      if !(← accept "]") then malformed
      pure { st with table, declared := path :: st.declared, header := path }

/-- Whether a character may start a key. -/
def startsKey (c : Char) : Bool :=
  isBareKey c || c == '"' || c == '\''

/-- One statement, which starts with the character `c`. -/
def statement (c : Char) (st : State) : Reader State := do
  if c == '\n' || c == '#' then pure st
  else if startsKey c then entry st
  else if ← accept "[[" then headerOf true st
  else if ← accept "[" then headerOf false st
  else malformed

/-- The statements of a document; `fuel` bounds their number. -/
def statements : (fuel : Nat) → State → Reader State
  | 0, st => pure st
  | fuel + 1, st => do
    skipBlanks
    match ← next? with
    | none => pure st
    | some c =>
      let st ← statement c st
      skipBlanks
      skipComment
      if (← get).isEmpty then pure st
      else if ← accept "\n" then statements fuel st
      else malformed

/-- Reads a document. -/
def parse (source : Text) : Except Error Table :=
  let cs := Text.replace ['\r', '\n'] ['\n'] source
  (statements (cs.length + 1) {}).run cs |>.map (·.1.table)

end DocLint.Toml
