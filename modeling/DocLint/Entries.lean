/-!
DocLint.Entries: dictionaries that keep the order of first insertion.

`put` changes the value of a key where it stands and appends a key that is new, so a key occurs at
most once and the order tells which key came first.
-/

namespace DocLint

/-- A dictionary as the list of its entries. -/
abbrev Entries (κ : Type) (α : Type) := List (κ × α)

namespace Entries

variable {κ α : Type} [BEq κ]

/-- The value of a key. -/
def get? (d : Entries κ α) (k : κ) : Option α :=
  d.lookup k

/-- Whether a key has a value. -/
def has (d : Entries κ α) (k : κ) : Bool :=
  d.any (·.1 == k)

/-- Sets the value of a key. -/
def put (d : Entries κ α) (k : κ) (v : α) : Entries κ α :=
  match d with
  | [] => [(k, v)]
  | (k', v') :: rest => if k' == k then (k', v) :: rest else (k', v') :: put rest k v

/-- The keys in order. -/
def keys (d : Entries κ α) : List κ :=
  d.map (·.1)

/-- The dictionary of a list of pairs, in which later values win. -/
def ofPairs (ps : List (κ × α)) : Entries κ α :=
  ps.foldl (fun d p => d.put p.1 p.2) []

end Entries

end DocLint
