import DocLint.Text.Basic

/-!
DocLint.Params.Mismatch: names that only the signature or only the docstring has.

A missing name that the docstring has with stars in front is paired with it, each name of the
docstring at most once and the first that fits; what cannot be paired is listed. The missing names are
looked at in turn, and both names of a pair are taken out of their lists. Taking out a name that is not
there would fail; `isSome_pairUp?` says that this never happens.
-/

namespace DocLint.Params

/-- A name without the stars in front. -/
def withoutStars (name : String) : String :=
  String.ofList (name.toList.dropWhile (· == '*'))

/-- The number of stars in front of a name. -/
def starCount (name : String) : Nat :=
  (name.toList.takeWhile (· == '*')).length

/-- Missing and extra names, after pairing. -/
structure Mismatch where
  /-- Missing names with the starred names they are paired with. -/
  pairs : List (String × String) := []
  /-- Names that only the signature has. -/
  missing : List String := []
  /-- Names that only the docstring has. -/
  extra : List String := []
  deriving DecidableEq, Repr

namespace Mismatch

/-- A list without the first occurrence of a name, if the name is there. -/
def takeOut? (name : String) (names : List String) : Option (List String) :=
  if name ∈ names then some (names.erase name) else none

/-- One round: the first extra name that is left and fits a missing name is paired with it, and both are
taken out of their lists. -/
def round? (r : Mismatch) (m : String) : Option Mismatch :=
  match r.extra.find? (withoutStars · == m) with
  | some e => do
    let missing ← takeOut? m r.missing
    let extra ← takeOut? e r.extra
    pure { pairs := r.pairs ++ [(m, e)], missing, extra }
  | none => some r

/-- One round for each missing name. -/
def pairUp? (missing extra : List String) : Option Mismatch :=
  missing.foldlM round? { missing, extra }

theorem takeOut?_of_mem {name : String} {names : List String} (h : name ∈ names) :
    takeOut? name names = some (names.erase name) :=
  if_pos h

/-- A round for a name that is left among the missing ones takes it out, or leaves all as it is. -/
theorem exists_round? {r : Mismatch} {m : String} (h : m ∈ r.missing) :
    ∃ r', round? r m = some r' ∧ (r'.missing = r.missing.erase m ∨ r'.missing = r.missing) := by
  unfold round?
  cases hfind : r.extra.find? (withoutStars · == m) with
  | some e =>
    simp only [takeOut?_of_mem h, takeOut?_of_mem (List.mem_of_find?_eq_some hfind)]
    exact ⟨_, rfl, .inl rfl⟩
  | none => exact ⟨r, rfl, .inr rfl⟩

/-- Rounds for names succeed if each is left as often as it is looked at. -/
theorem isSome_foldlM_round? (ms : List String) :
    ∀ r : Mismatch, (∀ n, ms.count n ≤ r.missing.count n) → (ms.foldlM round? r).isSome = true := by
  induction ms with
  | nil =>
    intro r _
    rfl
  | cons m ms ih =>
    intro r hcount
    have hmem : m ∈ r.missing := by
      have hm := hcount m
      rw [List.count_cons_self] at hm
      exact List.count_pos_iff.mp (by omega)
    obtain ⟨r', hround, hleft⟩ := exists_round? hmem
    rw [List.foldlM_cons, hround]
    refine ih r' fun n => ?_
    have hn := hcount n
    rw [List.count_cons] at hn
    rcases hleft with hleft | hleft
    · rw [hleft, List.count_erase]
      omega
    · rw [hleft]
      omega

/-- Pairing always finds what it takes out. -/
theorem isSome_pairUp? (missing extra : List String) : (pairUp? missing extra).isSome = true :=
  isSome_foldlM_round? missing { missing, extra } fun _ => Nat.le_refl _

/-- Missing and extra names as pairing leaves them. -/
def ofNames (missing extra : List String) : Mismatch :=
  (pairUp? missing extra).get (isSome_pairUp? missing extra)

/-- The line for a pair. -/
def pairText (p : String × String) : String :=
  "  - Parameter '" ++ p.1 ++ "' found in docstring as '" ++ p.2 ++ "'. Please remove the " ++
    (if starCount p.2 == 1 then "asterisk" else "asterisks") ++ "."

/-- The line for names of one side, if there are any. -/
def sideText (label : String) (names : List String) : List String :=
  if names.isEmpty then [] else ["  - " ++ label ++ ": '" ++ "', '".intercalate names ++ "'"]

/-- The report: one line per pair, then one for each side. -/
def message (m : Mismatch) : String :=
  "Parameter mismatch:\n" ++ "\n".intercalate
    (m.pairs.map pairText ++ sideText "In signature but not in docstring" m.missing ++
      sideText "In docstring but not in signature" m.extra)

end Mismatch

end DocLint.Params
