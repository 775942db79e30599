import DocLint.Proofs.Entries
import DocLint.Proofs.Text.Basic
import DocLint.Workspace.Tree
import Mathlib.Data.List.Nodup

/-!
DocLint.Proofs.Workspace.Tree: paths and nodes below a directory.

A well-formed tree is one that a file system can hold: the entries of a directory have different names, and
each name can be looked up. Below a directory of such a tree there is one node for each list of names; its
path leads to it, and no two of the paths are written in the same way.
-/

namespace DocLint

/-! ## §1. Paths below a path. -/

namespace Path

/-- What the path of everything below a path starts with. -/
def lead (p : Path) : Text :=
  List.replicate p.slashes '/' ++ (p.parts.map fun n => n.toList ++ ['/']).flatten

end Path

namespace Node

/-! ## §2. Nodes below a node. -/

theorem mem_insideAll_iff {names : List String} {m : Node} {es : List (String × Node)} :
    (names, m) ∈ insideAll es
      ↔ ∃ name n, (name, n) ∈ es ∧
          (names = [name] ∧ m = n ∨ ∃ below, names = name :: below ∧ (below, m) ∈ n.inside) := by
  induction es with
  | nil => simp [insideAll]
  | cons e es ih =>
    obtain ⟨name, n⟩ := e
    rw [insideAll, List.mem_append, List.mem_cons, List.mem_map, ih]
    constructor
    · rintro ((heq | ⟨⟨below, m'⟩, hbelow, heq⟩) | ⟨name', n', hmem, hcase⟩)
      · obtain ⟨rfl, rfl⟩ := Prod.mk.inj heq
        exact ⟨name, m, by simp, .inl ⟨rfl, rfl⟩⟩
      · obtain ⟨rfl, rfl⟩ := Prod.mk.inj heq
        exact ⟨name, n, by simp, .inr ⟨below, rfl, hbelow⟩⟩
      · exact ⟨name', n', List.mem_cons_of_mem _ hmem, hcase⟩
    · rintro ⟨name', n', hmem, hcase⟩
      rcases List.mem_cons.mp hmem with heq | hmem
      · obtain ⟨rfl, rfl⟩ := Prod.mk.inj heq
        left
        rcases hcase with ⟨rfl, rfl⟩ | ⟨below, rfl, hbelow⟩
        · exact .inl rfl
        · exact .inr ⟨(below, m), hbelow, rfl⟩
      · exact .inr ⟨name', n', hmem, hcase⟩

/-- An entry of a directory, and what is below it, is below the directory. -/
theorem mem_inside_of_entry {n m : Node} {name : String} (h : n.entry? name = some m) :
    ([name], m) ∈ n.inside ∧ ∀ names m', (names, m') ∈ m.inside → (name :: names, m') ∈ n.inside := by
  cases n with
  | file bytes => cases h
  | dir es =>
    have hentry : (name, m) ∈ es := Entries.mem_of_get? h
    rw [inside]
    refine ⟨mem_insideAll_iff.mpr ⟨name, m, hentry, .inl ⟨rfl, rfl⟩⟩, ?_⟩
    intro names m' hbelow
    exact mem_insideAll_iff.mpr ⟨name, m, hentry, .inr ⟨names, rfl, hbelow⟩⟩

/-! ## §3. Well-formed trees. -/

/-- A name that an entry of a directory can have. -/
structure IsName (name : String) : Prop where
  /-- It holds no slash. -/
  noSlash : '/' ∉ name.toList
  /-- It does not lead up. -/
  notUp : name ≠ Path.up
  /-- It is short enough to be looked up. -/
  fits : name.utf8ByteSize ≤ nameLimit

/-- A tree whose directories have entries of different names, each of which can be looked up. -/
inductive WellFormed : Node → Prop
  | file (bytes : List UInt8) : WellFormed (.file bytes)
  | dir (es : List (String × Node)) (distinct : (es.map (·.1)).Nodup) (named : ∀ e ∈ es, IsName e.1)
      (below : ∀ e ∈ es, WellFormed e.2) : WellFormed (.dir es)

theorem follow_cons (above : List Node) (here : Node) (name : String) (rest : List String) :
    follow above here (name :: rest) =
      if !here.isDir then .missing
      else if name == Path.up then follow above.tail (above.headD here) rest
      else if nameLimit < name.utf8ByteSize then .tooLong
      else match here.entry? name with
        | some inner => follow (here :: above) inner rest
        | none => .missing := by
  cases above <;> rw [follow.eq_def] <;> rfl

/-- What is found under a last name is found from the node of the names before it. -/
theorem exists_of_follow_append {above : List Node} {here m : Node} {xs ys : List String}
    (h : follow above here (xs ++ ys) = .found m) :
    ∃ above' n, follow above here xs = .found n ∧ follow above' n ys = .found m := by
  induction xs generalizing above here with
  | nil => exact ⟨above, here, rfl, h⟩
  | cons name xs ih =>
    rw [List.cons_append, follow_cons] at h
    rw [follow_cons]
    split_ifs at h ⊢
    · exact ih h
    · cases hentry : here.entry? name with
      | none => rw [hentry] at h; cases h
      | some inner => rw [hentry] at h; exact ih h

/-- **A property that entries take over from their directory holds of all that is found** from a node on, if
it holds of the node and those above it. -/
theorem found_of_follow {P : Node → Prop}
    (hentry : ∀ {n m : Node} {name : String}, P n → n.entry? name = some m → P m)
    {above : List Node} {here n : Node} {names : List String} (hhere : P here) (habove : ∀ m ∈ above, P m)
    (h : follow above here names = .found n) : P n := by
  induction names generalizing above here with
  | nil =>
    rw [Node.follow] at h
    cases h
    exact hhere
  | cons name names ih =>
    rw [follow_cons] at h
    split_ifs at h
    · -- double dots lead to the innermost directory above, or stay at the root
      refine ih ?_ (fun m hm => habove m (List.mem_of_mem_tail hm)) h
      cases above with
      | nil => exact hhere
      | cons outer above => exact habove outer List.mem_cons_self
    · cases hinner : here.entry? name with
      | none => rw [hinner] at h; cases h
      | some inner =>
        rw [hinner] at h
        exact ih (hentry hhere hinner) (List.forall_mem_cons.mpr ⟨hhere, habove⟩) h

end Node

end DocLint
