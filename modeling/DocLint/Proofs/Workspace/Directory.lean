import DocLint.Proofs.Config.Fault
import DocLint.Proofs.Workspace.Check
import DocLint.Proofs.Workspace.Tree

/-!
DocLint.Proofs.Workspace.Directory: what the check of a directory gives.

A file of a directory that is no text, or that cannot be parsed, gives one finding for the file as a whole,
and the check goes on. Four things end it: a directory that is named like a source file, a file whose name
is the suffix alone, a path that is too long, and a value of the wrong type in the configuration. Without
them the check gives a dictionary, in which each file has its findings under its own path.
-/

namespace DocLint

/-! ## §1. Members of a directory. -/

/-- A file or directory below another that is checked with it: it is named like a source file, and no
pattern excludes it. -/
structure IsMember (exclude : List String) (n : Node) (names : List String) (m : Node) : Prop where
  /-- It is found below the directory by its names. -/
  below : (names, m) ∈ n.inside
  /-- Its last name has the suffix of source code. -/
  named : names.getLast?.any isSourceName = true
  /-- No pattern excludes it. -/
  kept : isExcluded exclude { parts := names } = false

variable {c : Config} {w : Workspace} {p : Path} {n m : Node} {names exclude : List String}

namespace Config

/-! ## §2. One member. -/

theorem keys_sublist_of_checkMembers {ps : List Path} {rs : Results}
    (h : c.checkMembers w ps = .ok rs) : rs.keys.Sublist (ps.map Path.render) := by
  obtain ⟨-, rfl⟩ := checkMembers_eq_ok_iff.mp h
  have hkeys : ps.map Path.render
      = (ps.map fun q => (q.render, (c.checkMember w q).toOption.getD [])).map (·.1) := by simp
  rw [hkeys]
  exact List.filter_sublist.map _

end Config

/-! ## §4. Directories. -/

/-- The paths of the members of a directory, in the order of the check. -/
def memberPaths (p : Path) (exclude : List String) (n : Node) : List Path :=
  ((sourcesBelow p n).filter fun names => !isExcluded exclude { parts := names }).map p.child

theorem mem_memberPaths {q : Path} :
    q ∈ memberPaths p exclude n ↔ ∃ names m, IsMember exclude n names m ∧ q = p.child names := by
  unfold memberPaths
  simp only [List.mem_map, List.mem_filter, mem_sourcesBelow]
  constructor
  · rintro ⟨names, ⟨⟨hnamed, m, hbelow⟩, hkept⟩, rfl⟩
    exact ⟨names, m, ⟨hbelow, hnamed, by simpa using hkept⟩, rfl⟩
  · rintro ⟨names, m, hm, rfl⟩
    exact ⟨names, ⟨⟨hm.named, m, hm.below⟩, by simpa using hm.kept⟩, rfl⟩

theorem checkDirectory_eq_ok_iff {es : List (String × Node)} (hfound : w.lookup p = .found (.dir es))
    {rs : Results} :
    c.checkDirectory w p exclude = .ok rs
      ↔ c.checkMembers w (memberPaths p exclude (.dir es)) = .ok rs := by
  unfold Config.checkDirectory
  rw [hfound]
  exact mapError_eq_ok

/-- A directory with a file whose function has no docstring, and a file that is no text. -/
def mixedEntries : List (String × Node) :=
  [("a.py", .file ("def f():0\n".toList.map fun c => c.toNat.toUInt8)), ("b.py", .file [0xff])]

/-- The directory in a workspace. -/
def mixedWorkspace : Workspace := { root := .dir [("d", .dir mixedEntries)], cwd := [] }

end DocLint
