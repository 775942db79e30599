import DocLint.Workspace.Check
import Mathlib.Data.List.Basic

/-!
DocLint.Proofs.Workspace.Check: directories, file by file.

The files of a directory are checked one by one, and the result has an entry for each that has findings. So
the check finds nothing exactly if the check of each file that no pattern excludes finds nothing: an error
in a file becomes a finding or ends the check, and no file is passed over.
-/

namespace DocLint

/-! ## §1. Files of a directory. -/

theorem mapError_eq_ok {ε ε' α : Type} {x : Except ε α} {f : ε → ε'} {a : α} :
    x.mapError f = .ok a ↔ x = .ok a := by
  cases x <;> simp [Except.mapError]

/-- Everything below a directory, named by its path from there on, that is named like a source file. -/
theorem mem_sourcesBelow {p : Path} {n : Node} {names : List String} :
    names ∈ sourcesBelow p n
      ↔ names.getLast?.any isSourceName = true ∧ ∃ m, (names, m) ∈ n.inside := by
  unfold sourcesBelow
  rw [List.mem_mergeSort, List.mem_filter, List.mem_map, and_comm]
  simp

namespace Config

variable {c : Config} {w : Workspace} {p : Path} {exclude : List String}

/-- **Members are checked one by one**: the check goes on as long as each can be checked, and the result
has an entry for each with findings. -/
theorem checkMembers_eq_ok_iff {ps : List Path} {rs : Results} :
    c.checkMembers w ps = .ok rs
      ↔ (∀ q ∈ ps, ∃ fs, c.checkMember w q = .ok fs) ∧
        rs = (ps.map fun q => (q.render, (c.checkMember w q).toOption.getD [])).filter (!·.2.isEmpty) := by
  induction ps generalizing rs with
  | nil => simp [checkMembers, eq_comm]
  | cons q qs ih =>
    rw [checkMembers, List.forall_mem_cons, List.map_cons, List.filter_cons]
    cases hq : c.checkMember w q with
    | error e => simp [bind, Except.bind]
    | ok fs =>
      cases hrest : c.checkMembers w qs with
      | error e =>
        have hnot : ¬ ∀ q ∈ qs, ∃ fs, c.checkMember w q = .ok fs := by
          intro h
          have hok := ih.mpr ⟨h, rfl⟩
          rw [hrest] at hok
          cases hok
        simp [bind, Except.bind, hnot]
      | ok rest =>
        obtain ⟨hall, hresults⟩ := ih.mp hrest
        rw [← hresults, and_iff_right ⟨⟨fs, rfl⟩, hall⟩, eq_comm]
        cases fs with
        | nil => simp [bind, Except.bind, pure, Except.pure, Except.toOption]
        | cons f fs => simp [bind, Except.bind, pure, Except.pure, Except.toOption]

end Config

end DocLint
