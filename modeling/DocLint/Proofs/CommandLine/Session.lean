import DocLint.CommandLine.Session

/-!
DocLint.Proofs.CommandLine.Session: what the steps of a command show, and how they stop.

The equations below are all that the other modules on the command line know of sessions. A console enters them in
one place only: a piece of output that it shows is added to what has been shown, and one that it refuses stops the
step with the error of the console.
-/

namespace DocLint.CommandLine

open Report

/-! ## §1. Steps. -/

variable {α β : Type} {t : Console} {out : List Output}

theorem exec_throw (stop : Stop) (out : List Output) :
    (throw stop : Session α).exec out = (.error stop, out) := rfl

theorem exec_bind (a : Session α) (f : α → Session β) (out : List Output) :
    (a >>= f).exec out = match a.exec out with
      | (.ok x, out') => (f x).exec out'
      | (.error stop, out') => (.error stop, out') := by
  unfold Session.exec
  rw [ExceptT.run_bind, StateT.run_bind]
  cases (a.run).run out with
  | mk x out' => cases x <;> rfl

theorem exec_bind_of_error {a : Session α} {stop : Stop} {out' : List Output}
    (h : a.exec out = (.error stop, out')) (f : α → Session β) : (a >>= f).exec out = (.error stop, out') := by
  rw [exec_bind, h]

/-- A console shows pieces of output if it refuses none of them. -/
def Console.Shows (t : Console) (os : List Output) : Prop :=
  ∀ o ∈ os, t.refusal? o = none

/-- A step tells what is wrong and stops: with exit code 1 if the line is shown, and with the error of the console
if it is refused. -/
structure Tells (t : Console) (line : Output) (out : List Output) (result : Except Stop α × List Output) : Prop where
  /-- The line is shown, and the exit code is 1. -/
  shown : t.refusal? line = none → result = (.error (.exit 1), out ++ [line])
  /-- The line is refused, and nothing is shown. -/
  refused : ∀ m, t.refusal? line = some m → result = (.error (.error m), out)

/-- A step that tells what is wrong stops all that would follow. -/
theorem Tells.bind {line : Output} {out' : List Output} {a : Session α} (h : Tells t line out' (a.exec out))
    (f : α → Session β) : Tells t line out' ((a >>= f).exec out) where
  shown := fun hshown => exec_bind_of_error (h.shown hshown) f
  refused := fun m hrefused => exec_bind_of_error (h.refused m hrefused) f

end DocLint.CommandLine
