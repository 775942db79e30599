import DocLint.Tasks.Run

/-!
DocLint.Proofs.Tasks.Action: what actions do to the log.

An action is run on a log by `Action.exec`, and the equations below are all that the other modules on tasks know of the
monad.
-/

namespace DocLint.Tasks

/-! ## §1. Running an action. -/

/-- What an action gives, and what has happened then. -/
def Action.exec {α : Type} (a : Action α) (l : Log) : Except Failure α × Log :=
  (a.run).run l

theorem exec_bind {α β : Type} (a : Action α) (f : α → Action β) (l : Log) :
    (a >>= f).exec l = match a.exec l with
      | (.ok x, l') => (f x).exec l'
      | (.error e, l') => (.error e, l') := by
  unfold Action.exec
  rw [ExceptT.run_bind, StateT.run_bind]
  cases (a.run).run l with
  | mk x l' => cases x <;> rfl

theorem exec_say (text : String) (l : Log) : (Action.say text).exec l = (.ok (), { l with out := l.out ++ text }) := rfl

theorem exec_complain (text : String) (l : Log) :
    (Action.complain text).exec l = (.ok (), { l with err := l.err ++ text }) := rfl

theorem exec_start (command : List String) (l : Log) :
    (Action.start command).exec l
      = (.ok (l.results.headD {}), { l with results := l.results.tail, commands := l.commands ++ [command] }) := rfl

theorem exec_throw {α : Type} (f : Failure) (l : Log) : (throw f : Action α).exec l = (.error f, l) := rfl

theorem exec_ite {α : Type} (b : Bool) (x y : Action α) (l : Log) :
    (if b then x else y : Action α).exec l = if b then x.exec l else y.exec l := by
  cases b <;> rfl

theorem outcome_of_exec_ok {a : Action Unit} {results : List ProcessResult} {l : Log}
    (h : a.exec { results } = (.ok (), l)) : a.outcome results = (none, l) := by
  unfold Action.exec at h
  rw [Action.outcome, h]

theorem outcome_of_exec_error {a : Action Unit} {results : List ProcessResult} {f : Failure} {l : Log}
    (h : a.exec { results } = (.error f, l)) : a.outcome results = (some f, l) := by
  unfold Action.exec at h
  rw [Action.outcome, h]

theorem snd_outcome (a : Action Unit) (results : List ProcessResult) :
    (a.outcome results).2 = (a.exec { results }).2 := by
  unfold Action.outcome Action.exec
  cases (a.run).run { results } with
  | mk x l => cases x <;> rfl

/-- **A command that has to end well** is started once, and its exit code decides. -/
theorem exec_perform (command : List String) (l : Log) :
    ∃ l', l'.commands = l.commands ++ [command] ∧ (Action.perform command).exec l =
      (if (l.results.headD {}).code == 0 then .ok () else .error (.process command (l.results.headD {}).code), l') := by
  unfold Action.perform
  simp only [exec_bind, exec_say, exec_start, exec_ite, exec_throw]
  split
  · exact ⟨_, rfl, rfl⟩
  · exact ⟨_, rfl, rfl⟩

theorem commands_perform (command : List String) (l : Log) :
    ((Action.perform command).exec l).2.commands = l.commands ++ [command] := by
  obtain ⟨l', hcommands, hexec⟩ := exec_perform command l
  rw [hexec, hcommands]

/-- A name that stands for one step runs it. -/
theorem exec_runNamed {s : Setting} {name : String} {step : Step} (hlookup : catalog.lookup name = some (.steps [step]))
    (l : Log) : (runNamed s name).exec l = (step.run s).exec l := by
  unfold runNamed
  rw [hlookup]
  show (step.run s >>= fun _ => pure ()).exec l = _
  rw [exec_bind]
  cases (step.run s).exec l with
  | mk x l' => cases x <;> rfl

end DocLint.Tasks
