import DocLint.Proofs.Tasks.Formatting

/-!
DocLint.Proofs.Tasks.CommandLine: tasks that take an argument from the command line.

Each of these tasks counts the words of the command line before it takes the argument. The argument is the third word,
but all of them except one only ask for two, and there are two as soon as the task is named. So the message about a
missing argument is printed by one task only, and the others fail for want of it (`missing_argument_told_iff`).
-/

namespace DocLint.Tasks

/-! ## §1. What steps read, and why they fail. -/

theorem Step.run_args (s : Setting) (args : List String) (step : Step) : step.run { s with args } = step.run s := by
  cases step <;> rfl

/-- Steps read nothing of the command line. -/
theorem runSteps_args (s : Setting) (args : List String) (ss : List Step) :
    runSteps { s with args } ss = runSteps s ss := by
  induction ss with
  | nil => rfl
  | cons step rest ih => rw [runSteps, runSteps, Step.run_args, ih]

/-- An action that fails for no other reason than a program that fails. -/
def FailsByProgram {α : Type} (a : Action α) : Prop :=
  ∀ l f l', a.exec l = (.error f, l') → ∃ command code, f = .process command code

theorem FailsByProgram.bind {α β : Type} {a : Action α} {f : α → Action β} (ha : FailsByProgram a)
    (hf : ∀ x, FailsByProgram (f x)) : FailsByProgram (a >>= f) := by
  intro l e l' h
  rw [exec_bind] at h
  split at h
  next x middle hexec => exact hf x middle e l' h
  next e' middle hexec =>
    cases h
    exact ha l e l' hexec

theorem failsByProgram_say (text : String) : FailsByProgram (Action.say text) := by
  intro l f l' h
  rw [exec_say] at h
  cases h

theorem failsByProgram_perform (command : List String) : FailsByProgram (Action.perform command) := by
  intro l f l' h
  obtain ⟨log, -, hexec⟩ := exec_perform command l
  rw [hexec] at h
  split at h
  · cases h
  · cases h
    exact ⟨_, _, rfl⟩

theorem failsByProgram_formatFrom (command : List String) (attempt left : Nat) :
    FailsByProgram (formatFrom command attempt left) := by
  intro l f l' h
  obtain ⟨n, log, -, -, hexec⟩ := exec_formatFrom command attempt left l
  rw [hexec, verdict] at h
  split at h
  · cases h
    exact ⟨_, _, rfl⟩
  · cases h

/-- One step, whatever it runs, fails only if a program does. -/
theorem failsByProgram_step (s : Setting) (step : Step) : FailsByProgram (step.run s) := by
  cases step with
  | line text => exact failsByProgram_perform _
  | command words => exact failsByProgram_perform _
  | onFiles text files => exact failsByProgram_perform _
  | say text => exact failsByProgram_say _
  | formatDocuments => exact failsByProgram_formatFrom _ _ _

/-- **Steps fail only if a program does.** -/
theorem failsByProgram_runSteps (s : Setting) (ss : List Step) : FailsByProgram (runSteps s ss) := by
  induction ss with
  | nil => intro l f l' h; cases h
  | cons step rest ih => exact (failsByProgram_step s step).bind fun _ => ih

theorem failure_runSteps (s : Setting) (ss : List Step) (results : List ProcessResult) {f : Failure}
    (h : ((runSteps s ss).outcome results).1 = some f) : ∃ command code, f = .process command code := by
  cases hexec : (runSteps s ss).exec { results } with
  | mk ended l =>
    cases ended with
    | ok _ =>
      rw [outcome_of_exec_ok hexec] at h
      cases h
    | error e =>
      rw [outcome_of_exec_error hexec] at h
      cases h
      exact failsByProgram_runSteps s ss _ _ _ hexec

/-! ## §2. Tasks that take an argument. -/

/-- A task that takes an argument. -/
structure ArgumentTask where
  /-- Its name. -/
  name : String
  /-- What the argument is called. -/
  label : String
  /-- What is done with the argument. -/
  steps : String → List Step

/-- The tasks that take an argument. -/
def argumentTasks : List ArgumentTask :=
  [⟨"check_doctest_cli", "<module_name>", fun m => [checkExamples [directoryName, m]]⟩,
    ⟨"git_switch_to_branch", "<branch_name>", checkoutBranch⟩,
    ⟨"git_update_version_cli", "<version>", updateVersion⟩,
    ⟨"git_fix_tag_reference_cli", "<version>", fixTag⟩,
    ⟨"docs_build_versioned_cli", "<version>", buildVersioned⟩,
    ⟨"update_git_docs_cli", "<version>", publishDocs⟩,
    ⟨"docs_delete_version_cli", "<version>", deleteVersion⟩,
    ⟨"build_static_docs_cli", "<version>", fun v => .line "mkdocs build --clean" :: publishDocs v⟩,
    ⟨"build_versioned_docs_cli", "<version>", fun v => buildVersioned v ++ [setDefault]⟩]

/-- Whether a name says that its task takes an argument; there is one task whose name does not end alike. -/
def takesArgument (name : String) : Bool :=
  "_cli".toList.isSuffixOf name.toList || name == "git_switch_to_branch"

/-- **The names of the catalog that say so** are those of the tasks that take an argument. -/
theorem names_argumentTasks : (catalog.map (·.1)).filter takesArgument = argumentTasks.map (·.name) := by
  decide +kernel

/-- One of the tasks asks for three words, the others for two. -/
theorem lookup_argumentTask {t : ArgumentTask} (ht : t ∈ argumentTasks) :
    catalog.lookup t.name
      = some (.fromArgument t.label (if t.name = "check_doctest_cli" then 3 else 2) t.steps) := by
  simp only [argumentTasks, List.mem_cons, List.not_mem_nil, or_false] at ht
  rcases ht with rfl | rfl | rfl | rfl | rfl | rfl | rfl | rfl | rfl <;> rfl

/-- An argument that is there is taken, however few words are asked for. -/
theorem run_fromArgument_given {s : Setting} {spelled arg : String} {more : List String}
    (hargs : s.args = spelled :: arg :: more) {least : Nat} (hleast : least ≤ 3) (name label : String)
    (ss : String → List Step) : (Task.fromArgument label least ss).run s name = runSteps s (ss arg) := by
  have henough : ¬s.args.length + 1 < least := by
    rw [hargs, List.length_cons, List.length_cons]
    omega
  rw [Task.run, if_neg henough, hargs]
  rfl

/-- **An argument that is missing is missed** only by a task that asks for more than two words. -/
theorem run_fromArgument_missing {s : Setting} {spelled : String} (hargs : s.args = [spelled])
    (name label : String) (least : Nat) (ss : String → List Step) :
    (Task.fromArgument label least ss).run s name
      = if 2 < least then refuse ("Requires argument: " ++ label) else throw .noArgument := by
  rw [Task.run, hargs]
  rfl

/-! ## §3. Command lines with and without the argument. -/

/-- The name of a task that is spelled with hyphens or underscores. -/
def nameOf (spelled : String) : String :=
  String.ofList (Text.replaceChar '-' '_' spelled.toList)

/-- The name on the command line is looked up with its hyphens as underscores. -/
theorem runCommand_of_lookup {s : Setting} {spelled : String} {further : List String} {task : Task}
    (hargs : s.args = spelled :: further) (hlookup : catalog.lookup (nameOf spelled) = some task) :
    runCommand s = task.run s (nameOf spelled) := by
  unfold nameOf at hlookup ⊢
  unfold runCommand
  rw [hargs]
  simp only [hlookup]

theorem outcome_refuse (text : String) (results : List ProcessResult) :
    (refuse text).outcome results = (some (.exit 1), { results, out := text ++ "\n" }) := by
  have hexec : (refuse text).exec { results } = (.error (.exit 1), { results, out := "" ++ (text ++ "\n") }) := rfl
  rw [outcome_of_exec_error hexec, String.empty_append]

theorem runCommand_given {s : Setting} {spelled arg : String} {more : List String} {t : ArgumentTask}
    (hargs : s.args = spelled :: arg :: more) (ht : t ∈ argumentTasks) (hname : t.name = nameOf spelled) :
    runCommand s = runSteps { s with args := [] } (t.steps arg) := by
  have hlookup := lookup_argumentTask ht
  rw [hname] at hlookup
  rw [runCommand_of_lookup hargs hlookup, run_fromArgument_given hargs (by split <;> omega)]
  exact (runSteps_args s [] _).symm

theorem outcome_missing {s : Setting} {spelled : String} {t : ArgumentTask} (hargs : s.args = [spelled])
    (ht : t ∈ argumentTasks) (hname : t.name = nameOf spelled) (results : List ProcessResult) :
    (runCommand s).outcome results = if t.name = "check_doctest_cli"
      then (some (.exit 1), { results, out := "Requires argument: " ++ t.label ++ "\n" })
      else (some .noArgument, { results }) := by
  have hlookup := lookup_argumentTask ht
  rw [hname] at hlookup
  rw [runCommand_of_lookup hargs hlookup, run_fromArgument_missing hargs, ← hname]
  by_cases hcareful : t.name = "check_doctest_cli"
  · rw [if_pos hcareful, if_pos hcareful, if_pos (by omega)]
    exact outcome_refuse _ results
  · rw [if_neg hcareful, if_neg hcareful, if_neg (by omega)]
    rfl

/-- A command line names a task that takes an argument, with hyphens or underscores. If the argument is there, the steps
of the task are run with it, and nothing else of the command line is read. If it is missing, the task says so and ends
with exit code 1 exactly if it is the one that asks for three words; any other prints nothing and fails for want of the
argument, and no command line fails so for another reason. -/
theorem missing_argument_told_iff {s : Setting} {spelled : String} {further : List String}
    (hargs : s.args = spelled :: further) (hknown : nameOf spelled ∈ catalog.map (·.1))
    (htakes : takesArgument (nameOf spelled) = true) (results : List ProcessResult) :
    ∃ t ∈ argumentTasks, t.name = nameOf spelled ∧
      (∀ arg more, further = arg :: more →
        (runCommand s).outcome results = (runSteps { s with args := [] } (t.steps arg)).outcome results) ∧
      ((runCommand s).outcome results
          = (some (.exit 1), { results, out := "Requires argument: " ++ t.label ++ "\n" }) ↔
        further = [] ∧ t.name = "check_doctest_cli") ∧
      (((runCommand s).outcome results).1 = some .noArgument ↔ further = [] ∧ t.name ≠ "check_doctest_cli") ∧
      (further = [] → t.name ≠ "check_doctest_cli" → (runCommand s).outcome results = (some .noArgument, { results })) := by
  have hmem : nameOf spelled ∈ argumentTasks.map (·.name) := by
    rw [← names_argumentTasks]
    exact List.mem_filter.mpr ⟨hknown, htakes⟩
  obtain ⟨t, ht, hname⟩ := List.mem_map.mp hmem
  refine ⟨t, ht, hname, ?_⟩
  cases further with
  | nil =>
    -- the command line has two words, and one task asks for more
    have hmissing := outcome_missing hargs ht hname results
    by_cases hcareful : t.name = "check_doctest_cli"
    · rw [if_pos hcareful] at hmissing
      simp [hmissing, hcareful]
    · rw [if_neg hcareful] at hmissing
      simp [hmissing, hcareful]
  | cons arg more =>
    -- the steps are run, and they fail neither with an exit code of their own nor for want of an argument
    have hgiven := runCommand_given hargs ht hname
    have hfailure : ∀ {f}, ((runCommand s).outcome results).1 = some f → ∃ command code, f = .process command code := by
      rw [hgiven]
      exact failure_runSteps _ _ results
    refine ⟨?_, ?_, ?_, ?_⟩
    · rintro _ _ ⟨⟩
      rw [hgiven]
    · constructor
      · intro htold
        obtain ⟨_, _, hprocess⟩ := hfailure (congrArg Prod.fst htold)
        cases hprocess
      · rintro ⟨⟨⟩, -⟩
    · constructor
      · intro hindex
        obtain ⟨_, _, hprocess⟩ := hfailure hindex
        cases hprocess
      · rintro ⟨⟨⟩, -⟩
    · rintro ⟨⟩

/-- A command line in an empty directory. -/
def settingOf (args : List String) : Setting :=
  { workspace := { root := .dir [], cwd := [] }, find := fun _ _ => some [], args }

/-- A name with hyphens, a tag and a word too many: the steps are run with the tag. -/
theorem missing_argument_told_iff_hyphens :
    takesArgument "git_fix_tag_reference_cli" = true ∧
      ∃ t ∈ argumentTasks, t.name = "git_fix_tag_reference_cli" ∧
        (runCommand (settingOf ["git-fix-tag-reference-cli", "v1", "v2"])).outcome [{ code := 1 }]
          = (runSteps (settingOf []) (t.steps "v1")).outcome [{ code := 1 }] := by
  have hspelled : nameOf "git-fix-tag-reference-cli" = "git_fix_tag_reference_cli" := by decide
  have htakes : takesArgument "git_fix_tag_reference_cli" = true := by decide
  have hknown : "git_fix_tag_reference_cli" ∈ catalog.map (·.1) := by decide
  rw [← hspelled] at hknown htakes ⊢
  obtain ⟨t, ht, hname, hgiven, -⟩ := missing_argument_told_iff (s := settingOf ["git-fix-tag-reference-cli", "v1", "v2"])
    rfl hknown htakes [{ code := 1 }]
  exact ⟨htakes, t, ht, hname, hgiven "v1" ["v2"] rfl⟩

/-- A branch that is not given is not asked for. -/
theorem missing_branch_untold :
    takesArgument "git_switch_to_branch" = true ∧
      (runCommand (settingOf ["git_switch_to_branch"])).outcome [] = (some .noArgument, {}) ∧
      (runCommand (settingOf ["git_switch_to_branch"])).outcome []
        ≠ (some (.exit 1), { out := "Requires argument: <branch_name>\n" }) := by
  have hindex : (runCommand (settingOf ["git_switch_to_branch"])).outcome [] = (some .noArgument, {}) := rfl
  refine ⟨by decide, hindex, ?_⟩
  rw [hindex]
  decide

end DocLint.Tasks
