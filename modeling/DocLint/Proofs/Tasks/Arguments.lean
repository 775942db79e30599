import DocLint.Proofs.Tasks.Formatting

/-!
DocLint.Proofs.Tasks.Arguments: the arguments with which programs are started.

Three tasks run a command on files. The line of the command and the paths of the files are cut into words together, so
that a path reaches the program as one argument exactly if it is one word. The task that formats documents puts the
paths behind the command as they are, each time that it starts the program (`files_are_arguments_iff`).
-/

namespace DocLint.Tasks

open Text (isSpace words)

/-! ## §1. The command that formats. -/

/-- **All attempts to format start the same command**, at least one of them and at most one more than are left. -/
theorem commands_formatFrom (command : List String) (attempt left : Nat) (l : Log) :
    ∃ k, 1 ≤ k ∧ k ≤ left + 1 ∧
      ((formatFrom command attempt left).exec l).2.commands = l.commands ++ List.replicate k command := by
  obtain ⟨n, l', hlast, hcommands, hexec⟩ := exec_formatFrom command attempt left l
  exact ⟨n, hlast.first_le, hlast.le_most, by rw [hexec, hcommands]⟩

/-! ## §2. Paths that are one word. -/

/-- A text that is one word: it is not empty and holds no blank. -/
def IsOneWord (t : String) : Prop :=
  t ≠ "" ∧ ∀ c ∈ t.toList, isSpace c = false

theorem isOneWord_of_mem_wordsOf {texts : List String} {w : String} (h : w ∈ wordsOf texts) : IsOneWord w := by
  unfold wordsOf at h
  obtain ⟨t, -, hw⟩ := List.mem_flatMap.mp h
  obtain ⟨piece, hpiece, rfl⟩ := List.mem_map.mp hw
  obtain ⟨hcut, hfull⟩ := List.mem_filter.mp hpiece
  refine ⟨?_, ?_⟩
  · intro hempty
    have hnil : piece = [] := by simpa using hempty
    rw [hnil] at hfull
    cases hfull
  · rw [String.toList_ofList]
    exact Text.forall_of_mem_splitBy hcut

theorem words_of_isOneWord {t : String} (h : IsOneWord t) : (words t.toList).map String.ofList = [t] := by
  have hfull : t.toList ≠ [] := fun hnil => h.1 (String.toList_inj.mp hnil)
  unfold words
  rw [Text.splitBy_of_forall h.2]
  simp [hfull]

/-- **Texts are cut into themselves** exactly if each of them is one word. -/
theorem wordsOf_eq_self_iff {texts : List String} : wordsOf texts = texts ↔ ∀ t ∈ texts, IsOneWord t := by
  constructor
  · intro hself t ht
    rw [← hself] at ht
    exact isOneWord_of_mem_wordsOf ht
  · intro hwords
    unfold wordsOf
    rw [List.flatMap_congr fun t ht => words_of_isOneWord (hwords t ht)]
    simp

theorem wordsOf_cons (text : String) (texts : List String) : wordsOf (text :: texts) = wordsOf [text] ++ wordsOf texts := by
  simp [wordsOf]

/-! ## §3. Tasks that run a command on files. -/

/-- A task that runs a command on files. -/
structure FileTask where
  /-- Its name. -/
  name : String
  /-- The words of the command. -/
  words : List String
  /-- The files. -/
  files : Selection

/-- The tasks that cut the paths of files into words together with the command. -/
def fileTasks : List FileTask :=
  [⟨"run_pyupgrade", ["pyupgrade", "--py3-plus"], { suffixes := [".py"] }⟩,
    ⟨"check_blacken_docs", ["blacken-docs", "--check"], documents⟩,
    ⟨"check_doctest",
      ["pytest", "--verbose", "--verbose", "--doctest-modules", "--doctest-continue-on-failure"],
      { suffixes := [".py"], holding := [directoryName] }⟩]

/-- Each of them is one step of the catalog. -/
theorem exists_step {t : FileTask} (ht : t ∈ fileTasks) :
    ∃ text, catalog.lookup t.name = some (.steps [.onFiles text t.files]) ∧ wordsOf [text] = t.words := by
  simp only [fileTasks, List.mem_cons, List.not_mem_nil, or_false] at ht
  rcases ht with rfl | rfl | rfl
  · exact ⟨_, rfl, by decide⟩
  · exact ⟨_, rfl, by decide⟩
  · exact ⟨_, rfl, by decide⟩

/-- What a name stands for is run. -/
theorem commands_runNamed {s : Setting} {name : String} {step : Step} (hlookup : catalog.lookup name = some (.steps [step]))
    (results : List ProcessResult) :
    ((runNamed s name).outcome results).2.commands = ((step.run s).exec { results }).2.commands := by
  rw [snd_outcome, exec_runNamed hlookup]

/-- **A command on files** is started with the words of their paths. -/
theorem commands_fileTask {t : FileTask} (ht : t ∈ fileTasks) (s : Setting) (results : List ProcessResult) :
    ((runNamed s t.name).outcome results).2.commands = [t.words ++ wordsOf (s.select t.files)] := by
  obtain ⟨text, hlookup, hwords⟩ := exists_step ht
  rw [commands_runNamed hlookup, Step.run, commands_perform, wordsOf_cons, hwords]
  rfl

/-- The tasks that run a command on files start it once, with its words and those of the paths as arguments. The paths
themselves are the arguments behind the command, one for each file and in their order, exactly if each of them is one
word. Formatting documents gives the paths to the program as they are, whatever they hold, each time that it is
started. -/
theorem files_are_arguments_iff (s : Setting) (results : List ProcessResult) :
    (∀ t ∈ fileTasks,
      ((runNamed s t.name).outcome results).2.commands = [t.words ++ wordsOf (s.select t.files)] ∧
      (((runNamed s t.name).outcome results).2.commands = [t.words ++ s.select t.files] ↔
        ∀ file ∈ s.select t.files, file ≠ "" ∧ ∀ c ∈ file.toList, isSpace c = false)) ∧
      ∃ k, 1 ≤ k ∧ k ≤ maxAttempts ∧ ((runNamed s "run_blacken_docs").outcome results).2.commands
        = List.replicate k ("blacken-docs" :: s.select documents) := by
  constructor
  · intro t ht
    have hcommands := commands_fileTask ht s results
    refine ⟨hcommands, ?_⟩
    rw [hcommands, List.singleton_inj, List.append_cancel_left_eq]
    exact wordsOf_eq_self_iff
  · have hlookup : catalog.lookup "run_blacken_docs" = some (.steps [.formatDocuments]) := rfl
    obtain ⟨k, hone, hmost, hformat⟩ :=
      commands_formatFrom ("blacken-docs" :: s.select documents) 1 (maxAttempts - 1) { results }
    refine ⟨k, hone, hmost, ?_⟩
    rw [commands_runNamed hlookup, Step.run, hformat]
    rfl

/-- A directory with a file that has a blank in its name. -/
def spacedSetting : Setting :=
  { workspace := { root := .dir [("a b.py", .file [])], cwd := [] }
    find := fun _ _ => some "./a b.py\n".toList
    args := [] }

/-- A path with a blank in it reaches the program as two arguments. -/
theorem spaced_path_is_cut :
    spacedSetting.select { suffixes := [".py"] } = ["a b.py"] ∧
      ((runNamed spacedSetting "run_pyupgrade").outcome []).2.commands
        = [["pyupgrade", "--py3-plus", "a", "b.py"]] := by
  have hselect : spacedSetting.select { suffixes := [".py"] } = ["a b.py"] := by
    have hprinted : printedFiles "./a b.py\n".toList = ["a b.py"] := by decide
    unfold Setting.select
    show ((printedFiles "./a b.py\n".toList).mergeSort fun a b => a ≤ b).filter _ = _
    rw [hprinted, List.mergeSort_singleton]
    rfl
  refine ⟨hselect, ?_⟩
  have htask : ⟨"run_pyupgrade", ["pyupgrade", "--py3-plus"], { suffixes := [".py"] }⟩ ∈ fileTasks := List.mem_cons_self
  rw [commands_fileTask htask, hselect]
  decide

end DocLint.Tasks
