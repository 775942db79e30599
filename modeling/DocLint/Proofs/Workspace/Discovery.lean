import DocLint.Proofs.Config.Tool
import DocLint.Proofs.Workspace.Tree
import Mathlib.Data.List.Induction

/-!
DocLint.Proofs.Workspace.Discovery: the nearest configuration file is found.

A directory has a configuration if its configuration file holds a document with a part for this program. The
search goes from the last name of a path to the first. If the path of the first file it asks for can be looked
up, so can all others, since they are shorter and lead through the same directories. Main statement: the search
fails exactly if that path cannot be looked up, and otherwise gives the file of the nearest directory that has
a configuration.
-/

namespace DocLint

namespace Workspace

/-- The path of the configuration file in the directory of names from the root. -/
def configPath (dir : List String) : Path :=
  absolute (dir ++ [configName])

/-! ## §1. Directories with a configuration. -/

/-- The configuration file of a directory can be read, and has a part for this program. -/
def HasConfig (w : Workspace) (dir : List String) : Prop :=
  ∃ bytes document part, w.lookup (configPath dir) = .found (.file bytes) ∧ IsDocument bytes document ∧
    toolTable (.table document) = .ok part ∧ part ≠ .none

end Workspace

/-- In all documents of configuration files in a tree, the entry `tool` is a table. -/
def Node.ToolsAreTables (n : Node) : Prop :=
  ∀ names bytes document, (names ++ [configName], Node.file bytes) ∈ n.inside → IsDocument bytes document →
    ToolIsTable document

theorem Node.ToolsAreTables.entry? {n m : Node} {name : String} (h : n.ToolsAreTables)
    (hm : n.entry? name = some m) : m.ToolsAreTables := by
  intro names bytes document hmem
  exact h (name :: names) bytes document ((mem_inside_of_entry hm).2 _ _ hmem)

namespace Workspace

variable {w : Workspace}

/-- A configuration file that is looked up is one of the tree. -/
theorem toolIsTable_of_lookup (hroot : w.root.ToolsAreTables) {dir : List String} {bytes : List UInt8}
    (hfound : w.lookup (configPath dir) = .found (.file bytes)) {document : Table}
    (hdocument : IsDocument bytes document) : ToolIsTable document := by
  unfold lookup at hfound
  split at hfound
  · cases hfound
  · obtain ⟨above, n, hdir, hfile⟩ := Node.exists_of_follow_append hfound
    have hn : n.ToolsAreTables := Node.found_of_follow Node.ToolsAreTables.entry? hroot (by simp) hdir
    rw [Node.follow_cons] at hfile
    split_ifs at hfile with hkind hup
    · cases hup
    · cases hentry : n.entry? configName with
      | none => rw [hentry] at hfile; cases hfile
      | some m =>
        simp only [hentry, Node.follow] at hfile
        cases hfile
        exact hn [] bytes document (Node.mem_inside_of_entry hentry).1 hdocument

/-- **A file that is asked for ends the search exactly if its directory has a configuration.** -/
theorem configures_iff (hroot : w.root.ToolsAreTables) {dir : List String} {n : Node}
    (hfound : w.lookup (configPath dir) = .found n) (path : String) :
    w.configures path n = true ↔ w.HasConfig dir := by
  unfold configures HasConfig
  rw [hfound]
  cases hread : readDocument w.diagnoses path n with
  | error reason =>
    refine iff_of_false (by simp) ?_
    rintro ⟨bytes, document, part, hn, hdocument, -⟩
    cases hn
    rw [readDocument_eq_ok_iff.mpr ⟨bytes, document, rfl, hdocument, rfl⟩] at hread
    cases hread
  | ok v =>
    obtain ⟨bytes, document, rfl, hdocument, rfl⟩ := readDocument_eq_ok_iff.mp hread
    have htool := toolIsTable_of_lookup hroot hfound hdocument
    show hasTool (.table document) = true ↔ _
    rw [hasTool_table_iff hdocument.isFull htool]
    constructor
    · rintro ⟨part, hpart, hsome⟩
      exact ⟨bytes, document, part, rfl, hdocument, hpart, hsome⟩
    · rintro ⟨bytes', document', part, hn, hdocument', hpart, hsome⟩
      cases hn
      rw [hdocument'.unique hdocument] at hpart
      exact ⟨part, hpart, hsome⟩

end Workspace

/-! ## §2. Paths that cannot be looked up. -/

/-- The bytes of names in a path, where a slash stands before each. -/
def slashedSize : List String → Nat
  | [] => 0
  | name :: names => name.utf8ByteSize + 1 + slashedSize names

theorem slashedSize_append (names names' : List String) :
    slashedSize (names ++ names') = slashedSize names + slashedSize names' := by
  induction names with
  | nil => simp [slashedSize]
  | cons name names ih =>
    rw [List.cons_append, slashedSize, slashedSize, ih]
    omega

/-- Joined names take a slash between each two. -/
theorem utf8ByteSize_intercalate {names : List String} (h : names ≠ []) :
    ("/".intercalate names).utf8ByteSize + 1 = slashedSize names := by
  induction names with
  | nil => exact absurd rfl h
  | cons name names ih =>
    cases names with
    | nil => simp [slashedSize]
    | cons next names =>
      have hrest := ih (by simp)
      rw [String.intercalate_cons_cons, String.utf8ByteSize_append, String.utf8ByteSize_append,
        slashedSize, ← hrest]
      show name.utf8ByteSize + 1 + _ + 1 = _
      omega

namespace Workspace

variable {w : Workspace}

/-- An absolute path takes a slash for each name. -/
theorem utf8ByteSize_render_absolute {names : List String} (h : names ≠ []) :
    (absolute names).render.utf8ByteSize = slashedSize names := by
  rw [← utf8ByteSize_intercalate h]
  show (String.ofList ['/'] ++ "/".intercalate names).utf8ByteSize = _
  rw [String.utf8ByteSize_append, Nat.add_comm]
  rfl

end Workspace

/-- The name of configuration files is short, so only a name before it can be too long. -/
theorem Node.follow_eq_tooLong {above : List Node} {here : Node} {xs : List String}
    (h : follow above here (xs ++ [configName]) = .tooLong) (ys : List String) :
    follow above here (xs ++ ys) = .tooLong := by
  induction xs generalizing above here with
  | nil =>
    rw [List.nil_append, follow_cons] at h
    split_ifs at h with hkind hup hsize
    · cases hup
    · exact absurd hsize (by decide)
    · cases hentry : here.entry? configName with
      | none => rw [hentry] at h; cases h
      | some inner => simp [hentry, follow] at h
  | cons name xs ih =>
    rw [List.cons_append, follow_cons] at h ⊢
    split_ifs at h ⊢
    · exact ih h
    · rfl
    · cases hentry : here.entry? name with
      | none => rw [hentry] at h; cases h
      | some inner => rw [hentry] at h; exact ih h

namespace Workspace

variable {w : Workspace}

/-- **If the file of a directory cannot be asked for, neither can that of a directory below it.** -/
theorem lookup_configPath_tooLong {dir : List String} (h : w.lookup (configPath dir) = .tooLong)
    (below : List String) : w.lookup (configPath (dir ++ below)) = .tooLong := by
  have hsize : (configPath dir).render.utf8ByteSize ≤ (configPath (dir ++ below)).render.utf8ByteSize := by
    unfold configPath
    rw [utf8ByteSize_render_absolute (by simp), utf8ByteSize_render_absolute (by simp)]
    simp only [slashedSize_append]
    omega
  unfold lookup at h ⊢
  by_cases hlimit : pathLimit ≤ (configPath (dir ++ below)).render.utf8ByteSize
  · rw [if_pos hlimit]
  · rw [if_neg (fun hdir => hlimit (hdir.trans hsize))] at h
    rw [if_neg hlimit]
    show w.root.follow [] (dir ++ below ++ [configName]) = _
    rw [List.append_assoc]
    exact Node.follow_eq_tooLong h _

/-! ## §3. The search. -/

/-- The nearest directory with a configuration, among that of `names` and those above it, without the root. -/
structure IsNearest (w : Workspace) (names dir : List String) : Prop where
  /-- It has a configuration. -/
  hasConfig : w.HasConfig dir
  /-- It is not the root. -/
  notRoot : dir ≠ []
  /-- It is the directory of the names or above it. -/
  isAbove : dir <+: names
  /-- Every other one is above it. -/
  isNearest : ∀ dir', w.HasConfig dir' → dir' ≠ [] → dir' <+: names → dir' <+: dir

theorem IsNearest.unique {names dir dir' : List String} (h : w.IsNearest names dir)
    (h' : w.IsNearest names dir') : dir = dir' := by
  have hle := h'.isNearest dir h.hasConfig h.notRoot h.isAbove
  have hge := h.isNearest dir' h'.hasConfig h'.notRoot h'.isAbove
  exact hle.eq_of_length (Nat.le_antisymm hle.length_le hge.length_le)

/-- One step of the search. -/
theorem findFrom_concat (w : Workspace) (dir : List String) (name : String) :
    w.findFrom (dir ++ [name]).reverse =
      match w.lookup (configPath (dir ++ [name])) with
      | .tooLong => .error (.unknowable (tooLongMessage (configPath (dir ++ [name])).render))
      | .missing => w.findFrom dir.reverse
      | .found n =>
        if w.configures (configPath (dir ++ [name])).render n then .ok (some (configPath (dir ++ [name])))
        else w.findFrom dir.reverse := by
  rw [List.reverse_append, List.reverse_singleton, List.singleton_append, findFrom]
  simp only [List.reverse_cons, List.reverse_reverse]
  rfl

/-- What the search answers: the nearest directory with a configuration, or that there is none. -/
def Answers (w : Workspace) (names : List String) : Option Path → Prop
  | some p => ∃ dir, w.IsNearest names dir ∧ p = configPath dir
  | none => ∀ dir, dir ≠ [] → dir <+: names → ¬ w.HasConfig dir

/-- A directory without a configuration leaves the answer to those above it. -/
theorem Answers.concat {dir : List String} {name : String} {answer : Option Path}
    (hnot : ¬ w.HasConfig (dir ++ [name])) (h : w.Answers dir answer) :
    w.Answers (dir ++ [name]) answer := by
  have habove : ∀ dir', w.HasConfig dir' → dir' <+: dir ++ [name] → dir' <+: dir := by
    intro dir' hdir' hle
    rcases List.prefix_concat_iff.mp hle with rfl | hle
    · exact absurd hdir' hnot
    · exact hle
  cases answer with
  | none =>
    intro dir' hne hle hconfig
    exact h dir' hne (habove dir' hconfig hle) hconfig
  | some p =>
    obtain ⟨near, hnear, rfl⟩ := h
    refine ⟨near, ⟨hnear.hasConfig, hnear.notRoot, hnear.isAbove.trans (List.prefix_append _ _), ?_⟩, rfl⟩
    intro dir' hconfig hne hle
    exact hnear.isNearest dir' hconfig hne (habove dir' hconfig hle)

/-- **The search answers**, if the first path it asks for can be looked up. -/
theorem findFrom_answers (hroot : w.root.ToolsAreTables) (names : List String)
    (hlookup : w.lookup (configPath names) ≠ .tooLong) :
    ∃ answer, w.findFrom names.reverse = .ok answer ∧ w.Answers names answer := by
  -- from the first name to the last: each step asks the innermost directory and leaves the rest
  induction names using List.reverseRecOn with
  | nil =>
    refine ⟨none, rfl, ?_⟩
    intro dir hne hle
    exact absurd (List.prefix_nil.mp hle) hne
  | append_singleton dir name ih =>
    obtain ⟨answer, hrest, hanswer⟩ := ih fun hlong => hlookup (lookup_configPath_tooLong hlong [name])
    rw [findFrom_concat]
    cases hfound : w.lookup (configPath (dir ++ [name])) with
    | tooLong => exact absurd hfound hlookup
    | missing =>
      refine ⟨answer, hrest, hanswer.concat ?_⟩
      rintro ⟨bytes, document, part, hfile, -⟩
      rw [hfound] at hfile
      cases hfile
    | found n =>
      have hask := configures_iff hroot hfound (configPath (dir ++ [name])).render
      by_cases hconfig : w.HasConfig (dir ++ [name])
      · simp only [if_pos (hask.mpr hconfig)]
        exact ⟨some (configPath (dir ++ [name])), rfl, dir ++ [name],
          ⟨hconfig, by simp, List.prefix_rfl, fun _ _ _ hle => hle⟩, rfl⟩
      · simp only [if_neg (mt hask.mp hconfig)]
        exact ⟨answer, hrest, hanswer.concat hconfig⟩

/-- There is one answer. -/
theorem Answers.unique {names : List String} {answer answer' : Option Path} (h : w.Answers names answer)
    (h' : w.Answers names answer') : answer = answer' := by
  cases answer with
  | none =>
    cases answer' with
    | none => rfl
    | some p =>
      obtain ⟨dir, hdir, -⟩ := h'
      exact absurd hdir.hasConfig (h dir hdir.notRoot hdir.isAbove)
  | some p =>
    obtain ⟨dir, hdir, rfl⟩ := h
    cases answer' with
    | none => exact absurd hdir.hasConfig (h' dir hdir.notRoot hdir.isAbove)
    | some p' =>
      obtain ⟨dir', hdir', rfl⟩ := h'
      rw [hdir.unique hdir']

theorem findFrom_of_tooLong {names : List String} (h : w.lookup (configPath names) = .tooLong) :
    w.findFrom names.reverse = .error (.unknowable (tooLongMessage (configPath names).render)) := by
  cases names using List.reverseRecOn with
  | nil =>
    -- the path of a file in the root is short
    unfold lookup at h
    rw [if_neg (by decide)] at h
    have hempty := Node.follow_eq_tooLong h []
    cases hempty
  | append_singleton dir name => rw [findFrom_concat, h]

/-! ## §4. The main statement. -/

/-- **The nearest configuration file is found.** The tree is readable: no permission keeps the search from a directory
or a file in it. If its documents have tables under `tool`, the search from a path on fails exactly if the
configuration file of its directory has a path that cannot be looked up. If it has not, the search gives the file of
the nearest directory that has a configuration, and no file exactly if there is no such directory; files that are no
text, or hold no document, are passed over. -/
theorem findConfig_nearest (w : Workspace) (start : Path) (hroot : w.root.ToolsAreTables) :
    (w.isTooLong (configPath (w.resolve start)) = true →
      w.findConfig start
        = .error (.unknowable (tooLongMessage (configPath (w.resolve start)).render))) ∧
    (w.isTooLong (configPath (w.resolve start)) = false →
      ∃ answer, w.findConfig start = .ok answer ∧
        (∀ p, answer = some p ↔ ∃ dir, w.IsNearest (w.resolve start) dir ∧ p = configPath dir) ∧
        (answer = none ↔ ∀ dir, dir ≠ [] → dir <+: w.resolve start → ¬ w.HasConfig dir)) := by
  unfold findConfig
  constructor
  · intro hlong
    apply findFrom_of_tooLong
    unfold isTooLong at hlong
    cases hlookup : w.lookup (configPath (w.resolve start)) with
    | tooLong => rfl
    | missing => rw [hlookup] at hlong; cases hlong
    | found n => rw [hlookup] at hlong; cases hlong
  · intro hshort
    have hlookup : w.lookup (configPath (w.resolve start)) ≠ .tooLong := by
      intro hlong
      rw [isTooLong, hlong] at hshort
      cases hshort
    obtain ⟨answer, hfind, hanswer⟩ := findFrom_answers hroot (w.resolve start) hlookup
    have hiff : ∀ other, answer = other ↔ w.Answers (w.resolve start) other := by
      intro other
      constructor
      · intro hsame
        rw [← hsame]
        exact hanswer
      · intro hother
        exact hanswer.unique hother
    exact ⟨answer, hfind, fun p => hiff (some p), hiff none⟩

/-- Three nested directories with configuration files, of which only the outermost has a part for this
program; the next one holds no document, and the innermost an empty table. -/
def nestedWorkspace : Workspace :=
  { root := .dir [("a", .dir [(configName, .file (asciiBytes "tool.dfc = {}")),
      ("b", .dir [(configName, .file (asciiBytes "tool =")),
        ("c", .dir [(configName, .file (asciiBytes "tool = {}"))])])])]
    cwd := ["a"] }

theorem isDocument_outermost :
    IsDocument (asciiBytes "tool.dfc = {}") [("tool", .table [("dfc", .table [])])] :=
  ⟨"tool.dfc = {}".toList, by rfl, by rfl⟩

theorem not_isDocument_middle (document : Table) : ¬ IsDocument (asciiBytes "tool =") document := by
  intro ⟨text, hdecode, hparse⟩
  have htext : Text.decode (asciiBytes "tool =") = .ok "tool =".toList := by rfl
  have hfails : (Toml.parse "tool =".toList).toOption = none := by rfl
  cases hdecode.symm.trans htext
  rw [hparse] at hfails
  cases hfails

theorem isDocument_innermost : IsDocument (asciiBytes "tool = {}") [("tool", .table [])] :=
  ⟨"tool = {}".toList, by rfl, by rfl⟩

theorem toolsAreTables_nestedWorkspace : nestedWorkspace.root.ToolsAreTables := by
  intro names bytes document hmem hdocument tool htool
  have hinside : nestedWorkspace.root.inside =
      [(["a"], .dir [(configName, .file (asciiBytes "tool.dfc = {}")),
          ("b", .dir [(configName, .file (asciiBytes "tool =")),
            ("c", .dir [(configName, .file (asciiBytes "tool = {}"))])])]),
        (["a", configName], .file (asciiBytes "tool.dfc = {}")),
        (["a", "b"], .dir [(configName, .file (asciiBytes "tool =")),
          ("c", .dir [(configName, .file (asciiBytes "tool = {}"))])]),
        (["a", "b", configName], .file (asciiBytes "tool =")),
        (["a", "b", "c"], .dir [(configName, .file (asciiBytes "tool = {}"))]),
        (["a", "b", "c", configName], .file (asciiBytes "tool = {}"))] := by rfl
  have hbytes : bytes = asciiBytes "tool.dfc = {}" ∨ bytes = asciiBytes "tool =" ∨
      bytes = asciiBytes "tool = {}" := by
    simpa [hinside] using (List.mem_map_of_mem (f := Prod.snd) hmem)
  rcases hbytes with rfl | rfl | rfl
  · cases hdocument.unique isDocument_outermost
    cases htool
    exact ⟨_, rfl⟩
  · exact absurd hdocument (not_isDocument_middle document)
  · cases hdocument.unique isDocument_innermost
    cases htool
    exact ⟨_, rfl⟩

/-- Of the three directories, the outermost has a configuration. -/
theorem isNearest_nestedWorkspace : nestedWorkspace.IsNearest ["a", "b", "c"] ["a"] := by
  refine ⟨⟨_, _, .table [], by rfl, isDocument_outermost, by rfl, by simp⟩, by simp, by simp, ?_⟩
  intro dir ⟨bytes, document, part, hfound, hdocument, hpart, hsome⟩ hne habove
  have hcases : dir = ["a"] ∨ dir = ["a", "b"] ∨ dir = ["a", "b", "c"] := by
    rw [← List.mem_inits] at habove
    simpa [hne] using habove
  rcases hcases with rfl | rfl | rfl
  · exact List.prefix_rfl
  · have hmiddle : nestedWorkspace.lookup (configPath ["a", "b"])
        = .found (.file (asciiBytes "tool =")) := by rfl
    cases hfound.symm.trans hmiddle
    exact absurd hdocument (not_isDocument_middle document)
  · have hinnermost : nestedWorkspace.lookup (configPath ["a", "b", "c"])
        = .found (.file (asciiBytes "tool = {}")) := by rfl
    cases hfound.symm.trans hinnermost
    cases hdocument.unique isDocument_innermost
    cases hpart
    exact absurd rfl hsome

theorem findConfig_nearest_nested :
    nestedWorkspace.root.ToolsAreTables ∧
      nestedWorkspace.findConfig { parts := ["b", "c"] }
        = .ok (some { slashes := 1, parts := ["a", "pyproject.toml"] }) := by
  refine ⟨toolsAreTables_nestedWorkspace, ?_⟩
  obtain ⟨-, hshort⟩ := findConfig_nearest nestedWorkspace { parts := ["b", "c"] }
    toolsAreTables_nestedWorkspace
  obtain ⟨answer, hfind, hsome, -⟩ := hshort (by decide)
  rw [hfind, (hsome (configPath ["a"])).mpr ⟨["a"], isNearest_nestedWorkspace, rfl⟩]
  rfl

/-! ## §5. A directory that ends the search. -/

/-- Directories inside each other. -/
def deepNode : (depth : Nat) → Node
  | 0 => .dir []
  | depth + 1 => .dir [("d", deepNode depth)]

theorem toolsAreTables_deepNode (depth : Nat) : (deepNode depth).ToolsAreTables := by
  induction depth with
  | zero =>
    intro names bytes document hmem
    simp [deepNode, Node.inside, Node.insideAll] at hmem
  | succ depth ih =>
    intro names bytes document hmem hdocument
    rw [deepNode, Node.inside, Node.mem_insideAll_iff] at hmem
    obtain ⟨name, n, hentry, hcase⟩ := hmem
    obtain ⟨rfl, rfl⟩ := Prod.mk.inj (List.mem_singleton.mp hentry)
    rcases hcase with ⟨-, hfile⟩ | ⟨below, hnames, hbelow⟩
    · cases depth <;> cases hfile
    · cases names with
      | nil =>
        simp at hnames
        exact absurd hnames.1 (by decide)
      | cons name names =>
        rw [← (List.cons.inj hnames).2] at hbelow
        exact ih names bytes document hbelow hdocument

theorem follow_deepNode (depth : Nat) (above : List Node) :
    (deepNode depth).follow above (List.replicate depth "d") = .found (.dir []) := by
  induction depth generalizing above with
  | zero => rfl
  | succ depth ih => exact ih _

theorem resolve_absolute (w : Workspace) {names : List String} (h : Path.up ∉ names) :
    w.resolve (absolute names) = names := by
  have hsteps : ∀ (names before : List String), Path.up ∉ names →
      names.foldl stepName before = before ++ names := by
    intro names
    induction names with
    | nil => simp
    | cons name names ih =>
      intro before hup
      rw [List.mem_cons, not_or] at hup
      rw [List.foldl_cons, stepName, if_neg (by simpa using Ne.symm hup.1), ih _ hup.2]
      simp
  exact hsteps names [] h

/-- Such directories, with nothing else around them. -/
def deepWorkspace (depth : Nat) : Workspace :=
  { root := deepNode depth, cwd := [] }

/-- The path of the innermost of them. -/
def deepPath (depth : Nat) : Path :=
  absolute (List.replicate depth "d")

theorem resolve_deepPath (depth : Nat) :
    (deepWorkspace depth).resolve (deepPath depth) = List.replicate depth "d" := by
  apply resolve_absolute
  intro hup
  exact absurd (List.eq_of_mem_replicate hup) (by decide)

/-- A name and a slash are two bytes. -/
theorem slashedSize_replicate (depth : Nat) : slashedSize (List.replicate depth "d") = 2 * depth := by
  induction depth with
  | zero => rfl
  | succ depth ih =>
    rw [List.replicate_succ, slashedSize, ih]
    show 2 + 2 * depth = _
    omega

theorem isDir_deepPath {depth : Nat} (hne : 0 < depth) (hshort : 2 * depth < pathLimit) :
    (deepWorkspace depth).isDir (deepPath depth) = true := by
  have hfound : (deepWorkspace depth).lookup (deepPath depth) = .found (.dir []) := by
    unfold lookup deepPath
    rw [utf8ByteSize_render_absolute (by simp; omega), slashedSize_replicate, if_neg (by omega)]
    exact follow_deepNode depth []
  rw [isDir, node?, hfound]
  rfl

theorem lookup_deepPath {depth : Nat} (hlong : pathLimit ≤ 2 * depth + 15) :
    (deepWorkspace depth).lookup (configPath (List.replicate depth "d")) = .tooLong := by
  have hsize : pathLimit ≤ (configPath (List.replicate depth "d")).render.utf8ByteSize := by
    unfold configPath
    rw [utf8ByteSize_render_absolute (by simp), slashedSize_append, slashedSize_replicate]
    exact hlong
  unfold lookup
  rw [if_pos hsize]

/-- **A directory whose configuration file would have too long a path ends the search**, although the directory
exists and no file on the way is at fault. -/
theorem findConfig_fails_in_deep_directory :
    (deepWorkspace 2041).root.ToolsAreTables ∧ (deepWorkspace 2041).isDir (deepPath 2041) = true ∧
      ∃ reason, (deepWorkspace 2041).findConfig (deepPath 2041) = .error (.unknowable reason) := by
  have hends := findFrom_of_tooLong (@lookup_deepPath 2041 (by decide))
  rw [← resolve_deepPath] at hends
  exact ⟨toolsAreTables_deepNode 2041, isDir_deepPath (by decide) (by decide), _, hends⟩

end Workspace

end DocLint
