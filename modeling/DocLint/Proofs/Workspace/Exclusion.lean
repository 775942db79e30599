import DocLint.Proofs.Workspace.Directory
import DocLint.Proofs.Workspace.Path

/-!
DocLint.Proofs.Workspace.Exclusion: patterns only take files out of the result.

Each entry of a result stands for a file of the directory and is found by the check of that file alone, so
a file that is excluded has no influence on any other. Main statement: with patterns, the result is that
without them, restricted to the files whose paths from the directory on match none of the patterns.
-/

namespace DocLint

/-! ## §1. Names in a tree. -/

namespace Node

/-- A tree in which every name can stand in a path. -/
def IsPlain (n : Node) : Prop :=
  ∀ names m, (names, m) ∈ n.inside → ∀ name ∈ names, Path.IsPart name

theorem IsPlain.entry? {n m : Node} {name : String} (h : n.IsPlain) (hm : n.entry? name = some m) :
    m.IsPlain := by
  intro names below hbelow part hpart
  exact h (name :: names) below ((mem_inside_of_entry hm).2 names below hbelow) part
    (List.mem_cons_of_mem _ hpart)

end Node

theorem Workspace.isPlain_of_lookup {w : Workspace} {p : Path} {n : Node} (h : w.root.IsPlain)
    (hfound : w.lookup p = .found n) : n.IsPlain := by
  unfold lookup at hfound
  split at hfound
  · cases hfound
  · exact Node.found_of_follow Node.IsPlain.entry? h (by simp) hfound

/-! ## §2. Members and what they are called from the directory on. -/

/-- The path to `q` from a path `p` above it. -/
def Path.relativeTo (q p : Path) : Path :=
  { parts := q.parts.drop p.parts.length }

theorem Path.relativeTo_child (p : Path) (names : List String) :
    (p.child names).relativeTo p = { parts := names } := by
  simp [relativeTo, child]

/-- Whether a path, given from a directory on, matches none of the patterns. -/
def matchesNone (patterns : List String) (q : Path) : Bool :=
  patterns.all fun pattern => !Text.matchesPattern pattern.toList q.render.toList

theorem not_isExcluded (patterns : List String) (q : Path) :
    (!isExcluded patterns q) = matchesNone patterns q := by
  unfold isExcluded matchesNone
  rw [List.not_any_eq_all_not]

variable {c : Config} {w : Workspace} {p : Path} {n : Node} {exclude : List String} {rs : Results}

/-- Patterns take members out. -/
theorem memberPaths_eq_filter (p : Path) (exclude : List String) (n : Node) :
    memberPaths p exclude n
      = (memberPaths p [] n).filter fun q => matchesNone exclude (q.relativeTo p) := by
  have hall : (sourcesBelow p n).filter (fun names => !isExcluded [] { parts := names })
      = sourcesBelow p n := by
    rw [List.filter_eq_self]
    intro names _
    rfl
  unfold memberPaths
  rw [hall, List.filter_map]
  refine congrArg (List.map p.child) (List.filter_congr ?_)
  intro names _
  rw [Function.comp_apply, Path.relativeTo_child, not_isExcluded]

theorem isNormal_of_mem_memberPaths (hp : p.IsNormal) (hn : n.IsPlain) {q : Path}
    (hq : q ∈ memberPaths p exclude n) : q.IsNormal := by
  obtain ⟨names, m, hm, rfl⟩ := mem_memberPaths.mp hq
  exact hp.child (hn names m hm.below)

/-! ## §3. Checking fewer members. -/

/-- The errors of a file after which the check of a directory goes on. -/
inductive FileError.IsCaught : FileError → Prop where
  /-- There is no such file. -/
  | notFound (path : String) : IsCaught (.notFound path)
  /-- The file is no text. -/
  | undecodable (path : String) (error : Text.DecodeError) : IsCaught (.undecodable path error)
  /-- The file cannot be parsed. -/
  | malformed (path diagnosis : String) : IsCaught (.malformed path diagnosis)
  /-- An annotation in the file cannot be written. -/
  | unwritten : IsCaught (.fault .unwritten)

theorem FileError.isReported_iff {e : FileError} : e.isReported = true ↔ e.IsCaught := by
  constructor
  · intro h
    cases e with
    | notFound path => exact .notFound path
    | undecodable path error => exact .undecodable path error
    | malformed path diagnosis => exact .malformed path diagnosis
    | fault f =>
      cases f with
      | unwritten => exact .unwritten
      | _ => cases h
    | _ => cases h
  · intro h
    cases h <;> rfl

namespace Config

/-- **The check of fewer members gives the entries of those**, in the same order. -/
theorem checkMembers_filter {ps : List Path} (hnormal : ∀ q ∈ ps, q.IsNormal)
    (h : c.checkMembers w ps = .ok rs) (keep : Path → Bool) :
    c.checkMembers w (ps.filter keep) = .ok (rs.filter fun e => keep (Path.ofString e.1)) := by
  obtain ⟨hall, rfl⟩ := checkMembers_eq_ok_iff.mp h
  refine checkMembers_eq_ok_iff.mpr ⟨fun q hq => hall q (List.mem_of_mem_filter hq), ?_⟩
  -- an entry is kept if its path is, which is read back from its key
  have hkept : ps.filter keep = ps.filter fun q => keep (Path.ofString q.render) := by
    refine List.filter_congr ?_
    intro q hq
    rw [(hnormal q hq).ofString_render]
  rw [hkept, List.filter_filter, List.filter_map, List.filter_map, List.filter_filter]
  refine congrArg (List.map _) (List.filter_congr ?_)
  intro q _
  exact Bool.and_comm _ _

/-- An entry of the result is what the check of its file gives. -/
theorem checkMember_of_mem {ps : List Path} (hnormal : ∀ q ∈ ps, q.IsNormal)
    (h : c.checkMembers w ps = .ok rs) {path : String} {fs : List Finding} (hmem : (path, fs) ∈ rs) :
    fs ≠ [] ∧ c.checkMember w (Path.ofString path) = .ok fs := by
  obtain ⟨hall, rfl⟩ := checkMembers_eq_ok_iff.mp h
  obtain ⟨hmem, hfound⟩ := List.mem_filter.mp hmem
  obtain ⟨q, hq, heq⟩ := List.mem_map.mp hmem
  obtain ⟨rfl, rfl⟩ := Prod.mk.inj heq
  obtain ⟨fs, hfs⟩ := hall q hq
  rw [(hnormal q hq).ofString_render, hfs]
  rw [hfs] at hfound
  exact ⟨by simpa [Except.toOption] using hfound, rfl⟩

/-- What is found in a file of a directory is what its own check finds, or one finding for an error after
which the check goes on. -/
theorem checkMember_eq_ok_iff {fs : List Finding} :
    c.checkMember w p = .ok fs
      ↔ c.checkFile w p = .ok fs ∨
        ∃ e, c.checkFile w p = .error e ∧ e.IsCaught ∧
          fs = [{ message := e.message, file := p.render, line := 0, name := "", kind := "file" }] := by
  unfold checkMember
  cases c.checkFile w p with
  | ok fs' => simp
  | error e =>
    simp only [reduceCtorEq, false_or, Except.error.injEq, exists_eq_left', ← FileError.isReported_iff]
    by_cases he : e.isReported = true
    · simp [he, FileError.finding, eq_comm]
    · simp [he]

/-! ## §4. Checking fewer files of a directory. -/

theorem exists_of_checkDirectory (h : c.checkDirectory w p exclude = .ok rs) :
    ∃ es, w.lookup p = .found (.dir es) ∧ c.checkMembers w (memberPaths p exclude (.dir es)) = .ok rs := by
  cases hfound : w.lookup p with
  | tooLong => simp [checkDirectory, hfound] at h
  | missing => simp [checkDirectory, hfound] at h
  | found n =>
    cases n with
    | file bytes => simp [checkDirectory, hfound] at h
    | dir es => exact ⟨es, rfl, (checkDirectory_eq_ok_iff hfound).mp h⟩

/-- **Patterns restrict the result.** -/
theorem checkDirectory_restrict (hroot : w.root.IsPlain) (hp : p.IsNormal)
    (h : c.checkDirectory w p [] = .ok rs) (patterns : List String) :
    c.checkDirectory w p patterns
      = .ok (rs.filter fun e => matchesNone patterns ((Path.ofString e.1).relativeTo p)) := by
  obtain ⟨es, hfound, hmembers⟩ := exists_of_checkDirectory h
  have hplain := Workspace.isPlain_of_lookup hroot hfound
  rw [checkDirectory_eq_ok_iff hfound, memberPaths_eq_filter]
  exact checkMembers_filter (fun q hq => isNormal_of_mem_memberPaths hp hplain hq) hmembers
    fun q => matchesNone patterns (q.relativeTo p)

/-- Each entry of the result is what the check of its file gives. -/
theorem checkMember_of_checkDirectory (hroot : w.root.IsPlain) (hp : p.IsNormal)
    (h : c.checkDirectory w p exclude = .ok rs) {path : String} {fs : List Finding}
    (hmem : (path, fs) ∈ rs) :
    fs ≠ [] ∧ (Path.ofString path).render = path ∧ c.checkMember w (Path.ofString path) = .ok fs := by
  obtain ⟨es, hfound, hmembers⟩ := exists_of_checkDirectory h
  have hnormal : ∀ q ∈ memberPaths p exclude (.dir es), q.IsNormal := fun q hq =>
    isNormal_of_mem_memberPaths hp (Workspace.isPlain_of_lookup hroot hfound) hq
  obtain ⟨hne, hchecked⟩ := checkMember_of_mem hnormal hmembers hmem
  have hkey : path ∈ rs.keys := List.mem_map.mpr ⟨_, hmem, rfl⟩
  obtain ⟨q, hq, rfl⟩ := List.mem_map.mp ((keys_sublist_of_checkMembers hmembers).subset hkey)
  exact ⟨hne, by rw [(hnormal q hq).ofString_render], hchecked⟩

end Config

/-- Restricting a dictionary twice by its keys gives the entries that both restrictions keep. -/
theorem filter_has_filter (rs : Results) (f g : String → Bool) :
    (rs.filter fun e => f e.1).filter (fun e => Entries.has (rs.filter fun e => g e.1) e.1)
      = rs.filter fun e => f e.1 && g e.1 := by
  rw [List.filter_filter]
  refine List.filter_congr ?_
  intro e he
  have hkept : Entries.has (rs.filter fun e => g e.1) e.1 = g e.1 := by
    rw [Bool.eq_iff_iff, Entries.has, List.any_eq_true]
    constructor
    · rintro ⟨e', he', hkey⟩
      have hkey' : e'.1 = e.1 := by simpa using hkey
      exact hkey' ▸ (List.mem_filter.mp he').2
    · intro hg
      exact ⟨e, List.mem_filter.mpr ⟨he, hg⟩, beq_self_eq_true _⟩
  rw [hkept]
  exact Bool.and_comm _ _

theorem matchesNone_congr {patterns patterns' : List String}
    (h : ∀ pattern, pattern ∈ patterns ↔ pattern ∈ patterns') (q : Path) :
    matchesNone patterns q = matchesNone patterns' q := by
  unfold matchesNone
  rw [Bool.eq_iff_iff, List.all_eq_true, List.all_eq_true]
  exact ⟨fun hall pattern hp => hall pattern ((h pattern).mpr hp),
    fun hall pattern hp => hall pattern ((h pattern).mp hp)⟩

/-- **Exclusion is a pure filter.** Let the check of a directory give a result without patterns. With
patterns it gives the entries of that result whose paths from the directory on match none of them, in the
same order; with the patterns of two lists together it gives what both results hold, and only which patterns
there are counts. Each entry is what the check of its file finds, or the one finding for a file that is not
there, is no text, cannot be parsed or cannot be written. -/
theorem exclude_is_filter (c : Config) (w : Workspace) (d : String) (rs : Results)
    (hroot : w.root.IsPlain) (hall : c.checkDirectory w (Path.ofString d) [] = .ok rs) :
    (∀ patterns, c.checkDirectory w (Path.ofString d) patterns
      = .ok (rs.filter fun e => patterns.all fun pattern => !Text.matchesPattern pattern.toList
          ((Path.ofString e.1).relativeTo (Path.ofString d)).render.toList)) ∧
    (∀ first second rs₁ rs₂, c.checkDirectory w (Path.ofString d) first = .ok rs₁ →
      c.checkDirectory w (Path.ofString d) second = .ok rs₂ →
      c.checkDirectory w (Path.ofString d) (first ++ second) = .ok (rs₁.filter fun e => rs₂.has e.1) ∧
      ∀ e, e ∈ rs₁.filter (fun e => rs₂.has e.1) ↔ e ∈ rs₁ ∧ e ∈ rs₂) ∧
    (∀ patterns patterns', (∀ pattern, pattern ∈ patterns ↔ pattern ∈ patterns') →
      c.checkDirectory w (Path.ofString d) patterns = c.checkDirectory w (Path.ofString d) patterns') ∧
    ∀ patterns rs', c.checkDirectory w (Path.ofString d) patterns = .ok rs' →
      ∀ path fs, (path, fs) ∈ rs' →
        c.checkFile w (Path.ofString path) = .ok fs ∨
        ∃ e, c.checkFile w (Path.ofString path) = .error e ∧ e.IsCaught ∧
          fs = [{ message := e.message, file := path, line := 0, name := "", kind := "file" }] := by
  have hd := Path.isNormal_ofString d
  have hrestrict := Config.checkDirectory_restrict hroot hd hall
  refine ⟨hrestrict, ?_, ?_, ?_⟩
  · intro first second rs₁ rs₂ h₁ h₂
    rw [hrestrict] at h₁ h₂
    obtain rfl := Except.ok.inj h₁
    obtain rfl := Except.ok.inj h₂
    have hboth := filter_has_filter rs
      (fun path => matchesNone first ((Path.ofString path).relativeTo (Path.ofString d)))
      (fun path => matchesNone second ((Path.ofString path).relativeTo (Path.ofString d)))
    rw [hrestrict, hboth]
    constructor
    · simp only [matchesNone, List.all_append]
    · intro e
      simp only [List.mem_filter, Bool.and_eq_true]
      exact and_and_left
  · intro patterns patterns' hsame
    rw [hrestrict, hrestrict]
    simp only [matchesNone_congr hsame]
  · intro patterns rs' hrs' path fs hmem
    obtain ⟨-, hkey, hchecked⟩ := Config.checkMember_of_checkDirectory hroot hd hrs' hmem
    have hcases := Config.checkMember_eq_ok_iff.mp hchecked
    rwa [hkey] at hcases

/-- What the check of a directory with a file that is no text gives. -/
def mixedResults : Results :=
  [("d/a.py",
      [{ message := "Missing docstring for function", file := "d/a.py", line := 1, name := "f"
         kind := "function" }]),
    ("d/b.py",
      [{ message := "Cannot decode file d/b.py: 'utf-8' codec can't decode byte 0xff in position 0: " ++
           "invalid start byte"
         file := "d/b.py", line := 0, name := "", kind := "file" }])]

theorem isPlain_mixedWorkspace : mixedWorkspace.root.IsPlain := by
  have hinside : (mixedWorkspace.root.inside.map (·.1)).flatten = ["d", "d", "a.py", "d", "b.py"] := by rfl
  intro names m hm name hname
  have hmem : name ∈ (mixedWorkspace.root.inside.map (·.1)).flatten :=
    List.mem_flatten.mpr ⟨names, List.mem_map.mpr ⟨_, hm, rfl⟩, hname⟩
  rw [hinside] at hmem
  simp only [List.mem_cons, List.not_mem_nil, or_false] at hmem
  rcases hmem with rfl | rfl | rfl | rfl | rfl <;> exact ⟨by decide, by decide, by decide⟩

theorem checkDirectory_mixedWorkspace :
    defaultConfig.checkDirectory mixedWorkspace (Path.ofString "d") [] = .ok mixedResults := by
  have hd : Path.ofString "d" = { parts := ["d"] } := by decide
  have hfound : mixedWorkspace.lookup { parts := ["d"] } = .found (.dir mixedEntries) := by rfl
  have hsources : sourcesBelow { parts := ["d"] } (.dir mixedEntries) = [["a.py"], ["b.py"]] :=
    List.mergeSort_of_pairwise (by decide +kernel)
  rw [hd]
  unfold Config.checkDirectory
  rw [hfound]
  simp only [hsources]
  decide +kernel

/-- A pattern is matched from the directory on: the second one matches no file of it. -/
theorem exclude_is_filter_mixed :
    mixedWorkspace.root.IsPlain ∧
    defaultConfig.checkDirectory mixedWorkspace (Path.ofString "d") [] = .ok mixedResults ∧
    defaultConfig.checkDirectory mixedWorkspace (Path.ofString "d") ["a.*", "d/*"]
      = .ok (mixedResults.drop 1) := by
  refine ⟨isPlain_mixedWorkspace, checkDirectory_mixedWorkspace, ?_⟩
  rw [(exclude_is_filter defaultConfig mixedWorkspace "d" mixedResults isPlain_mixedWorkspace
    checkDirectory_mixedWorkspace).1]
  decide +kernel

end DocLint
