import DocLint.Proofs.Text.Basic
import DocLint.Workspace.Path

/-!
DocLint.Proofs.Workspace.Path: paths are read back as they are written.

A path that is read from a text has at most two slashes in front, and none of its names is empty, is a dot or
holds a slash. Such a path is read back from its text, and what follows it below is such a path again.
-/

namespace DocLint.Path

/-! ## §1. Paths as they are read. -/

/-- A name that is kept when a path is read. -/
structure IsPart (name : String) : Prop where
  /-- It is not empty. -/
  notEmpty : name ≠ ""
  /-- It does not stand for the directory itself. -/
  notDot : name ≠ "."
  /-- It holds no slash. -/
  noSlash : '/' ∉ name.toList

/-- A path that can be read from a text. -/
structure IsNormal (p : Path) : Prop where
  /-- Two slashes in front are the most that is told apart. -/
  slashes : p.slashes ≤ 2
  /-- Its names are kept. -/
  parts : ∀ name ∈ p.parts, IsPart name

theorem isPart_of_mem_namesOf {cs : Text} {name : String} (h : name ∈ namesOf cs) : IsPart name := by
  unfold namesOf at h
  obtain ⟨piece, hpiece, rfl⟩ := List.mem_map.mp h
  obtain ⟨hcut, hkept⟩ := List.mem_filter.mp hpiece
  rw [Bool.and_eq_true, Bool.not_eq_true', bne_iff_ne] at hkept
  refine ⟨?_, ?_, ?_⟩
  · intro hempty
    have : piece = [] := by simpa using hempty
    rw [this] at hkept
    cases hkept.1
  · intro hdot
    exact hkept.2 (by rw [← String.toList_ofList (l := piece), hdot]; rfl)
  · rw [String.toList_ofList]
    intro hslash
    have hfree := Text.forall_of_mem_splitBy hcut '/' hslash
    cases hfree

/-- **Reading gives a normal path.** -/
theorem isNormal_ofString (s : String) : (ofString s).IsNormal := by
  refine ⟨?_, fun name hname => isPart_of_mem_namesOf hname⟩
  unfold ofString
  simp only
  split <;> omega

theorem IsNormal.child {p : Path} (hp : p.IsNormal) {names : List String}
    (h : ∀ name ∈ names, IsPart name) : (p.child names).IsNormal := by
  refine ⟨hp.slashes, ?_⟩
  intro name hname
  rcases List.mem_append.mp hname with hname | hname
  · exact hp.parts name hname
  · exact h name hname

/-! ## §2. Reading a path back. -/

/-- Slashes in front of a text hold no names. -/
theorem namesOf_replicate (k : Nat) (cs : Text) : namesOf (List.replicate k '/' ++ cs) = namesOf cs := by
  induction k with
  | zero => rfl
  | succ k ih =>
    rw [List.replicate_succ, List.cons_append, ← ih]
    unfold namesOf
    rw [Text.splitBy, if_pos (by rfl)]
    rfl

/-- Joined names are read back. -/
theorem namesOf_joinWith {names : List String} (h : ∀ name ∈ names, IsPart name) :
    namesOf (Text.joinWith ['/'] (names.map String.toList)) = names := by
  cases names with
  | nil => rfl
  | cons first rest =>
    have hcut : Text.splitBy (· == '/') (Text.joinWith ['/'] ((first :: rest).map String.toList))
        = (first :: rest).map String.toList := by
      refine Text.splitBy_joinWith (by rfl) (by simp) ?_
      intro piece hpiece c hc
      obtain ⟨name, hname, rfl⟩ := List.mem_map.mp hpiece
      exact beq_false_of_ne fun hslash => (h name hname).noSlash (hslash ▸ hc)
    have hkept : ((first :: rest).map String.toList).filter (fun n => !n.isEmpty && n != ['.'])
        = (first :: rest).map String.toList := by
      rw [List.filter_eq_self]
      intro piece hpiece
      obtain ⟨name, hname, rfl⟩ := List.mem_map.mp hpiece
      have hempty : name.toList ≠ [] := fun he => (h name hname).notEmpty (String.toList_inj.mp he)
      have hdot : name.toList ≠ ['.'] := fun he => (h name hname).notDot (String.toList_inj.mp he)
      simp [hempty, hdot]
    unfold namesOf
    rw [hcut, hkept, List.map_map]
    simp

/-- The slashes in front of joined names are those that stand there. -/
theorem takeWhile_slashes (k : Nat) {names : List String} (h : ∀ name ∈ names, IsPart name) :
    ((List.replicate k '/' ++ Text.joinWith ['/'] (names.map String.toList)).takeWhile (· == '/')).length
      = k := by
  have hnames : (Text.joinWith ['/'] (names.map String.toList)).takeWhile (· == '/') = [] := by
    cases names with
    | nil => rfl
    | cons first rest =>
      have hfirst := h first List.mem_cons_self
      cases hchars : first.toList with
      | nil => exact absurd (String.toList_inj.mp hchars) hfirst.notEmpty
      | cons c cs =>
        have hc : (c == '/') = false :=
          beq_false_of_ne fun hslash => hfirst.noSlash (by rw [hchars, hslash]; exact List.mem_cons_self)
        cases rest <;> simp [Text.joinWith, hchars, hc]
  rw [List.takeWhile_append_of_pos (by simp), hnames]
  simp

/-- **A normal path is read back from its text.** -/
theorem IsNormal.ofString_render {p : Path} (hp : p.IsNormal) : ofString p.render = p := by
  obtain ⟨slashes, parts⟩ := p
  by_cases hhere : slashes = 0 ∧ parts = []
  · -- the path without names is a dot, which is no name
    obtain ⟨rfl, rfl⟩ := hhere
    rfl
  · have htext : (Path.mk slashes parts).render.toList
        = List.replicate slashes '/' ++ Text.joinWith ['/'] (parts.map String.toList) := by
      unfold render
      rw [if_neg (by simpa using hhere), String.toList_append, String.toList_ofList, Text.toList_intercalate]
      rfl
    have hparts : ∀ name ∈ parts, IsPart name := hp.parts
    have hslashes : slashes ≤ 2 := hp.slashes
    have hcases : slashes = 0 ∨ slashes = 1 ∨ slashes = 2 := by omega
    unfold ofString
    rw [htext]
    simp only [takeWhile_slashes slashes hparts, namesOf_replicate, namesOf_joinWith hparts]
    rcases hcases with rfl | rfl | rfl <;> rfl

end DocLint.Path
