import DocLint.Changelog.Write
import Mathlib.Data.List.Basic

/-!
DocLint.Proofs.Changelog.Write: what a changelog consists of.

The changelog is written piece by piece. A run that comes to its end has written the heading, the styling and one
block for each release, from the latest to the first (`writeAll_of_noted`); a release without notes ends the run
before its commits are written (`writeAll_of_unnoted`).
-/

namespace DocLint.Changelog

/-! ## §1. Running a writer. -/

/-- What a writer gives, and what has happened then. -/
def Writer.exec {α : Type} (w : Writer α) (p : Progress) : Except Failure α × Progress :=
  (w.run).run p

theorem exec_bind {α β : Type} (w : Writer α) (f : α → Writer β) (p : Progress) :
    (w >>= f).exec p = match w.exec p with
      | (.ok a, q) => (f a).exec q
      | (.error e, q) => (.error e, q) := by
  unfold Writer.exec
  rw [ExceptT.run_bind, StateT.run_bind]
  cases (w.run).run p with
  | mk a q => cases a <;> rfl

theorem exec_put (text : String) (p : Progress) :
    (Writer.put text).exec p = (.ok (), { p with file := some (p.file.getD "" ++ text) }) := rfl

theorem exec_ask (c : Call) (p : Progress) :
    (Writer.ask c).exec p = (.ok (), { p with calls := p.calls ++ [c] }) := rfl

theorem exec_orFault_ok {α : Type} (a : α) (p : Progress) :
    (Writer.orFault (.ok a)).exec p = (.ok a, p) := rfl

theorem exec_orFault_error {α : Type} (f : Fault) (p : Progress) :
    (Writer.orFault (α := α) (.error f)).exec p = (.error (.fault f), p) := rfl

/-! ## §2. Sorting by time. -/

/-- Whether times can be compared: all of them have an offset, or none has. -/
def Comparable {α : Type} (time : α → Stamp) (xs : List α) : Prop :=
  ∃ zoned : Bool, ∀ x ∈ xs, (time x).offset.isSome = zoned

/-- The latest first; equal ones keep their order. -/
def byTime {α : Type} (time : α → Stamp) (xs : List α) : List α :=
  xs.mergeSort fun a b => (time b).instant ≤ (time a).instant

theorem newestFirst_eq_ok {α : Type} {time : α → Stamp} {xs : List α} (h : Comparable time xs) :
    newestFirst time xs = .ok (byTime time xs) := by
  obtain ⟨zoned, hzoned⟩ := h
  unfold newestFirst
  refine if_neg ?_
  rw [Bool.and_eq_true, List.any_eq_true, List.any_eq_true]
  -- one time with an offset and one without do not agree
  rintro ⟨⟨x, hx, hsome⟩, y, hy, hnone⟩
  rw [hzoned x hx] at hsome
  rw [← Option.not_isSome, hzoned y hy, hsome] at hnone
  cases hnone

theorem pairwise_byTime {α : Type} (time : α → Stamp) (xs : List α) :
    (byTime time xs).Pairwise fun a b => (time b).instant ≤ (time a).instant := by
  refine (List.pairwise_mergeSort ?_ ?_ xs).imp (by simp)
  · intro a b c hab hbc
    simp only [decide_eq_true_eq] at hab hbc ⊢
    omega
  · intro a b
    simp only [Bool.or_eq_true, decide_eq_true_eq]
    omega

theorem byTime_perm {α : Type} (time : α → Stamp) (xs : List α) : (byTime time xs).Perm xs :=
  List.mergeSort_perm xs _

/-! ## §3. Blocks. -/

/-- The commits that are told of those that the host gives. -/
def toldOf (cs : List Commit) : List Commit :=
  (byTime (·.date) cs).filter isRelevant

theorem toldCommits_eq_ok {cs : List Commit} (h : Comparable (·.date) cs) :
    toldCommits cs = .ok (toldOf cs) := by
  unfold toldCommits
  rw [newestFirst_eq_ok h]
  rfl

/-- A release with the commits that are told under it. -/
abbrev Block := Release × List Commit

/-- The text of a block. -/
def Block.text (repository : Repository) (b : Block) : String :=
  releaseHead repository b.1 ++ releaseNotes (b.1.body.getD "") ++ updatesHead ++
    String.join (b.2.map commitEntry) ++ "\n\n"

/-- The blocks of releases, the latest first; `n` have been written before. -/
def blocks (h : Host) (n : Nat) : List Release → List Block
  | [] => []
  | r :: before => (r, toldOf (h.commits n (periodStart before) r.created)) :: blocks h (n + 1) before

/-- Whether the commits of every answer can be compared. -/
def Host.AnswersComparable (h : Host) : Prop :=
  ∀ n since till, Comparable (·.date) (h.commits n since till)

/-- One step of the run: the block of a release with notes is appended to the file. -/
theorem exec_writeReleases_cons {h : Host} (hanswers : h.AnswersComparable) {r : Release}
    (hnotes : r.body.isSome = true) (n : Nat) (before : List Release) {p : Progress} {text : String}
    (hfile : p.file = some text) :
    ∃ q, (writeReleases h n (r :: before)).exec p = (writeReleases h (n + 1) before).exec q ∧
      q.file = some (text ++ Block.text h.repository
        (r, toldOf (h.commits n (periodStart before) r.created))) := by
  obtain ⟨body, hbody⟩ := Option.isSome_iff_exists.mp hnotes
  have hnotesOf : notesOf r = .ok (releaseNotes body) := by
    unfold notesOf
    rw [hbody]
  rw [writeReleases]
  simp only [exec_bind, exec_put, hnotesOf, exec_orFault_ok, exec_ask, toldCommits_eq_ok (hanswers _ _ _), hfile,
    Option.getD_some]
  refine ⟨_, rfl, ?_⟩
  simp only [Block.text, hbody, Option.getD_some, String.append_assoc]

/-- A release without notes ends the run. -/
theorem exec_writeReleases_unnoted {h : Host} {r : Release} (hnone : r.body.isSome = false) (n : Nat)
    (before : List Release) (p : Progress) :
    ∃ e q, (writeReleases h n (r :: before)).exec p = (.error e, q) := by
  have hnotesOf : notesOf r = .error (.noAttribute "NoneType" "replace") := by
    unfold notesOf
    rw [Option.isSome_eq_false_iff, Option.isNone_iff_eq_none] at hnone
    rw [hnone]
  rw [writeReleases]
  simp only [exec_bind, exec_put, hnotesOf, exec_orFault_error]
  exact ⟨_, _, rfl⟩

/-- **The whole run** appends the blocks of all releases. -/
theorem exec_writeReleases {h : Host} (hanswers : h.AnswersComparable) {rs : List Release}
    (hnotes : ∀ r ∈ rs, r.body.isSome = true) (n : Nat) {p : Progress} {text : String}
    (hfile : p.file = some text) :
    ∃ q, (writeReleases h n rs).exec p = (.ok (), q) ∧
      q.file = some (text ++ String.join ((blocks h n rs).map (Block.text h.repository))) := by
  induction rs generalizing n p text with
  | nil => exact ⟨p, rfl, by rw [hfile]; simp [blocks]⟩
  | cons r before ih =>
    obtain ⟨hr, hbefore⟩ := List.forall_mem_cons.mp hnotes
    obtain ⟨p', hstep, hfile'⟩ := exec_writeReleases_cons hanswers hr n before hfile
    obtain ⟨q, hrun, hq⟩ := ih hbefore (n + 1) hfile'
    refine ⟨q, hstep.trans hrun, ?_⟩
    rw [hq, blocks, List.map_cons, String.join_cons, String.append_assoc]

theorem exec_writeReleases_of_unnoted {h : Host} (hanswers : h.AnswersComparable) {rs : List Release}
    (hnone : ∃ r ∈ rs, r.body.isSome = false) (n : Nat) {p : Progress} {text : String}
    (hfile : p.file = some text) : ∃ e q, (writeReleases h n rs).exec p = (.error e, q) := by
  induction rs generalizing n p text with
  | nil =>
    obtain ⟨r, hr, -⟩ := hnone
    cases hr
  | cons r before ih =>
    cases hr : r.body.isSome with
    | false => exact exec_writeReleases_unnoted hr n before p
    | true =>
      obtain ⟨p', hstep, hfile'⟩ := exec_writeReleases_cons hanswers hr n before hfile
      have hlater : ∃ q ∈ before, q.body.isSome = false := by
        obtain ⟨q, hq, hqnone⟩ := hnone
        rcases List.mem_cons.mp hq with rfl | hq
        · rw [hr] at hqnone
          cases hqnone
        · exact ⟨q, hq, hqnone⟩
      obtain ⟨e, q, hrun⟩ := ih hlater (n + 1) hfile'
      exact ⟨e, q, hstep.trans hrun⟩

/-! ## §4. The changelog. -/

theorem outcome_eq (w : Writer Unit) :
    w.outcome = match w.exec {} with
      | (.ok _, p) => (none, p)
      | (.error f, p) => (some f, p) := rfl

/-- What stands in the file before the first block. -/
def opening (h : Host) : String :=
  heading h.repository ++ styling

/-- The run comes to the releases with the opening written. -/
theorem exec_writeAll {h : Host} (hreleases : Comparable (·.created) h.releases) (name : String) :
    ∃ p, p.file = some (opening h) ∧
      (writeAll h name).exec {} = (writeReleases h 0 (byTime (·.created) h.releases) >>= fun _ =>
        Writer.command ("blacken-docs " ++ fileName)).exec p := by
  unfold writeAll
  simp only [exec_bind, exec_put, exec_ask, newestFirst_eq_ok hreleases, exec_orFault_ok]
  refine ⟨_, ?_, rfl⟩
  simp [opening]

/-- **A changelog that is written to its end** is the opening and the blocks of the releases, by time. -/
theorem writeAll_of_noted {h : Host} (hreleases : Comparable (·.created) h.releases)
    (hanswers : h.AnswersComparable) (hnotes : ∀ r ∈ h.releases, r.body.isSome = true) (name : String) :
    (writeAll h name).outcome.1 = none ∧
      (writeAll h name).outcome.2.file = some (opening h ++ String.join
        ((blocks h 0 (byTime (·.created) h.releases)).map (Block.text h.repository))) := by
  obtain ⟨p, hp, hall⟩ := exec_writeAll hreleases name
  have hsorted : ∀ r ∈ byTime (·.created) h.releases, r.body.isSome = true := by
    intro r hr
    exact hnotes r ((byTime_perm _ _).mem_iff.mp hr)
  obtain ⟨q, hrun, hq⟩ := exec_writeReleases hanswers hsorted 0 hp
  rw [exec_bind, hrun] at hall
  rw [outcome_eq, hall]
  exact ⟨rfl, hq⟩

theorem writeAll_of_unnoted {h : Host} (hreleases : Comparable (·.created) h.releases)
    (hanswers : h.AnswersComparable) (hnone : ∃ r ∈ h.releases, r.body.isSome = false) (name : String) :
    (writeAll h name).outcome.1 ≠ none := by
  obtain ⟨p, hp, hall⟩ := exec_writeAll hreleases name
  have hsorted : ∃ r ∈ byTime (·.created) h.releases, r.body.isSome = false := by
    obtain ⟨r, hr, hrnone⟩ := hnone
    exact ⟨r, (byTime_perm _ _).mem_iff.mpr hr, hrnone⟩
  obtain ⟨e, q, hrun⟩ := exec_writeReleases_of_unnoted hanswers hsorted 0 hp
  rw [exec_bind, hrun] at hall
  rw [outcome_eq, hall]
  exact Option.some_ne_none e

end DocLint.Changelog
