import DocLint.Proofs.Changelog.Write
import Mathlib.Data.List.Nodup
import Mathlib.Data.List.Perm.Basic

/-!
DocLint.Proofs.Changelog.Periods: under which releases a commit is told.

The period of a release goes from the release before it up to the release itself, and both ends belong to it. Each
commit is told under its home, the first release that is made at or after it. It is told once exactly if none of the
later releases has a period that reaches back to it: this happens where a period starts at the very time of the
commit, and where the release before has the tag `0`, which stands for no release at all (`commits_listed_once_iff`).
-/

namespace DocLint.Changelog

/-! ## §1. Hosts that answer for a set of commits. -/

/-- When a release was made. -/
def Release.time (r : Release) : Int :=
  r.created.instant

/-- When a commit was made. -/
def Commit.time (c : Commit) : Int :=
  c.date.instant

/-- Whether a commit lies in a period, both ends included; without a start the period goes back to the beginning. -/
def isWithin (since : Option Stamp) (till : Stamp) (c : Commit) : Bool :=
  since.all (fun s => s.instant ≤ c.time) && c.time ≤ till.instant

theorem isWithin_iff {since : Option Stamp} {till : Stamp} {c : Commit} :
    isWithin since till c = true ↔ (∀ s, since = some s → s.instant ≤ c.time) ∧ c.time ≤ till.instant := by
  unfold isWithin
  cases since with
  | none => simp
  | some s => simp

/-- The period of a release starts at the release before it, unless that one has the tag that stands for none. -/
theorem periodStart_cons_eq_some {q : Release} {others : List Release} {s : Stamp} :
    periodStart (q :: others) = some s ↔ q.tag ≠ "0" ∧ q.created = s := by
  unfold periodStart
  by_cases htag : q.tag = "0"
  · simp [htag]
  · simp [htag]

/-- A host answers for commits: each question gives those of the period, each of them once. Times can be compared. -/
structure Host.Serves (h : Host) (commits : List Commit) : Prop where
  /-- The commits are a set. -/
  nodup : commits.Nodup
  /-- An answer holds the commits of the period, in some order. -/
  answers : ∀ n since till, (h.commits n since till).Perm (commits.filter (isWithin since till))
  /-- The times of releases can be compared. -/
  releases : Comparable (·.created) h.releases
  /-- The times of commits can be compared. -/
  dates : Comparable (·.date) commits

theorem Host.Serves.answersComparable {h : Host} {commits : List Commit} (hserves : h.Serves commits) :
    h.AnswersComparable := by
  intro n since till
  obtain ⟨zoned, hzoned⟩ := hserves.dates
  refine ⟨zoned, fun c hc => hzoned c ?_⟩
  exact (List.mem_filter.mp ((hserves.answers n since till).mem_iff.mp hc)).1

/-- A commit of interest is told once in its period and not at all outside. -/
theorem Host.Serves.count_toldOf {h : Host} {commits : List Commit} (hserves : h.Serves commits) {c : Commit}
    (hc : c ∈ commits) (hrelevant : isRelevant c = true) (n : Nat) (since : Option Stamp) (till : Stamp) :
    (toldOf (h.commits n since till)).count c = if isWithin since till c then 1 else 0 := by
  have hcount : (toldOf (h.commits n since till)).count c = (commits.filter (isWithin since till)).count c := by
    unfold toldOf
    rw [List.count_filter hrelevant, (byTime_perm _ _).count_eq, (hserves.answers n since till).count_eq]
  rw [hcount]
  split
  · next hin =>
    rw [List.count_filter hin]
    exact List.count_eq_one_of_mem hserves.nodup hc
  · next hout =>
    rw [List.count_eq_zero]
    intro hmem
    exact hout (List.mem_filter.mp hmem).2

/-! ## §2. Where a commit is told. -/

/-- The releases under which a commit is told, each as often as it is told there. -/
def listings (bs : List Block) (c : Commit) : List Release :=
  bs.flatMap fun b => List.replicate (b.2.count c) b.1

/-- The home of a commit is the first release that is made at or after it. -/
structure IsHome (releases : List Release) (c : Commit) (home : Release) : Prop where
  /-- It is one of the releases. -/
  mem : home ∈ releases
  /-- It is not made before the commit. -/
  after : c.time ≤ home.time
  /-- No other release comes between. -/
  first : ∀ r ∈ releases, c.time ≤ r.time → home.time ≤ r.time

/-- Whether a release does not reach back to a commit through the release `q` before it. -/
def Shuts (q : Release) (c : Commit) : Prop :=
  q.tag ≠ "0" ∧ q.time ≠ c.time

variable {h : Host} {commits : List Commit} {c : Commit}

theorem listings_blocks_cons (hserves : h.Serves commits) (hc : c ∈ commits) (hrelevant : isRelevant c = true)
    (n : Nat) (r : Release) (before : List Release) :
    listings (blocks h n (r :: before)) c
      = (if isWithin (periodStart before) r.created c then [r] else [])
        ++ listings (blocks h (n + 1) before) c := by
  unfold listings
  rw [blocks, List.flatMap_cons, hserves.count_toldOf hc hrelevant]
  congr 1
  split <;> rfl

/-- A commit is not told under releases that are made before it. -/
theorem listings_of_late (hserves : h.Serves commits) (hc : c ∈ commits) (hrelevant : isRelevant c = true)
    {rs : List Release} (hlate : ∀ r ∈ rs, r.time < c.time) (n : Nat) : listings (blocks h n rs) c = [] := by
  induction rs generalizing n with
  | nil => rfl
  | cons r before ih =>
    obtain ⟨hr, hbefore⟩ := List.forall_mem_cons.mp hlate
    have hout : isWithin (periodStart before) r.created c = false := by
      rw [← Bool.not_eq_true, isWithin_iff]
      rintro ⟨-, hle⟩
      exact absurd hr (Int.not_lt.mpr hle)
    rw [listings_blocks_cons hserves hc hrelevant, hout, ih hbefore]
    rfl

/-- Whether the period of a release goes back to a commit that is not after the release `q` before it. -/
theorem isWithin_iff_of_le {q r : Release} {others : List Release} (hr : c.time ≤ r.time) (hq : c.time ≤ q.time) :
    isWithin (periodStart (q :: others)) r.created c = true ↔ ¬ Shuts q c := by
  rw [isWithin_iff]
  constructor
  · rintro ⟨hstart, -⟩ ⟨htag, hne⟩
    have hle : q.time ≤ c.time := hstart q.created (periodStart_cons_eq_some.mpr ⟨htag, rfl⟩)
    omega
  · intro hopen
    refine ⟨fun s hs => ?_, hr⟩
    obtain ⟨htag, rfl⟩ := periodStart_cons_eq_some.mp hs
    show q.time ≤ c.time
    by_contra hlt
    exact hopen ⟨htag, by omega⟩

/-- Where all releases before it are too early, the period of a release goes back to the commit. -/
theorem isWithin_of_late {r : Release} {before : List Release} (hr : c.time ≤ r.time)
    (hlate : ∀ q ∈ before, q.time < c.time) : isWithin (periodStart before) r.created c = true := by
  rw [isWithin_iff]
  refine ⟨fun s hs => ?_, hr⟩
  cases before with
  | nil => cases hs
  | cons q others =>
    obtain ⟨-, rfl⟩ := periodStart_cons_eq_some.mp hs
    exact Int.le_of_lt (hlate q List.mem_cons_self)

/-- **A commit is told at home**, and nowhere else exactly if no release that is not made before it lets a later one
reach back. The induction is on the releases from the latest on: a commit that is not later than the second one has
its home further on, and is told under the first one only by reaching back through the second. -/
theorem exists_home (hserves : h.Serves commits) (hc : c ∈ commits) (hrelevant : isRelevant c = true)
    {rs : List Release} (hdesc : rs.Pairwise fun a b => b.time < a.time) (hsome : ∃ r ∈ rs, c.time ≤ r.time) (n : Nat) :
    ∃ home, IsHome rs c home ∧ home ∈ listings (blocks h n rs) c ∧
      (listings (blocks h n rs) c = [home] ↔ ∀ q ∈ rs.tail, c.time ≤ q.time → Shuts q c) := by
  induction rs generalizing n with
  | nil =>
    obtain ⟨r, hr, -⟩ := hsome
    cases hr
  | cons r before ih =>
    obtain ⟨hnewer, hdesc'⟩ := List.pairwise_cons.mp hdesc
    rw [listings_blocks_cons hserves hc hrelevant, List.tail_cons]
    by_cases hearlier : ∃ q ∈ before, c.time ≤ q.time
    · obtain ⟨home, hhome, hmem, hiff⟩ := ih hdesc' hearlier (n + 1)
      have hhome' : IsHome (r :: before) c home := by
        refine ⟨List.mem_cons_of_mem r hhome.mem, hhome.after, fun q hq hle => ?_⟩
        rcases List.mem_cons.mp hq with rfl | hq
        · exact Int.le_of_lt (hnewer home hhome.mem)
        · exact hhome.first q hq hle
      refine ⟨home, hhome', List.mem_append_right _ hmem, ?_⟩
      cases before with
      | nil =>
        obtain ⟨q, hq, -⟩ := hearlier
        cases hq
      | cons p others =>
        -- the second release is the latest of those behind the first
        have hp : c.time ≤ p.time := by
          obtain ⟨q, hq, hle⟩ := hearlier
          rcases List.mem_cons.mp hq with rfl | hq
          · exact hle
          · have hlt := (List.pairwise_cons.mp hdesc').1 q hq
            omega
        have hr : c.time ≤ r.time := by
          have hlt := hnewer p List.mem_cons_self
          omega
        by_cases hshuts : Shuts p c
        · have hout : ¬ isWithin (periodStart (p :: others)) r.created c = true :=
            fun hin => (isWithin_iff_of_le hr hp).mp hin hshuts
          rw [if_neg hout, List.nil_append, hiff, List.tail_cons, List.forall_mem_cons]
          exact ⟨fun hrest => ⟨fun _ => hshuts, hrest⟩, fun hall => hall.2⟩
        · rw [if_pos ((isWithin_iff_of_le hr hp).mpr hshuts)]
          constructor
          · intro hone
            -- told under the first release and at home, so at least twice
            have hlen := congrArg List.length hone
            have hpos := List.length_pos_of_mem hmem
            simp only [List.length_append, List.length_singleton] at hlen
            omega
          · intro hall
            exact absurd (hall p List.mem_cons_self hp) hshuts
    · have hlate : ∀ q ∈ before, q.time < c.time := by
        intro q hq
        by_contra hle
        exact hearlier ⟨q, hq, by omega⟩
      have hr : c.time ≤ r.time := by
        obtain ⟨q, hq, hle⟩ := hsome
        rcases List.mem_cons.mp hq with rfl | hq
        · exact hle
        · have hlt := hlate q hq
          omega
      rw [if_pos (isWithin_of_late hr hlate), listings_of_late hserves hc hrelevant hlate, List.append_nil]
      refine ⟨r, ⟨List.mem_cons_self, hr, fun q hq hle => ?_⟩, List.mem_singleton_self r, ?_⟩
      · rcases List.mem_cons.mp hq with rfl | hq
        · exact Int.le_refl _
        · have hlt := hlate q hq
          omega
      · refine ⟨fun _ q hq hle => ?_, fun _ => rfl⟩
        have hlt := hlate q hq
        omega

/-! ## §3. The whole changelog. -/

theorem map_fst_blocks (h : Host) (n : Nat) (rs : List Release) : (blocks h n rs).map (·.1) = rs := by
  induction rs generalizing n with
  | nil => rfl
  | cons r before ih => rw [blocks, List.map_cons, ih]

/-- Releases with different times stand strictly by time. -/
theorem descends_byTime {rs : List Release} (hdistinct : rs.Pairwise fun a b => a.time ≠ b.time) :
    (byTime (·.created) rs).Pairwise fun a b => b.time < a.time := by
  have hsorted : (byTime (·.created) rs).Pairwise fun a b => b.time ≤ a.time := pairwise_byTime _ rs
  have hne : (byTime (·.created) rs).Pairwise fun a b => a.time ≠ b.time :=
    ((byTime_perm _ rs).pairwise_iff fun hab => hab.symm).mpr hdistinct
  refine (hsorted.and hne).imp ?_
  intro a b hab
  omega

/-- Behind the first of releases that stand by time are those that are not the latest. -/
theorem mem_tail_iff {rs : List Release} (hdesc : rs.Pairwise fun a b => b.time < a.time) {q : Release} :
    q ∈ rs.tail ↔ q ∈ rs ∧ ∃ r ∈ rs, q.time < r.time := by
  cases rs with
  | nil => simp
  | cons newest others =>
    obtain ⟨hnewest, -⟩ := List.pairwise_cons.mp hdesc
    rw [List.tail_cons]
    constructor
    · intro hq
      exact ⟨List.mem_cons_of_mem _ hq, newest, List.mem_cons_self, hnewest q hq⟩
    · rintro ⟨hq, r, hr, hlt⟩
      rcases List.mem_cons.mp hq with rfl | hq
      · rcases List.mem_cons.mp hr with rfl | hr
        · omega
        · have hlt' := hnewest r hr
          omega
      · exact hq

/-- The changelog is written to its end exactly if every release has notes. Each commit of interest that is not
later than the latest release is told under its home. It is told there only, and once, exactly if no release but the
latest, among those not made before the commit, has the tag `0` or the time of the commit. -/
theorem commits_listed_once_iff {h : Host} {commits : List Commit} (hserves : h.Serves commits)
    (hdistinct : h.releases.Pairwise fun a b => a.time ≠ b.time) (name : String) :
    ((writeAll h name).outcome.1 = none ↔ ∀ r ∈ h.releases, r.body.isSome = true) ∧
      ((∀ r ∈ h.releases, r.body.isSome = true) → ∃ bs : List Block,
        (bs.map (·.1)).Perm h.releases ∧
        (writeAll h name).outcome.2.file = some (heading h.repository ++ styling ++
          String.join (bs.map (Block.text h.repository))) ∧
        ∀ c ∈ commits, isRelevant c = true → (∃ r ∈ h.releases, c.time ≤ r.time) →
          ∃ home, IsHome h.releases c home ∧ home ∈ listings bs c ∧
            (listings bs c = [home] ↔ ∀ q ∈ h.releases, (∃ r ∈ h.releases, q.time < r.time) →
              c.time ≤ q.time → q.tag ≠ "0" ∧ q.time ≠ c.time)) := by
  have hanswers := hserves.answersComparable
  have hmem : ∀ q, q ∈ byTime (·.created) h.releases ↔ q ∈ h.releases :=
    fun q => (byTime_perm _ h.releases).mem_iff
  constructor
  · constructor
    · intro hend r hr
      by_contra hnone
      exact writeAll_of_unnoted hserves.releases hanswers ⟨r, hr, by simpa using hnone⟩ name hend
    · intro hnotes
      exact (writeAll_of_noted hserves.releases hanswers hnotes name).1
  · intro hnotes
    refine ⟨blocks h 0 (byTime (·.created) h.releases), ?_,
      (writeAll_of_noted hserves.releases hanswers hnotes name).2, fun c hc hrelevant hsome => ?_⟩
    · rw [map_fst_blocks]
      exact byTime_perm _ h.releases
    · have hdesc := descends_byTime hdistinct
      have hsome' : ∃ r ∈ byTime (·.created) h.releases, c.time ≤ r.time := by
        obtain ⟨r, hr, hle⟩ := hsome
        exact ⟨r, (hmem r).mpr hr, hle⟩
      obtain ⟨home, hhome, hlisted, hiff⟩ := exists_home hserves hc hrelevant hdesc hsome' 0
      refine ⟨home, ⟨(hmem home).mp hhome.mem, hhome.after, fun r hr => hhome.first r ((hmem r).mpr hr)⟩,
        hlisted, hiff.trans ?_⟩
      simp only [mem_tail_iff hdesc, hmem, and_imp, Shuts]

/-- Midnight of a day of 2024. -/
def midnight (month day : Nat) : Stamp :=
  { day := ⟨2024, month, day⟩, clock := ⟨0, 0, 0, 0⟩, offset := some 0 }

/-- A release with a tag. -/
def releaseAt (tag : String) (created : Stamp) : Release :=
  { tag, name := some tag, created, page := "https://h/o/r/" ++ tag, body := some "Notes." }

/-- A commit with a message. -/
def commitAt (sha message : String) (date : Stamp) : Commit :=
  { sha, page := "https://h/o/r/" ++ sha, message, date, author := none }

/-- The first release. -/
def firstRelease : Release := releaseAt "v1" (midnight 1 1)

/-- The second release. -/
def secondRelease : Release := releaseAt "v2" (midnight 2 1)

/-- A commit that is made at the time of the first release. -/
def boundaryCommit : Commit := commitAt "aaaaaaa" "Add checks" (midnight 1 1)

/-- A commit between the two releases. -/
def middleCommit : Commit := commitAt "bbbbbbb" "Add tests" (midnight 1 15)

/-- A host with two releases and two commits. -/
def boundaryHost : Host :=
  { repository := { fullName := "o/r", page := "https://h/o/r", api := "https://api/o/r" }
    releases := [secondRelease, firstRelease]
    commits := fun _ since till => [boundaryCommit, middleCommit].filter (isWithin since till) }

theorem serves_boundaryHost : boundaryHost.Serves [boundaryCommit, middleCommit] where
  nodup := by decide
  answers := fun _ _ _ => List.Perm.refl _
  releases := ⟨true, by simp [boundaryHost, secondRelease, firstRelease, releaseAt, midnight]⟩
  dates := ⟨true, by simp [boundaryCommit, middleCommit, commitAt, midnight]⟩

theorem distinct_boundaryHost : boundaryHost.releases.Pairwise fun a b => a.time ≠ b.time := by
  decide

theorem noted_boundaryHost : ∀ r ∈ boundaryHost.releases, r.body.isSome = true := by
  decide

/-- A commit between two releases is told under the second one only. -/
theorem commits_listed_once_iff_middle :
    boundaryHost.Serves [boundaryCommit, middleCommit] ∧
      boundaryHost.releases.Pairwise (fun a b => a.time ≠ b.time) ∧
      (writeAll boundaryHost "o/r").outcome.1 = none ∧
      ∃ bs : List Block, (writeAll boundaryHost "o/r").outcome.2.file = some
        (heading boundaryHost.repository ++ styling ++
          String.join (bs.map (Block.text boundaryHost.repository))) ∧
        listings bs middleCommit = [secondRelease] := by
  obtain ⟨hend, hfile⟩ := commits_listed_once_iff serves_boundaryHost distinct_boundaryHost "o/r"
  obtain ⟨bs, -, htext, htold⟩ := hfile noted_boundaryHost
  refine ⟨serves_boundaryHost, distinct_boundaryHost, hend.mpr noted_boundaryHost, bs, htext, ?_⟩
  obtain ⟨home, hhome, -, honce⟩ := htold middleCommit (by decide) (by decide) ⟨secondRelease, by decide, by decide⟩
  have heq : home = secondRelease := by
    have hmem : home = secondRelease ∨ home = firstRelease := by simpa [boundaryHost] using hhome.mem
    rcases hmem with rfl | rfl
    · rfl
    · exact absurd hhome.after (by decide)
  subst heq
  exact honce.mpr (by decide)

/-- A commit that is made at the time of a release is told under it and under the next one. -/
theorem boundary_commit_listed_twice :
    ∃ bs : List Block, (writeAll boundaryHost "o/r").outcome.2.file = some
      (heading boundaryHost.repository ++ styling ++
        String.join (bs.map (Block.text boundaryHost.repository))) ∧
      listings bs boundaryCommit = [secondRelease, firstRelease] := by
  have hsorted : byTime (·.created) boundaryHost.releases = [secondRelease, firstRelease] :=
    List.mergeSort_of_pairwise (by decide)
  have htext := (writeAll_of_noted serves_boundaryHost.releases serves_boundaryHost.answersComparable
    noted_boundaryHost "o/r").2
  rw [hsorted] at htext
  refine ⟨_, htext, ?_⟩
  have hmem : boundaryCommit ∈ [boundaryCommit, middleCommit] := List.mem_cons_self
  rw [listings_blocks_cons serves_boundaryHost hmem (by decide),
    listings_blocks_cons serves_boundaryHost hmem (by decide)]
  decide

end DocLint.Changelog
