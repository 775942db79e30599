import DocLint.Proofs.Tasks.Action
import DocLint.Proofs.Text.Basic

/-!
DocLint.Proofs.Tasks.Formatting: how often documents are formatted, and with which verdict.

An attempt halts where a file cannot be parsed, settles the documents if it has nothing left to change, and otherwise
rewrites some of them, so that another attempt follows. Of each run the last attempt is known (`IsLast`), and its result
alone decides how the run ends (`exec_formatFrom`). Main statement: `formatting_ends_with_verdict`.
-/

namespace DocLint.Tasks

/-! ## §1. What a result says. -/

/-- The program could not parse a file: its exit code is 2, or what it prints, in lower case, says so. -/
def Halts (r : ProcessResult) : Prop :=
  r.code = 2 ∨ "cannot parse".toList <:+: Text.lower (r.out ++ r.err).toList ∨
    "parse error".toList <:+: Text.lower (r.out ++ r.err).toList

theorem isParseFailure_iff {r : ProcessResult} : isParseFailure r = true ↔ Halts r := by
  unfold isParseFailure Halts
  rw [Bool.or_eq_true, Bool.or_eq_true, beq_iff_eq, Text.contains_iff, Text.contains_iff, or_assoc]

/-- The program has rewritten files, and is to be run again. -/
def Rewrites (r : ProcessResult) : Prop :=
  r.code ≠ 0 ∧ ¬Halts r

/-- The program has found nothing to change. -/
def Settles (r : ProcessResult) : Prop :=
  r.code = 0 ∧ ¬Halts r

theorem halts_or_settles_of_not_rewrites {r : ProcessResult} (h : ¬Rewrites r) : Halts r ∨ Settles r := by
  by_cases hhalts : Halts r
  · exact .inl hhalts
  · have hcode : r.code = 0 := by
      by_contra hcode
      exact h ⟨hcode, hhalts⟩
    exact .inr ⟨hcode, hhalts⟩

/-- The result of the attempt with a number, which counts from one; without one left a program ends well. -/
def resultOf (results : List ProcessResult) (k : Nat) : ProcessResult :=
  results.getD (k - 1) {}

theorem resultOf_one (results : List ProcessResult) : resultOf results 1 = results.headD {} := by
  cases results <;> rfl

theorem resultOf_tail (results : List ProcessResult) {k : Nat} (hk : 1 ≤ k) :
    resultOf results.tail k = resultOf results (k + 1) := by
  obtain ⟨j, rfl⟩ := Nat.exists_eq_add_of_le' hk
  cases results <;> rfl

/-! ## §2. The last attempt of a run. -/

/-- An attempt of at most `most` that is made, since all the earlier ones have rewritten files. -/
structure IsMade (r : Nat → ProcessResult) (most n : Nat) : Prop where
  /-- Attempts count from one. -/
  first_le : 1 ≤ n
  /-- There are not too many of them. -/
  le_most : n ≤ most
  /-- Each earlier attempt rewrites files. -/
  earlier : ∀ j, 1 ≤ j → j < n → Rewrites (r j)

/-- The last attempt that is made: it rewrites nothing, or no other is allowed. -/
structure IsLast (r : Nat → ProcessResult) (most n : Nat) : Prop extends IsMade r most n where
  /-- No attempt follows. -/
  stops : ¬Rewrites (r n) ∨ n = most

/-- How a run ends whose last program has the result `r`. -/
def verdict (command : List String) (r : ProcessResult) : Except Failure Unit :=
  if isParseFailure r || r.code != 0 then .error (.process command r.code) else .ok ()

theorem verdict_of_settles {r : ProcessResult} (command : List String) (h : Settles r) : verdict command r = .ok () := by
  have hparse : isParseFailure r = false := by
    rw [← Bool.not_eq_true, isParseFailure_iff]
    exact h.2
  simp [verdict, hparse, h.1]

theorem verdict_of_not_settles {r : ProcessResult} (command : List String) (h : ¬Settles r) :
    verdict command r = .error (.process command r.code) := by
  unfold verdict
  rw [if_pos]
  rw [Bool.or_eq_true, isParseFailure_iff, bne_iff_ne]
  by_contra hneither
  rw [not_or, not_not] at hneither
  exact h ⟨hneither.2, hneither.1⟩

/-- **One attempt** starts the command once. It asks for another one if its result is that files were rewritten, and
otherwise ends the run with the verdict of its result. -/
theorem exec_formatOnce (command : List String) (attempt : Nat) (l : Log) :
    ∃ l', l'.commands = l.commands ++ [command] ∧ l'.results = l.results.tail ∧
      (Rewrites (resultOf l.results 1) ∧
          (formatOnce command attempt).exec l = (.ok (some (resultOf l.results 1).code), l') ∨
        ¬Rewrites (resultOf l.results 1) ∧
          (formatOnce command attempt).exec l = ((verdict command (resultOf l.results 1)).map fun _ => none, l')) := by
  rw [resultOf_one]
  unfold formatOnce Rewrites verdict
  rw [← isParseFailure_iff]
  simp only [exec_bind, exec_say, exec_start, exec_complain, exec_ite]
  by_cases hparse : isParseFailure (l.results.headD {}) = true
  · simp only [hparse, if_true]
    exact ⟨_, rfl, rfl, .inr ⟨fun h => h.2 trivial, rfl⟩⟩
  · by_cases hcode : (l.results.headD {}).code = 0
    · simp only [hparse, hcode, beq_self_eq_true, if_true]
      -- an attempt after the first also prints how many it took
      by_cases hagain : attempt > 1
      · simp only [hagain, if_true]
        exact ⟨_, rfl, rfl, .inr ⟨fun h => h.1 rfl, rfl⟩⟩
      · simp only [hagain, if_false]
        exact ⟨_, rfl, rfl, .inr ⟨fun h => h.1 rfl, rfl⟩⟩
    · simp only [hparse, beq_eq_false_iff_ne.mpr hcode]
      exact ⟨_, rfl, rfl, .inl ⟨⟨hcode, fun h => nomatch h⟩, rfl⟩⟩

theorem isLast_one {r : Nat → ProcessResult} {most : Nat} (hmost : 1 ≤ most) (h : ¬Rewrites (r 1) ∨ 1 = most) :
    IsLast r most 1 where
  first_le := Nat.le_refl 1
  le_most := hmost
  earlier := fun j hj hlt => absurd hlt (by omega)
  stops := h

/-- **An attempt that rewrites files is followed by a run of the others**, and its last attempt is the same. -/
theorem IsLast.succ {results : List ProcessResult} {most n : Nat} (hfirst : Rewrites (resultOf results 1))
    (h : IsLast (resultOf results.tail) most n) : IsLast (resultOf results) (most + 1) (n + 1) where
  first_le := by omega
  le_most := Nat.succ_le_succ h.le_most
  earlier := by
    intro j hj hlt
    obtain ⟨i, rfl⟩ := Nat.exists_eq_add_of_le' hj
    -- the first attempt is the new one, any other is the one before it of the run that follows
    cases i with
    | zero => exact hfirst
    | succ i =>
      have hearlier := h.earlier (i + 1) (by omega) (by omega)
      rwa [resultOf_tail results (by omega)] at hearlier
  stops := by
    have hstops := h.stops
    rw [resultOf_tail results h.first_le] at hstops
    exact hstops.imp_right fun hmost => by rw [hmost]

/-- **A run starts its command as often as it makes attempts**, and the result of the last one is its verdict. -/
theorem exec_formatFrom (command : List String) (attempt left : Nat) (l : Log) :
    ∃ n l', IsLast (resultOf l.results) (left + 1) n ∧ l'.commands = l.commands ++ List.replicate n command ∧
      (formatFrom command attempt left).exec l = (verdict command (resultOf l.results n), l') := by
  -- on the attempts that are left: each one uses up a result, so the run that follows reads the tail of the results
  induction left generalizing attempt l with
  | zero =>
    obtain ⟨l', hcommands, -, ⟨hrewrites, hexec⟩ | ⟨-, hexec⟩⟩ := exec_formatOnce command attempt l
    · have hverdict := verdict_of_not_settles command fun h : Settles (resultOf l.results 1) => hrewrites.1 h.1
      rw [formatFrom, exec_bind, hexec]
      simp only [exec_bind, exec_complain, exec_throw]
      refine ⟨1, _, isLast_one (Nat.le_refl 1) (.inr rfl), ?_, congrArg (Prod.mk · _) hverdict.symm⟩
      exact hcommands
    · refine ⟨1, l', isLast_one (Nat.le_refl 1) (.inr rfl), hcommands, ?_⟩
      rw [formatFrom, exec_bind, hexec]
      cases verdict command (resultOf l.results 1) <;> rfl
  | succ left ih =>
    obtain ⟨l', hcommands, hresults, ⟨hrewrites, hexec⟩ | ⟨hends, hexec⟩⟩ := exec_formatOnce command attempt l
    · rw [formatFrom, exec_bind, hexec]
      simp only [exec_bind, exec_say]
      obtain ⟨n, l'', hlast, hmore, hrest⟩ := ih (attempt + 1) { l' with out := l'.out ++ _ }
      refine ⟨n + 1, l'', ?_, ?_, ?_⟩
      · apply IsLast.succ hrewrites
        rwa [← hresults]
      · rw [hmore, hcommands, List.append_assoc]
        rfl
      · rw [hrest, hresults, resultOf_tail _ hlast.first_le]
    · refine ⟨1, l', isLast_one (by omega) (.inl hends), hcommands, ?_⟩
      rw [formatFrom, exec_bind, hexec]
      cases verdict command (resultOf l.results 1) <;> rfl

/-! ## §3. Which attempt settles the documents. -/

/-- An attempt that is made and settles the documents. -/
structure SettlesAt (r : Nat → ProcessResult) (most k : Nat) : Prop extends IsMade r most k where
  /-- It finds nothing to change. -/
  settles : Settles (r k)

/-- An attempt that settles the documents is the last one. -/
theorem IsLast.eq_of_settlesAt {r : Nat → ProcessResult} {most n k : Nat} (h : IsLast r most n)
    (hk : SettlesAt r most k) : n = k := by
  rcases Nat.lt_trichotomy n k with hlt | heq | hgt
  · -- the last attempt would rewrite files and yet have another one behind it
    have hrewrites := hk.earlier n h.first_le hlt
    have hle := hk.le_most
    rcases h.stops with hstops | hmost
    · exact absurd hrewrites hstops
    · omega
  · exact heq
  · -- an earlier attempt has an exit code other than 0
    exact absurd hk.settles.1 (h.earlier k hk.first_le hgt).1

theorem IsLast.settles_iff {r : Nat → ProcessResult} {most n : Nat} (h : IsLast r most n) :
    Settles (r n) ↔ ∃ k, SettlesAt r most k := by
  constructor
  · intro hsettles
    exact ⟨n, h.toIsMade, hsettles⟩
  · rintro ⟨k, hk⟩
    rw [h.eq_of_settlesAt hk]
    exact hk.settles

/-- If no attempt settles the documents, the last one is the first that halts, or no other is allowed. -/
theorem IsLast.halts_or_eq {r : Nat → ProcessResult} {most n : Nat} (h : IsLast r most n) (hsettles : ¬Settles (r n)) :
    (∀ j, 1 ≤ j → j < n → ¬Halts (r j)) ∧ (Halts (r n) ∨ n = most) := by
  refine ⟨fun j hj hlt => (h.earlier j hj hlt).2, ?_⟩
  rcases h.stops with hstops | hmost
  · exact .inl ((halts_or_settles_of_not_rewrites hstops).resolve_right hsettles)
  · exact .inr hmost

/-- The task that formats documents is a run of three attempts. -/
theorem exec_formatTask (s : Setting) (results : List ProcessResult) :
    ∃ n log, IsLast (resultOf results) 3 n ∧ log.commands = List.replicate n ("blacken-docs" :: s.select documents) ∧
      (runNamed s "run_blacken_docs").exec { results }
        = (verdict ("blacken-docs" :: s.select documents) (resultOf results n), log) := by
  have hlookup : catalog.lookup "run_blacken_docs" = some (.steps [.formatDocuments]) := rfl
  obtain ⟨n, log, hlast, hcommands, hexec⟩ :=
    exec_formatFrom ("blacken-docs" :: s.select documents) 1 (maxAttempts - 1) { results }
  exact ⟨n, log, hlast, hcommands, (exec_runNamed hlookup { results }).trans hexec⟩

/-- Formatting documents starts its program at most three times, always with the same command. It ends well exactly if
one of three attempts settles the documents after others that rewrite some, and that attempt is then the last one.
Otherwise the last attempt is the first one that halts, or else the third, and its exit code is that of the failure. -/
theorem formatting_ends_with_verdict (s : Setting) (results : List ProcessResult) :
    ∃ n, 1 ≤ n ∧ n ≤ 3 ∧
      ((runNamed s "run_blacken_docs").outcome results).2.commands
        = List.replicate n ("blacken-docs" :: s.select documents) ∧
      (((runNamed s "run_blacken_docs").outcome results).1 = none ↔ ∃ k, SettlesAt (resultOf results) 3 k) ∧
      (∀ k, SettlesAt (resultOf results) 3 k → n = k) ∧
      ((¬∃ k, SettlesAt (resultOf results) 3 k) →
        ((runNamed s "run_blacken_docs").outcome results).1
            = some (.process ("blacken-docs" :: s.select documents) (resultOf results n).code) ∧
          (∀ j, 1 ≤ j → j < n → ¬Halts (resultOf results j)) ∧ (Halts (resultOf results n) ∨ n = 3)) := by
  obtain ⟨n, log, hlast, hcommands, hexec⟩ := exec_formatTask s results
  refine ⟨n, hlast.first_le, hlast.le_most, ?_, ?_, fun k hk => hlast.eq_of_settlesAt hk, ?_⟩
  · rw [snd_outcome, hexec, hcommands]
  · rw [← hlast.settles_iff]
    by_cases hsettles : Settles (resultOf results n)
    · rw [verdict_of_settles _ hsettles] at hexec
      simp [outcome_of_exec_ok hexec, hsettles]
    · rw [verdict_of_not_settles _ hsettles] at hexec
      simp [outcome_of_exec_error hexec, hsettles]
  · intro hnone
    have hsettles : ¬Settles (resultOf results n) := fun h => hnone (hlast.settles_iff.mp h)
    rw [verdict_of_not_settles _ hsettles] at hexec
    exact ⟨by rw [outcome_of_exec_error hexec], hlast.halts_or_eq hsettles⟩

end DocLint.Tasks
