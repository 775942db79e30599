import DocLint.Proofs.Entries
import DocLint.Toml.Document

/-!
DocLint.Proofs.Toml.Document: every place of a document holds a value.

Values have a constructor for no value, which nothing in a document stands for. What holds of all results of a reader is
shown step by step, and the tables of a document are followed through the statements that let them grow. Main result: no
value of a document is missing, at whatever depth.
-/

namespace DocLint

/-! ## §1. Values without gaps. -/

/-- A value that is there, with everything in it. -/
inductive Value.IsFull : Value → Prop where
  | bool (b : Bool) : IsFull (.bool b)
  | int (n : Int) : IsFull (.int n)
  | float (x : Number.Double) : IsFull (.float x)
  | text (s : String) : IsFull (.text s)
  | moment (m : Moment) : IsFull (.moment m)
  | list {vs : List Value} : (∀ v ∈ vs, IsFull v) → IsFull (.list vs)
  | table {es : List (String × Value)} : (∀ e ∈ es, IsFull e.2) → IsFull (.table es)

theorem Value.IsFull.ne_none {v : Value} (h : v.IsFull) : v ≠ .none := by
  intro hnone
  rw [hnone] at h
  cases h

/-- A table of full values. -/
def Table.IsFull (t : Table) : Prop :=
  ∀ e ∈ t, e.2.IsFull

theorem Table.IsFull.get? {t : Table} (h : t.IsFull) {k : String} {v : Value} (hv : t.get? k = some v) :
    v.IsFull :=
  h _ (Entries.mem_of_get? hv)

/-- Setting a key to a full value keeps a table full. -/
theorem Table.IsFull.put {t : Table} (h : t.IsFull) (k : String) {v : Value} (hv : v.IsFull) :
    Table.IsFull (t.put k v) := by
  induction t with
  | nil =>
    intro e he
    rw [List.mem_singleton.mp he]
    exact hv
  | cons e t ih =>
    obtain ⟨k', v'⟩ := e
    have hhead := h (k', v') List.mem_cons_self
    have htail : Table.IsFull t := fun e he => h e (List.mem_cons_of_mem _ he)
    rw [Entries.put]
    split
    · exact List.forall_mem_cons.mpr ⟨hv, htail⟩
    · exact List.forall_mem_cons.mpr ⟨hhead, ih htail⟩

namespace Toml

/-! ## §2. What a reader gives. -/

/-- All results of a reader have a property. -/
def Gives {α : Type} (r : Reader α) (P : α → Prop) : Prop :=
  ∀ cs a rest, r cs = .ok (a, rest) → P a

section Readers

variable {α β : Type} {P : β → Prop}

theorem gives_pure {b : β} (h : P b) : Gives (pure b : Reader β) P := by
  intro cs b' rest heq
  cases heq
  exact h

theorem gives_throw (e : Error) : Gives (throw e : Reader β) P := by
  intro cs b rest heq
  cases heq

theorem gives_malformed : Gives (malformed : Reader β) P :=
  gives_throw _

/-- What follows a reader has only its results to start from. -/
theorem gives_bind {r : Reader α} {f : α → Reader β} {Q : α → Prop} (hr : Gives r Q)
    (hf : ∀ a, Q a → Gives (f a) P) : Gives (r >>= f) P := by
  intro cs b rest heq
  change (r cs >>= fun x => f x.1 x.2) = .ok (b, rest) at heq
  cases hstep : r cs with
  | error e =>
    rw [hstep] at heq
    cases heq
  | ok x =>
    rw [hstep] at heq
    exact hf x.1 (hr cs x.1 x.2 hstep) x.2 b rest heq

theorem gives_step {r : Reader α} {f : α → Reader β} (hf : ∀ a, Gives (f a) P) : Gives (r >>= f) P :=
  gives_bind (fun _ _ _ _ => trivial) fun a _ => hf a

theorem gives_ite {c : Prop} [Decidable c] {r r' : Reader β} (h : Gives r P) (h' : Gives r' P) :
    Gives (if c then r else r') P := by
  split
  · exact h
  · exact h'

/-- A condition that ends the reading. -/
theorem gives_guard {c : Prop} [Decidable c] {next : Unit → Reader β} (h : Gives (next ()) P) :
    Gives (if c then malformed >>= next else next ()) P :=
  gives_ite (gives_bind (Q := fun _ => False) gives_malformed fun _ hfalse => hfalse.elim) h

end Readers

/-! ## §3. Scalars. -/

theorem isFull_of_moment? {cs rest : Text} {v : Value} (h : moment? cs = some (.ok (v, rest))) :
    v.IsFull := by
  unfold moment? at h
  obtain ⟨⟨date, after⟩, -, h⟩ := Option.bind_eq_some_iff.mp h
  simp only [pure, Option.some.injEq] at h
  split at h
  · cases h
    exact .moment _
  · cases h

theorem isFull_of_based? {cs rest : Text} {v : Value} (h : based? cs = some (v, rest)) : v.IsFull := by
  unfold based? at h
  split at h
  · obtain ⟨ds, -, heq⟩ := Option.map_eq_some_iff.mp h
    cases heq
    exact .int _
  · obtain ⟨ds, -, heq⟩ := Option.map_eq_some_iff.mp h
    cases heq
    exact .int _
  · obtain ⟨ds, -, heq⟩ := Option.map_eq_some_iff.mp h
    cases heq
    exact .int _
  · cases h

theorem isFull_of_decimal? {cs rest : Text} {v : Value} (h : decimal? cs = some (.ok (v, rest))) :
    v.IsFull := by
  unfold decimal? at h
  obtain ⟨⟨whole, after⟩, -, h⟩ := Option.bind_eq_some_iff.mp h
  -- with a fraction or an exponent it is a floating-point number, and else an integer
  rcases hfraction : fractionPart? after with _ | ⟨places, last⟩
  · rcases hexponent : exponentPart? after with _ | ⟨e, last⟩
    · by_cases hmany : maxDigits < whole.length
      · simp [hfraction, hexponent, hmany] at h
      · simp only [hfraction, hexponent, Option.isSome_none, Bool.or_self, Bool.false_eq_true, if_false,
          hmany, pure, Option.some.injEq, Except.ok.injEq, Prod.mk.injEq] at h
        rw [← h.1]
        exact .int _
    · simp only [hfraction, hexponent, Option.isSome_some, Bool.or_true, if_true, pure,
        Option.some.injEq, Except.ok.injEq, Prod.mk.injEq] at h
      rw [← h.1]
      exact .float _
  · simp only [hfraction, Option.isSome_some, Bool.true_or, if_true, pure, Option.some.injEq,
      Except.ok.injEq, Prod.mk.injEq] at h
    rw [← h.1]
    exact .float _

theorem gives_continueWith {r : Except Error (Value × Text)}
    (h : ∀ v rest, r = .ok (v, rest) → v.IsFull) : Gives (continueWith r) Value.IsFull := by
  unfold continueWith
  cases r with
  | error e => exact gives_throw e
  | ok x => exact gives_step fun _ => gives_pure (h x.1 x.2 rfl)

theorem gives_scalar : Gives scalar Value.IsFull := by
  have hin : ∀ body : Reader Text,
      Gives (do pure (Value.text (String.ofList (← body))) : Reader Value) Value.IsFull :=
    fun body => gives_step fun s => gives_pure (.text _)
  unfold scalar
  refine gives_step fun cs => gives_step fun b => gives_ite (hin _) ?_
  refine gives_step fun b => gives_ite (hin _) ?_
  refine gives_step fun b => gives_ite (hin _) ?_
  refine gives_step fun b => gives_ite (hin _) ?_
  refine gives_step fun b => gives_ite (gives_pure (.bool _)) ?_
  refine gives_step fun b => gives_ite (gives_pure (.bool _)) ?_
  -- what is neither a text nor a truth value is a point in time or a number
  cases hmoment : moment? cs with
  | some r => exact gives_continueWith fun v rest heq => isFull_of_moment? (heq ▸ hmoment)
  | none =>
    cases hclock : clock? cs with
    | some x =>
      refine gives_continueWith fun v rest heq => ?_
      cases heq
      exact .moment _
    | none =>
      cases hbased : based? cs with
      | some r =>
        refine gives_continueWith fun v rest heq => ?_
        cases heq
        exact isFull_of_based? hbased
      | none =>
        cases hdecimal : decimal? cs with
        | some r => exact gives_continueWith fun v rest heq => isFull_of_decimal? (heq ▸ hdecimal)
        | none =>
          cases namedFloats.find? fun x => Text.startsWith cs x.1.toList with
          | none => exact gives_malformed
          | some x => exact gives_step fun _ => gives_pure (.float _)

/-! ## §4. Values. -/

/-- **Changing the table at a path keeps a table full**, if the change does. -/
theorem isFull_updateNest {intoLists : Bool} {f : Table → Option Table}
    (hf : ∀ t u, Table.IsFull t → f t = some u → Table.IsFull u) (path : Path) :
    ∀ {t u : Table}, t.IsFull → updateNest intoLists f path t = some u → u.IsFull := by
  induction path with
  | nil =>
    intro t u ht hu
    exact hf t u ht hu
  | cons k ks ih =>
    intro t u ht hu
    rw [updateNest] at hu
    cases hheld : t.get? k with
    | none =>
      rw [hheld] at hu
      obtain ⟨inner, hinner, rfl⟩ := Option.map_eq_some_iff.mp hu
      exact ht.put k (.table (ih (by intro e he; cases he) hinner))
    | some v =>
      rw [hheld] at hu
      have hv := ht.get? hheld
      cases hv with
      | table hes =>
        obtain ⟨inner, hinner, rfl⟩ := Option.map_eq_some_iff.mp hu
        exact ht.put k (.table (ih hes hinner))
      | @list vs hvs =>
        -- a path may lead into the last member of a list
        simp only at hu
        split at hu
        · rename_i w hlast
          have hw := hvs _ (List.mem_of_getLast? hlast)
          cases hw with
          | table hes =>
            obtain ⟨inner, hinner, rfl⟩ := Option.map_eq_some_iff.mp hu
            refine ht.put k (.list fun w hw => ?_)
            rcases List.mem_append.mp hw with hw | hw
            · exact hvs w (List.dropLast_subset _ hw)
            · rw [List.mem_singleton.mp hw]
              exact .table (ih hes hinner)
        · cases hu
      | _ => cases hu

/-- Setting the last key of a path, which has to be new. -/
theorem isFull_insert {path : Path} {v : Value} (hv : v.IsFull) (t u : Table) (ht : t.IsFull)
    (hu : (if t.has (path.getLast?.getD "") then none else some (t.put (path.getLast?.getD "") v))
      = some u) : u.IsFull := by
  split at hu
  · cases hu
  · cases hu
    exact ht.put _ hv

theorem gives_value (fuel : Nat) :
    Gives (value fuel) Value.IsFull ∧ Gives (arrayRest fuel) Value.IsFull ∧
      ∀ table closed, Table.IsFull table → Gives (inlineRest fuel table closed) Value.IsFull := by
  induction fuel with
  | zero => exact ⟨gives_malformed, gives_malformed, fun _ _ _ => gives_malformed⟩
  | succ fuel ih =>
    obtain ⟨hvalue, harray, hinline⟩ := ih
    refine ⟨?_, ?_, ?_⟩
    · rw [value]
      refine gives_step fun b => gives_ite ?_ (gives_step fun b => gives_ite ?_ gives_scalar)
      · refine gives_step fun _ => gives_step fun b => gives_ite (gives_pure (.list ?_)) harray
        intro v hv
        cases hv
      · refine gives_step fun _ => gives_step fun b => gives_ite (gives_pure (.table ?_)) (hinline _ _ ?_)
        · intro e he
          cases he
        · intro e he
          cases he
    · rw [arrayRest]
      refine gives_bind hvalue fun v hv => ?_
      have hone : Gives (pure (.list [v]) : Reader Value) Value.IsFull := by
        refine gives_pure (.list fun w hw => ?_)
        rw [List.mem_singleton.mp hw]
        exact hv
      refine gives_step fun _ => gives_step fun b => gives_ite hone ?_
      refine gives_step fun b => gives_ite ?_ gives_malformed
      refine gives_step fun _ => gives_step fun b => gives_ite hone ?_
      refine gives_bind harray fun w hw => ?_
      cases hw with
      | list hvs => exact gives_pure (.list (List.forall_mem_cons.mpr ⟨hv, hvs⟩))
      | _ => exact gives_malformed
    · intro table closed htable
      rw [inlineRest]
      refine gives_step fun path => gives_step fun b => gives_guard ?_
      refine gives_step fun _ => gives_bind hvalue fun v hv => gives_guard ?_
      dsimp only
      cases hgrown : updateNest false (fun t => if Entries.has t (path.getLast?.getD "") then none
          else some (Entries.put t (path.getLast?.getD "") v)) path.dropLast table with
      | none => exact gives_malformed
      | some table' =>
        have htable' := isFull_updateNest (isFull_insert hv) _ htable hgrown
        refine gives_step fun _ => gives_step fun b => gives_ite (gives_pure (.table htable')) ?_
        refine gives_step fun b => gives_ite (gives_step fun _ => ?_) gives_malformed
        exact hinline _ _ htable'

/-! ## §5. Statements. -/

/-- A document that is being read, with no gaps so far. -/
def State.IsFull (st : State) : Prop :=
  st.table.IsFull

theorem gives_entry {st : State} (h : st.IsFull) : Gives (entry st) State.IsFull := by
  unfold entry
  refine gives_step fun path => gives_step fun b => gives_guard ?_
  refine gives_step fun _ => gives_step fun cs => gives_bind (gives_value _).1 fun v hv => ?_
  refine gives_guard (gives_guard ?_)
  dsimp only
  cases hgrown : updateNest true (fun t => if Entries.has t (path.getLast?.getD "") then none
      else some (Entries.put t (path.getLast?.getD "") v)) (st.header ++ path.dropLast) st.table with
  | none => exact gives_malformed
  | some table => exact gives_pure (isFull_updateNest (isFull_insert hv) _ h hgrown)

/-- A header makes tables and adds to arrays of tables. -/
theorem gives_headerOf (many : Bool) {st : State} (h : st.IsFull) :
    Gives (headerOf many st) State.IsFull := by
  have hempty : Value.IsFull (.table []) := .table (by intro e he; cases he)
  unfold headerOf
  refine gives_step fun _ => gives_step fun path => gives_guard (gives_ite ?_ (gives_guard ?_))
  · dsimp only
    split
    · exact gives_malformed
    rename_i table hgrown
    refine gives_step fun b => gives_guard (gives_pure ?_)
    refine isFull_updateNest ?_ _ h hgrown
    intro t u ht hu
    -- the array is new, or gets another member
    cases hheld : t.get? (path.getLast?.getD "") with
    | none =>
      simp only [hheld] at hu
      cases hu
      refine ht.put _ (.list fun v hv => ?_)
      rw [List.mem_singleton.mp hv]
      exact hempty
    | some w =>
      simp only [hheld] at hu
      cases ht.get? hheld with
      | list hvs =>
        cases hu
        refine ht.put _ (.list fun v hv => ?_)
        rcases List.mem_append.mp hv with hv | hv
        · exact hvs v hv
        · rw [List.mem_singleton.mp hv]
          exact hempty
      | _ => cases hu
  · dsimp only
    split
    · exact gives_malformed
    rename_i table hgrown
    refine gives_step fun b => gives_guard (gives_pure ?_)
    refine isFull_updateNest ?_ _ h hgrown
    intro t u ht hu
    cases hu
    exact ht

theorem gives_statement (c : Char) {st : State} (h : st.IsFull) : Gives (statement c st) State.IsFull := by
  unfold statement
  refine gives_ite (gives_pure h) (gives_ite (gives_entry h) ?_)
  refine gives_step fun b => gives_ite (gives_headerOf true h) ?_
  exact gives_step fun b => gives_ite (gives_headerOf false h) gives_malformed

/-- What one statement keeps, all statements keep. -/
theorem gives_statements (fuel : Nat) :
    ∀ {st : State}, st.IsFull → Gives (statements fuel st) State.IsFull := by
  induction fuel with
  | zero =>
    intro st h
    exact gives_pure h
  | succ fuel ih =>
    intro st h
    rw [statements]
    refine gives_step fun _ => gives_step fun c => ?_
    cases c with
    | none => exact gives_pure h
    | some c =>
      refine gives_bind (gives_statement c h) fun st' h' => ?_
      refine gives_step fun _ => gives_step fun _ => gives_step fun cs => gives_ite (gives_pure h') ?_
      exact gives_step fun b => gives_ite (ih h') gives_malformed

/-- **Every place of a document holds a value.** -/
theorem isFull_of_parse {source : Text} {t : Table} (h : parse source = .ok t) : t.IsFull := by
  unfold parse at h
  simp only at h
  cases hread : (statements ((Text.replace ['\r', '\n'] ['\n'] source).length + 1) {}).run
      (Text.replace ['\r', '\n'] ['\n'] source) with
  | error e =>
    rw [hread] at h
    cases h
  | ok x =>
    rw [hread] at h
    cases h
    have hstart : State.IsFull {} := by
      intro e he
      cases he
    exact gives_statements _ hstart _ x.1 x.2 hread

end Toml

end DocLint
