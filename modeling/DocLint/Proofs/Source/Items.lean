import DocLint.Config.Rules
import DocLint.Source.Module
import Mathlib.Data.List.Forall2
import Mathlib.Data.List.Infix

/-!
DocLint.Proofs.Source.Items: the items of a module, by the places of their definitions.

The place of a statement is the list of indices that leads to it: its index in the module, or that of the
statement around it and so on inwards. A place stands before those that continue it, so the lexicographic
order of places is that of a walk which comes to each statement before what it holds. Main statement: the
items are those of the definitions that are to be checked, one for each, in the order of their places, and
the parent of a function is the last class on the way to it.
-/

namespace DocLint.Source

open Syntax

/-! ## §1. Places. -/

/-- Where a statement stands in a module. -/
abbrev Place := List Nat

/-- One place comes before another: it is continued by it, or has the smaller index where they part. -/
def Before (a b : Place) : Prop :=
  List.Lex (· < ·) a b

/-- The statements that a statement holds. -/
def inner : Stmt → List Stmt
  | .function _ _ _ _ body => body
  | .classDef _ _ _ body => body
  | .compound suites => suites
  | .expression _ => []
  | .simple => []

/-- The statement at a place. -/
def stmtAt? : List Stmt → Place → Option Stmt
  | _, [] => none
  | body, [i] => body[i]?
  | body, i :: j :: rest => body[i]?.bind fun s => stmtAt? (inner s) (j :: rest)

/-- The name of a statement that is a class. -/
def className? : Stmt → Option String
  | .classDef name _ _ _ => some name
  | _ => none

/-- The classes around a place, outermost first: those on the way to it. -/
def classesAround (body : List Stmt) (a : Place) : List String :=
  (List.range a.length).filterMap fun n => (stmtAt? body (a.take n)).bind className?

theorem stmtAt?_succ (s : Stmt) (ss : List Stmt) (i : Nat) (rest : Place) :
    stmtAt? (s :: ss) ((i + 1) :: rest) = stmtAt? ss (i :: rest) := by
  cases rest <;> rfl

theorem stmtAt?_below (s : Stmt) (ss : List Stmt) {rest : Place} (h : rest ≠ []) :
    stmtAt? (s :: ss) (0 :: rest) = stmtAt? (inner s) rest := by
  cases rest with
  | nil => exact absurd rfl h
  | cons j rest => rfl

/-- No statement stands at the beginning of the way. -/
theorem classesAround_cons (body : List Stmt) (i : Nat) (rest : Place) :
    classesAround body (i :: rest)
      = (List.range rest.length).filterMap fun n => (stmtAt? body (i :: rest.take n)).bind className? := by
  unfold classesAround
  rw [List.length_cons, List.range_succ_eq_map, List.filterMap_cons, List.filterMap_map]
  rfl

theorem classesAround_succ (s : Stmt) (ss : List Stmt) (i : Nat) (rest : Place) :
    classesAround (s :: ss) ((i + 1) :: rest) = classesAround ss (i :: rest) := by
  simp only [classesAround_cons, stmtAt?_succ]

/-- **On the way to a place inside a statement stands that statement**, and then what stands on the way
from there. -/
theorem classesAround_below (s : Stmt) (ss : List Stmt) {rest : Place} (h : rest ≠ []) :
    classesAround (s :: ss) (0 :: rest) = (className? s).toList ++ classesAround (inner s) rest := by
  cases rest with
  | nil => exact absurd rfl h
  | cons j rest =>
    have hhere : (stmtAt? (s :: ss) (0 :: (j :: rest).take 0)).bind className? = className? s := rfl
    rw [classesAround_cons, classesAround_cons, List.length_cons, List.range_succ_eq_map,
      List.filterMap_cons, List.filterMap_map, hhere]
    cases className? s <;> rfl

/-! ## §2. The walk. -/

/-- A statement as the walk comes to it. -/
structure Visit where
  /-- Its place. -/
  place : Place
  /-- The classes around it, innermost first. -/
  outer : List String
  /-- The statement. -/
  stmt : Stmt

/-- A visit inside the statement of index `k`. -/
def Visit.below (k : Nat) (v : Visit) : Visit :=
  { v with place := k :: v.place }

/-- The classes around what a statement holds. -/
def within (s : Stmt) (outer : List String) : List String :=
  (className? s).toList ++ outer

mutual

/-- The visits of the statements that a statement holds. -/
def visitsIn (outer : List String) : Stmt → List Visit
  | .function _ _ _ _ body => visits outer 0 body
  | .classDef name _ _ body => visits (name :: outer) 0 body
  | .compound suites => visits outer 0 suites
  | .expression _ => []
  | .simple => []

/-- The visits of statements, the first of which has the index `k`, and of all that they hold. -/
def visits (outer : List String) (k : Nat) : List Stmt → List Visit
  | [] => []
  | s :: ss => ⟨[k], outer, s⟩ :: (visitsIn outer s).map (·.below k) ++ visits outer (k + 1) ss

end

/-- **Induction over statements**, with a hypothesis for what the first of them holds. -/
theorem stmts_induction {motive : List Stmt → Prop} (nil : motive [])
    (cons : ∀ s ss, motive (inner s) → motive ss → motive (s :: ss)) : ∀ ss, motive ss
  | [] => nil
  | s :: ss =>
    have hsmaller : sizeOf (inner s) < sizeOf (s :: ss) := by
      cases s <;> simp [inner] <;> omega
    cons s ss (stmts_induction nil cons (inner s)) (stmts_induction nil cons ss)
termination_by ss => sizeOf ss

theorem visits_cons (outer : List String) (k : Nat) (s : Stmt) (ss : List Stmt) :
    visits outer k (s :: ss)
      = ⟨[k], outer, s⟩ :: (visits (within s outer) 0 (inner s)).map (·.below k) ++
          visits outer (k + 1) ss := by
  rw [visits]
  cases s <;> rfl

/-- What the walk knows when it comes to the statement at a place: the place counts from the index `k`, and
around the classes on the way to it stand the classes `outer`. -/
structure IsVisit (outer : List String) (k : Nat) (ss : List Stmt) (i : Nat) (rest : Place) (v : Visit) :
    Prop where
  place : v.place = (k + i) :: rest
  outer : v.outer = (classesAround ss (i :: rest)).reverse ++ outer
  stmt : stmtAt? ss (i :: rest) = some v.stmt

theorem isVisit_here {outer : List String} {k : Nat} {s : Stmt} {ss : List Stmt} {v : Visit} :
    IsVisit outer k (s :: ss) 0 [] v ↔ v = ⟨[k], outer, s⟩ := by
  constructor
  · intro h
    obtain ⟨hplace, houter, hstmt⟩ := h
    cases v
    simp_all [stmtAt?, classesAround_cons]
  · rintro rfl
    exact ⟨rfl, rfl, rfl⟩

theorem isVisit_below {outer : List String} {k : Nat} {s : Stmt} {ss : List Stmt} {j : Nat} {rest : Place}
    {v : Visit} :
    IsVisit (within s outer) 0 (inner s) j rest v ↔ IsVisit outer k (s :: ss) 0 (j :: rest) (v.below k) := by
  have hclasses : ((className? s).toList ++ classesAround (inner s) (j :: rest)).reverse ++ outer
      = (classesAround (inner s) (j :: rest)).reverse ++ within s outer := by
    unfold within
    cases className? s <;> simp
  constructor
  · intro h
    refine ⟨?_, ?_, ?_⟩
    · simp [Visit.below, h.place]
    · rw [classesAround_below s ss (List.cons_ne_nil _ _), hclasses]
      exact h.outer
    · rw [stmtAt?_below s ss (List.cons_ne_nil _ _)]
      exact h.stmt
  · intro h
    refine ⟨?_, ?_, ?_⟩
    · simpa [Visit.below] using h.place
    · rw [← hclasses, ← classesAround_below s ss (List.cons_ne_nil _ _)]
      exact h.outer
    · rw [← stmtAt?_below s ss (List.cons_ne_nil _ _)]
      exact h.stmt

theorem isVisit_succ {outer : List String} {k : Nat} {s : Stmt} {ss : List Stmt} {i : Nat} {rest : Place}
    {v : Visit} : IsVisit outer (k + 1) ss i rest v ↔ IsVisit outer k (s :: ss) (i + 1) rest v := by
  have hplace : k + 1 + i = k + (i + 1) := by omega
  constructor
  · intro h
    exact ⟨by rw [h.place, hplace], by rw [classesAround_succ]; exact h.outer,
      by rw [stmtAt?_succ]; exact h.stmt⟩
  · intro h
    exact ⟨by rw [h.place, hplace], by rw [← classesAround_succ s]; exact h.outer,
      by rw [← stmtAt?_succ s]; exact h.stmt⟩

/-- **The walk comes to the statement at each place**, knowing the classes around it. -/
theorem mem_visits {outer : List String} {k : Nat} {ss : List Stmt} {v : Visit} :
    v ∈ visits outer k ss ↔ ∃ i rest, IsVisit outer k ss i rest v := by
  induction ss using stmts_induction generalizing outer k v with
  | nil =>
    constructor
    · intro h
      cases h
    · rintro ⟨i, rest, h⟩
      have hstmt := h.stmt
      cases rest <;> cases hstmt
  | cons s ss ihinner ih =>
    rw [visits_cons, List.mem_append, List.mem_cons, List.mem_map, ih]
    constructor
    · rintro ((rfl | ⟨u, hu, rfl⟩) | ⟨i, rest, h⟩)
      · exact ⟨0, [], isVisit_here.mpr rfl⟩
      · obtain ⟨j, rest, h⟩ := ihinner.mp hu
        exact ⟨0, j :: rest, isVisit_below.mp h⟩
      · exact ⟨i + 1, rest, isVisit_succ.mp h⟩
    · rintro ⟨i, rest, h⟩
      cases i with
      | succ i => exact .inr ⟨i, rest, isVisit_succ.mpr h⟩
      | zero =>
        left
        cases rest with
        | nil => exact .inl (isVisit_here.mp h)
        | cons j rest =>
          -- the visit is one inside the first statement, seen from there
          have hv : v = (Visit.mk (j :: rest) v.outer v.stmt).below k := by
            cases v
            simpa [Visit.below] using h.place
          rw [hv] at h ⊢
          exact .inr ⟨_, ihinner.mpr ⟨j, rest, isVisit_below.mpr h⟩, rfl⟩

/-- **The walk goes through the places in their order.** -/
theorem pairwise_visits (outer : List String) (k : Nat) (ss : List Stmt) :
    (visits outer k ss).Pairwise fun u v => Before u.place v.place := by
  induction ss using stmts_induction generalizing outer k with
  | nil => exact List.Pairwise.nil
  | cons s ss ihinner ih =>
    rw [visits_cons, List.pairwise_append, List.pairwise_cons, List.pairwise_map]
    refine ⟨⟨?_, ?_⟩, ih outer (k + 1), ?_⟩
    · -- a statement comes before what it holds
      intro v hv
      obtain ⟨u, hu, rfl⟩ := List.mem_map.mp hv
      obtain ⟨j, rest, h⟩ := mem_visits.mp hu
      rw [Visit.below, h.place]
      exact .cons .nil
    · exact (ihinner (within s outer) 0).imp fun h => .cons h
    · -- and all of that before the next statement
      intro u hu v hv
      obtain ⟨i, rest, h⟩ := mem_visits.mp hv
      have hfirst : ∃ below, u.place = k :: below := by
        rcases List.mem_cons.mp hu with rfl | hu
        · exact ⟨[], rfl⟩
        · obtain ⟨u, -, rfl⟩ := List.mem_map.mp hu
          exact ⟨u.place, rfl⟩
      obtain ⟨below, hbelow⟩ := hfirst
      rw [hbelow, h.place]
      exact .rel (by omega)

/-- From a module on, a place and the classes around it are what they are in the module. -/
theorem mem_visits_module {body : List Stmt} {v : Visit} :
    v ∈ visits [] 0 body
      ↔ stmtAt? body v.place = some v.stmt ∧ v.outer = (classesAround body v.place).reverse := by
  rw [mem_visits]
  constructor
  · rintro ⟨i, rest, h⟩
    have hplace : v.place = i :: rest := by simpa using h.place
    rw [hplace]
    exact ⟨h.stmt, by simpa using h.outer⟩
  · rintro ⟨hstmt, houter⟩
    cases hplace : v.place with
    | nil =>
      rw [hplace] at hstmt
      cases hstmt
    | cons i rest =>
      rw [hplace] at hstmt houter
      exact ⟨i, rest, by simpa using hplace, by simpa using houter, hstmt⟩

/-! ## §3. Items. -/

/-- The item of a visited statement, if it is a definition that is checked. -/
def Visit.item? (checkPrivate : Bool) (v : Visit) : Option Item :=
  match v.stmt with
  | .function name line decorators ps body =>
    if isVisible checkPrivate name && !decorators.any isOverloadMark then
      some (functionItem v.outer name line ps body)
    else none
  | .classDef name line _ body =>
    if isVisible checkPrivate name then some (classItem name line body) else none
  | _ => none

theorem itemsOf_eq (checkPrivate : Bool) (outer : List String) (place : Place) (s : Stmt) :
    itemsOf checkPrivate outer s
      = ((Visit.mk place outer s).item? checkPrivate).toList ++
          itemsOfAll checkPrivate (within s outer) (inner s) := by
  cases s with
  | function name line decorators ps body =>
    rw [itemsOf]
    simp only [Visit.item?]
    split <;> rfl
  | classDef name line decorators body =>
    rw [itemsOf]
    simp only [Visit.item?]
    split <;> rfl
  | compound suites => rw [itemsOf]; rfl
  | expression value => rw [itemsOf]; simp [Visit.item?, inner, itemsOfAll]
  | simple => rw [itemsOf]; simp [Visit.item?, inner, itemsOfAll]

/-- **The items are those of the visits**, in the same order. -/
theorem itemsOfAll_eq (checkPrivate : Bool) (outer : List String) (k : Nat) (ss : List Stmt) :
    itemsOfAll checkPrivate outer ss = (visits outer k ss).filterMap (·.item? checkPrivate) := by
  induction ss using stmts_induction generalizing outer k with
  | nil => rw [itemsOfAll]; rfl
  | cons s ss ihinner ih =>
    have hbelow : ∀ v : Visit, (v.below k).item? checkPrivate = v.item? checkPrivate := fun _ => rfl
    rw [itemsOfAll, itemsOf_eq checkPrivate outer [k], visits_cons, List.filterMap_append,
      List.filterMap_cons, List.filterMap_map, ihinner (within s outer) 0, ih outer (k + 1)]
    simp only [Function.comp_def, hbelow]
    cases (Visit.mk [k] outer s).item? checkPrivate <;> simp

/-- A decorator that marks an overload: the name itself, or an attribute of that name. -/
def IsOverload (d : Expr) : Prop :=
  d = .name "overload" ∨ ∃ e, d = .attribute e "overload"

theorem isOverloadMark_iff {d : Expr} : isOverloadMark d = true ↔ IsOverload d := by
  unfold IsOverload
  cases d <;> simp [isOverloadMark]

/-- Whether definitions of a name are to be checked: private ones only if that is asked for. -/
def Shows (c : Config) (name : String) : Prop :=
  c.settings.checkPrivate.truthy = true ∨ name.startsWith "_" = false

/-- The places of the definitions that are to be checked. -/
inductive IsListed (c : Config) (body : List Stmt) (a : Place) : Prop where
  /-- A class. -/
  | ofClass {name : String} {line : Nat} {decorators : List Expr} {held : List Stmt}
      (here : stmtAt? body a = some (.classDef name line decorators held)) (shown : Shows c name)
  /-- A function that is no overload. -/
  | ofFunction {name : String} {line : Nat} {decorators : List Expr} {ps : Parameters} {held : List Stmt}
      (here : stmtAt? body a = some (.function name line decorators ps held)) (shown : Shows c name)
      (unmarked : ∀ d ∈ decorators, ¬ IsOverload d)

/-- The item of the definition at a place. -/
inductive Describes (body : List Stmt) (a : Place) : Item → Prop where
  /-- A class has no parent. -/
  | ofClass {name : String} {line : Nat} {decorators : List Expr} {held : List Stmt}
      (here : stmtAt? body a = some (.classDef name line decorators held)) :
      Describes body a
        { kind := .classItem, name, line, parent := none, signature := none
          docstring := bodyDocstring held }
  /-- A function inside classes is a method of the innermost. -/
  | method {name : String} {line : Nat} {decorators : List Expr} {ps : Parameters} {held : List Stmt}
      {parent : String} (here : stmtAt? body a = some (.function name line decorators ps held))
      (inside : (classesAround body a).getLast? = some parent) :
      Describes body a
        { kind := .method, name, line, parent := some parent, signature := some (signatureOf ps)
          docstring := bodyDocstring held }
  /-- Any other function has no parent. -/
  | function {name : String} {line : Nat} {decorators : List Expr} {ps : Parameters} {held : List Stmt}
      (here : stmtAt? body a = some (.function name line decorators ps held))
      (outside : classesAround body a = []) :
      Describes body a
        { kind := .function, name, line, parent := none, signature := some (signatureOf ps)
          docstring := bodyDocstring held }

variable {c : Config} {body : List Stmt} {v : Visit}

theorem isVisible_iff {name : String} :
    isVisible c.toRules.options.checkPrivate name = true ↔ Shows c name := by
  unfold isVisible Shows
  rw [Bool.or_eq_true, Bool.not_eq_true']
  rfl

theorem unmarked_iff {decorators : List Expr} :
    (!decorators.any isOverloadMark) = true ↔ ∀ d ∈ decorators, ¬ IsOverload d := by
  simp only [Bool.not_eq_true', List.any_eq_false, isOverloadMark_iff]

/-- The item of a function says where it stands by the classes around it. -/
theorem describes_functionItem {a : Place} {name : String} {line : Nat} {decorators : List Expr}
    {ps : Parameters} {held : List Stmt}
    (here : stmtAt? body a = some (.function name line decorators ps held)) :
    Describes body a (functionItem (classesAround body a).reverse name line ps held) := by
  cases hparent : (classesAround body a).getLast? with
  | none =>
    have houtside : classesAround body a = [] := List.getLast?_eq_none_iff.mp hparent
    rw [houtside]
    exact .function here houtside
  | some parent =>
    have hinside : (classesAround body a).reverse.isEmpty = false := by
      rw [List.isEmpty_reverse]
      cases hclasses : classesAround body a with
      | nil => rw [hclasses] at hparent; cases hparent
      | cons _ _ => rfl
    unfold functionItem
    rw [hinside, List.head?_reverse, hparent]
    exact .method here hparent

theorem describes_of_item? (hv : v ∈ visits [] 0 body) {i : Item}
    (hi : v.item? c.toRules.options.checkPrivate = some i) : Describes body v.place i := by
  obtain ⟨hstmt, houter⟩ := mem_visits_module.mp hv
  unfold Visit.item? at hi
  split at hi
  · rename_i hfunction
    rw [hfunction] at hstmt
    split at hi
    · obtain rfl := Option.some.inj hi
      rw [houter]
      exact describes_functionItem hstmt
    · cases hi
  · rename_i hclass
    rw [hclass] at hstmt
    split at hi
    · obtain rfl := Option.some.inj hi
      exact .ofClass hstmt
    · cases hi
  · cases hi

theorem isSome_item?_iff (hv : v ∈ visits [] 0 body) :
    (v.item? c.toRules.options.checkPrivate).isSome = true ↔ IsListed c body v.place := by
  obtain ⟨hstmt, -⟩ := mem_visits_module.mp hv
  unfold Visit.item?
  constructor
  · intro hsome
    split at hsome
    · rename_i hfunction
      rw [hfunction] at hstmt
      split at hsome
      · rename_i hlisted
        obtain ⟨hshown, hunmarked⟩ := Bool.and_eq_true_iff.mp hlisted
        exact .ofFunction hstmt (isVisible_iff.mp hshown) (unmarked_iff.mp hunmarked)
      · cases hsome
    · rename_i hclass
      rw [hclass] at hstmt
      split at hsome
      · rename_i hshown
        exact .ofClass hstmt (isVisible_iff.mp hshown)
      · cases hsome
    · cases hsome
  · intro hlisted
    cases hlisted with
    | ofClass here shown =>
      obtain hclass := Option.some.inj (hstmt.symm.trans here)
      simp [hclass, isVisible_iff.mpr shown]
    | ofFunction here shown unmarked =>
      obtain hfunction := Option.some.inj (hstmt.symm.trans here)
      simp only [hfunction, isVisible_iff.mpr shown, unmarked_iff.mpr unmarked]
      rfl

/-- What is kept of a list stands in the same order as what it comes from. -/
theorem forall₂_filterMap {α β γ : Type} {f : α → Option β} {g : α → γ} {R : γ → β → Prop} {l : List α}
    (h : ∀ x ∈ l, ∀ y, f x = some y → R (g x) y) :
    List.Forall₂ R ((l.filter fun x => (f x).isSome).map g) (l.filterMap f) := by
  induction l with
  | nil => exact .nil
  | cons x l ih =>
    have hrest := ih fun z hz => h z (List.mem_cons_of_mem _ hz)
    cases hx : f x with
    | none =>
      rw [List.filter_cons_of_neg (by simp [hx]), List.filterMap_cons_none hx]
      exact hrest
    | some y =>
      rw [List.filter_cons_of_pos (by simp [hx]), List.map_cons, List.filterMap_cons_some hx]
      exact .cons (h x List.mem_cons_self y hx) hrest

/-- **The items of a module are a filtered walk.** They belong to the places of the definitions that are to
be checked, each place once and all in their order; a class has no parent, and a function is a method of the
innermost class around it if there is one, whatever else stands between them. -/
theorem items_in_order (c : Config) (body : List Stmt) :
    ∃ places : List Place, places.Pairwise Before ∧ (∀ a, a ∈ places ↔ IsListed c body a) ∧
      List.Forall₂ (Describes body) places (itemsOfAll c.toRules.options.checkPrivate [] body) := by
  refine ⟨((visits [] 0 body).filter fun v => (v.item? c.toRules.options.checkPrivate).isSome).map (·.place),
    ?_, ?_, ?_⟩
  · rw [List.pairwise_map]
    exact (pairwise_visits [] 0 body).filter _
  · intro a
    rw [List.mem_map]
    constructor
    · rintro ⟨v, hv, rfl⟩
      obtain ⟨hvisit, hsome⟩ := List.mem_filter.mp hv
      exact (isSome_item?_iff hvisit).mp hsome
    · intro hlisted
      obtain ⟨s, hs⟩ : ∃ s, stmtAt? body a = some s := by
        cases hlisted with
        | ofClass here _ => exact ⟨_, here⟩
        | ofFunction here _ _ => exact ⟨_, here⟩
      have hvisit : Visit.mk a (classesAround body a).reverse s ∈ visits [] 0 body :=
        mem_visits_module.mpr ⟨hs, rfl⟩
      exact ⟨_, List.mem_filter.mpr ⟨hvisit, (isSome_item?_iff hvisit).mpr hlisted⟩, rfl⟩
  · rw [itemsOfAll_eq c.toRules.options.checkPrivate [] 0 body]
    exact forall₂_filterMap fun v hv i hi => describes_of_item? hv hi

end DocLint.Source
