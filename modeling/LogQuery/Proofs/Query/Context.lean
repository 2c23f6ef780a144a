import LogQuery.Pass
import LogQuery.Proofs.Query.Steps
import LogQuery.Proofs.Query.Validation

/-!
# Operations in Context

When may some operations of a query be written in another way? Not when the query
does the same afterwards, since that would have to be shown for every query anew,
but when the operations do the same by themselves: if other operations compile
whenever they do, and take every pass that has not ended to where they take it,
then nobody around them can tell.

A `Context` is what is around them. It is built from the gap outwards, one layer
at a time: other operations on both sides, or an `if` of which the gap is one of
the two branches. Every place in a query is of this kind, at whatever depth
(`exists_fill_of_occurs`). So to carry a replacement through a context is an
induction with one case for each layer (`replaceable_fill`), and each of them says
that a part of the executor looks at its parts through nothing but what they do to
a pass.

A list of steps hands a pass on from one to the next, and stops handing it on when
the record has been dropped. `Pass.andThen` is this handing on, and it makes two
lists in a row the one and then the other (`runList_append`).

## Main definitions

* `Pass.andThen`: Goes on with a pass unless its record has been dropped.
* `Step.RunAlike`: Steps that do the same to every pass that has not ended.
* `Operation.Replaceable`: Operations that may be written as others.
* `Context`, `Context.fill`: What is around some operations of a query.
* `Query.PassesLike`: A query compiles and has the same passes if another one
  compiles.

## Theorems

* `runList_append`: Steps in a row.
* `runAlike_append`, `runAlike_branch`: Steps that do the same, put together.
* `replaceable_among`, `replaceable_inThen`, `replaceable_inElse`: Replacements
  under one layer of a context.
* `exists_fill_of_occurs`: Every operation of a query stands in a context.
* `replaceable_fill`: Replacements in any context.
* `passesLike_of_replaceable`: A replacement in a query keeps its passes.
-/

namespace LogQuery

/-! ### Steps in a row -/

/-- Goes on with a pass unless its record has been dropped. -/
def Pass.andThen (p : Pass) (next : Pass → Pass) : Pass :=
  match p.outcome with
  | .skipped => p
  | .done => next p

theorem Pass.andThen_of_done {p : Pass} (h : p.outcome = .done) (next : Pass → Pass) :
    p.andThen next = next p := by
  simp only [andThen, h]

theorem Pass.andThen_of_skipped {p : Pass} (h : p.outcome = .skipped) (next : Pass → Pass) :
    p.andThen next = p := by
  simp only [andThen, h]

/-- Of what comes next, only what it does to passes that have not ended counts. -/
theorem Pass.andThen_congr {next next' : Pass → Pass}
    (h : ∀ p : Pass, p.outcome = .done → next p = next' p) (p : Pass) :
    p.andThen next = p.andThen next' := by
  cases houtcome : p.outcome with
  | done => rw [andThen_of_done houtcome, andThen_of_done houtcome, h p houtcome]
  | skipped => rw [andThen_of_skipped houtcome, andThen_of_skipped houtcome]

namespace Step

variable {around : Surroundings}

theorem runList_nil (p : Pass) : runList around [] p = p := by
  rw [runList]

theorem runList_cons (step : Step) (rest : List Step) (p : Pass) :
    runList around (step :: rest) p = (step.run around p).andThen (runList around rest) := by
  rw [runList]
  rfl

theorem runList_singleton (step : Step) (p : Pass) :
    runList around [step] p = step.run around p := by
  rw [runList_cons]
  cases h : (step.run around p).outcome with
  | done => rw [Pass.andThen_of_done h, runList_nil]
  | skipped => exact Pass.andThen_of_skipped h _

/-- Two lists in a row: the second goes on with what the first has left, unless the
    first has dropped the record. -/
theorem runList_append (xs ys : List Step) {p : Pass} (h : p.outcome = .done) :
    runList around (xs ++ ys) p = (runList around xs p).andThen (runList around ys) := by
  -- Every step of the first list starts from a pass that has not ended.
  induction xs generalizing p with
  | nil => rw [List.nil_append, runList_nil, Pass.andThen_of_done h]
  | cons step rest ih =>
      rw [List.cons_append, runList_cons, runList_cons]
      cases houtcome : (step.run around p).outcome with
      | done =>
          rw [Pass.andThen_of_done houtcome, Pass.andThen_of_done houtcome]
          exact ih houtcome
      | skipped =>
          -- The rest of the first list is left out, and the second list is so too.
          rw [Pass.andThen_of_skipped houtcome, Pass.andThen_of_skipped houtcome,
            Pass.andThen_of_skipped houtcome]

/-! ### Steps that do the same -/

/-- Two lists of steps do the same to every pass that has not ended. -/
def RunAlike (xs ys : List Step) : Prop :=
  ∀ (around : Surroundings) (p : Pass), p.outcome = .done →
    runList around xs p = runList around ys p

theorem runAlike_append {xs xs' ys ys' : List Step} (hxs : RunAlike xs xs')
    (hys : RunAlike ys ys') : RunAlike (xs ++ ys) (xs' ++ ys') := by
  intro around p h
  rw [runList_append xs ys h, runList_append xs' ys' h, hxs around p h]
  exact Pass.andThen_congr (hys around) _

theorem runAlike_refl (xs : List Step) : RunAlike xs xs := fun _ _ _ => rfl

theorem runAlike_symm {xs ys : List Step} (h : RunAlike xs ys) : RunAlike ys xs :=
  fun around p hp => (h around p hp).symm

/-- An `if` whose branches do the same does the same. -/
theorem runAlike_branch (e : Expression) (pattern : Pattern) {xs xs' ys ys' : List Step}
    (hxs : RunAlike xs xs') (hys : RunAlike ys ys') :
    RunAlike [branch e pattern xs ys] [branch e pattern xs' ys'] := by
  intro around p h
  rw [runList_singleton, runList_singleton, run, run]
  -- The condition sees the pass as it was before either branch, so both choose alike.
  cases pattern.captures (e.evalText around p.transient) with
  | some captures => exact hxs around (p.bindAll captures) h
  | none => exact hys around p h

end Step

/-! ### Operations that may be replaced -/

namespace Operation

/-- Operations may be written as others: if they compile, so do the others, and
    their steps do the same. -/
def Replaceable (xs ys : List Operation) : Prop :=
  ∀ steps, steps? xs = some steps → ∃ steps', steps? ys = some steps' ∧ Step.RunAlike steps' steps

theorem replaceable_among (before after : List Operation) {xs ys : List Operation}
    (h : Replaceable xs ys) : Replaceable (before ++ xs ++ after) (before ++ ys ++ after) := by
  intro steps hsteps
  simp only [steps?_append, Option.bind_eq_some_iff, Option.map_eq_some_iff] at hsteps
  rcases hsteps with ⟨_, ⟨front, hfront, inner, hinner, rfl⟩, back, hback, rfl⟩
  rcases h inner hinner with ⟨inner', hinner', hrun⟩
  -- What is behind the replacement has another index now, and the same steps.
  refine ⟨front ++ inner' ++ back, ?_, ?_⟩
  · simp only [steps?_append, hfront, hinner', hback, Option.bind_some, Option.map_some]
  · exact Step.runAlike_append (Step.runAlike_append (Step.runAlike_refl front) hrun)
      (Step.runAlike_refl back)

theorem replaceable_inThen (c : Condition) (elseOps : List Operation) {xs ys : List Operation}
    (h : Replaceable xs ys) : Replaceable [branch c xs elseOps] [branch c ys elseOps] := by
  intro steps hsteps
  simp only [steps?_singleton, step?_branch, Option.bind_eq_some_iff,
    Option.map_eq_some_iff] at hsteps
  rcases hsteps with ⟨_, ⟨pattern, hpattern, inner, hinner, elseSteps, helse, rfl⟩, rfl⟩
  rcases h inner hinner with ⟨inner', hinner', hrun⟩
  refine ⟨[.branch c.expression pattern inner' elseSteps], ?_, ?_⟩
  · simp only [steps?_singleton, step?_branch, hpattern, hinner', helse, Option.bind_some,
      Option.map_some]
  · exact Step.runAlike_branch c.expression pattern hrun (Step.runAlike_refl elseSteps)

theorem replaceable_inElse (c : Condition) (thenOps : List Operation) {xs ys : List Operation}
    (h : Replaceable xs ys) : Replaceable [branch c thenOps xs] [branch c thenOps ys] := by
  intro steps hsteps
  simp only [steps?_singleton, step?_branch, Option.bind_eq_some_iff,
    Option.map_eq_some_iff] at hsteps
  rcases hsteps with ⟨_, ⟨pattern, hpattern, thenSteps, hthen, inner, hinner, rfl⟩, rfl⟩
  rcases h inner hinner with ⟨inner', hinner', hrun⟩
  refine ⟨[.branch c.expression pattern thenSteps inner'], ?_, ?_⟩
  · simp only [steps?_singleton, step?_branch, hpattern, hthen, hinner', Option.bind_some,
      Option.map_some]
  · exact Step.runAlike_branch c.expression pattern (Step.runAlike_refl thenSteps) hrun

end Operation

/-! ### Contexts -/

/-- What is around some operations of a query, from the gap where they stand
    outwards. -/
inductive Context where
  /-- Nothing is around them. -/
  | gap
  /-- Operations stand in front of them and behind them. -/
  | among (before : List Operation) (inner : Context) (after : List Operation)
  /-- They are the branch taken when a condition holds. -/
  | inThen (condition : Condition) (inner : Context) (elseOps : List Operation)
  /-- They are the branch taken when a condition does not hold. -/
  | inElse (condition : Condition) (thenOps : List Operation) (inner : Context)

namespace Context

/-- The operations of a query with the gap filled. -/
def fill : Context → List Operation → List Operation
  | gap, ops => ops
  | among before inner after, ops => before ++ inner.fill ops ++ after
  | inThen condition inner elseOps, ops => [.branch condition (inner.fill ops) elseOps]
  | inElse condition thenOps inner, ops => [.branch condition thenOps (inner.fill ops)]

/-- Wherever an operation occurs, the rest of the query is a context of it. -/
theorem exists_fill_of_occurs {op : Operation} {ops : List Operation} (h : op.Occurs ops) :
    ∃ context : Context, ops = context.fill [op] := by
  induction h with
  | @head rest => exact ⟨among [] gap rest, rfl⟩
  | @tail other rest _ ih =>
      rcases ih with ⟨context, rfl⟩
      exact ⟨among [other] context [], (List.append_nil _).symm⟩
  | @inThen condition _ elseOps rest _ ih =>
      rcases ih with ⟨context, rfl⟩
      exact ⟨among [] (inThen condition context elseOps) rest, rfl⟩
  | @inElse condition thenOps _ rest _ ih =>
      rcases ih with ⟨context, rfl⟩
      exact ⟨among [] (inElse condition thenOps context) rest, rfl⟩

/-- A replacement may be made in any context. -/
theorem replaceable_fill {xs ys : List Operation} (h : Operation.Replaceable xs ys)
    (context : Context) : Operation.Replaceable (context.fill xs) (context.fill ys) := by
  induction context with
  | gap => exact h
  | among before _ after ih => exact Operation.replaceable_among before after ih
  | inThen c _ elseOps ih => exact Operation.replaceable_inThen c elseOps ih
  | inElse c thenOps _ ih => exact Operation.replaceable_inElse c thenOps ih

end Context

/-- If a query compiles, then so does another one, and every record has the same
    pass of either, whatever the past. -/
def Query.PassesLike (q q' : Query) : Prop :=
  ∀ compiled, q.compile = .ok compiled → ∃ compiled', q'.compile = .ok compiled' ∧
    ∀ (record : LogRecord) (persistent : Scope),
      compiled'.pass record persistent = compiled.pass record persistent

/-- A replacement in a query keeps its passes, wherever it is made. -/
theorem passesLike_of_replaceable {xs ys : List Operation} (h : Operation.Replaceable xs ys)
    (context : Context) : Query.PassesLike ⟨context.fill xs⟩ ⟨context.fill ys⟩ := by
  intro compiled hcompile
  rcases Context.replaceable_fill h context compiled.steps (Query.compile_eq_ok_iff.mp hcompile)
    with ⟨steps', hsteps', hrun⟩
  exact ⟨⟨steps'⟩, Query.compile_eq_ok_iff.mpr hsteps',
    fun record persistent => hrun ⟨record, persistent⟩ .start rfl⟩

end LogQuery
