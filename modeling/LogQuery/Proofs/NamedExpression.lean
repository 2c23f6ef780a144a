import LogQuery.Proofs.Query.Context

/-!
# Naming an Expression

An expression that is used twice may be given a name. When a variable has just been
set to the value of an expression, an operation right behind that reads the
expression may as well read the variable, in any query and for any record.

Two things could go wrong with that. The variable keeps a value and an operation
wants a text, so the text of an expression must not depend on whether a value has
been made of it on the way; it does not (`evalText_eq`). And setting the variable
may change what the expression itself is worth, if it is the variable that it
reads. But then it is set to the value that it has, and keeps it; a variable that is
not bound becomes one that is bound to nothing, which reads the same.

Both are said in `eval_set`. The rest is that an operation looks at its expression
through nothing but the value (`run_reading`), and that it compiles with one
expression if it does with another one, provided that neither looks up the empty name
(`step?_reading`).

## Main definitions

* `Operation.reading`, `Step.reading`: An operation with another expression to read.

## Theorems

* `eval_set`: A variable can be read in place of the expression it was set to.
* `run_reading`: Of its expression a step sees the value.
* `step?_reading`: Compilation of an operation with another expression.
* `replaceable_reading`: Expressions of the same value may stand for each other.
* `naming_keeps_passes`: The variable may be read in every context, and the
  expression in place of the variable.
-/

namespace LogQuery

/-! ### Values -/

theorem Scope.read_set (t : Scope) (name other : String) (value : Value) :
    Scope.read (t.set name value) other = if other = name then value else t.read other := by
  unfold read
  rw [Bindings.get?_set]
  by_cases h : other = name
  · rw [if_pos h, if_pos h]
    rfl
  · rw [if_neg h, if_neg h]

/-- To set a variable to the value of an expression leaves the value of the expression
    as it is, and the variable has it too. -/
theorem Expression.eval_set (around : Surroundings) (t : Scope) (x : String) (e : Expression) :
    e.eval around (t.set x (e.eval around t)) = e.eval around t ∧
      (var x).eval around (t.set x (e.eval around t)) = e.eval around t := by
  have hvar : (var x).eval around (t.set x (e.eval around t)) = e.eval around t := by
    rw [eval, Scope.read_set, if_pos rfl]
  refine ⟨?_, hvar⟩
  cases e with
  | var y =>
      by_cases h : y = x
      · -- The expression reads the variable itself, which is set to what it was.
        subst h
        exact hvar
      · rw [eval, Scope.read_set, if_neg h]
        rfl
  | record | lastVarValue _ | constant _ | field _ => rfl

/-! ### Steps -/

namespace Step

/-- The step with another expression to read, if it reads one. -/
def reading (e : Expression) : Step → Step
  | branch _ pattern thenSteps elseSteps => branch e pattern thenSteps elseSteps
  | set target _ => set target e
  | colorBy _ => colorBy e
  | skip => skip

/-- Of its expression a step sees nothing but the value. -/
theorem run_reading {around : Surroundings} {p : Pass} {e e' : Expression}
    (h : e.eval around p.transient = e'.eval around p.transient) (step : Step) :
    (step.reading e).run around p = (step.reading e').run around p := by
  have htext : e.evalText around p.transient = e'.evalText around p.transient := by
    rw [Expression.evalText_eq, Expression.evalText_eq, h]
  cases step with
  | branch other pattern thenSteps elseSteps => rw [reading, reading, run, run, htext]
  | set target other => rw [reading, reading, run, run, h]
  | colorBy other => rw [reading, reading, run, run, htext]
  | skip => rfl

/-- Behind a variable that is set, expressions may stand for each other if they have
    the same value there. -/
theorem runAlike_reading {x : String} {e a b : Expression}
    (h : ∀ (around : Surroundings) (t : Scope),
      a.eval around (t.set x (e.eval around t)) = b.eval around (t.set x (e.eval around t)))
    (step : Step) : RunAlike [set x e, step.reading a] [set x e, step.reading b] := by
  intro around p hp
  rw [runList_cons, runList_cons, run]
  have hset : ({ p with transient := p.transient.set x (e.eval around p.transient) } :
      Pass).outcome = .done := hp
  rw [Pass.andThen_of_done hset, Pass.andThen_of_done hset, runList_singleton,
    runList_singleton]
  exact run_reading (h around p.transient) step

end Step

/-! ### Operations -/

theorem Expression.check_of_sound {e : Expression} (h : e.Sound) (place : Path) :
    e.check place = .ok () := by
  unfold check
  rw [if_neg fun hname => h "" hname rfl]

/-- A condition compiles with any expression that does not look up the empty name. -/
theorem Condition.pattern?_of_sound {e e' : Expression} {source : String} {pattern : Pattern}
    (he : e'.Sound) (h : Condition.pattern? ⟨e, source⟩ = some pattern) :
    Condition.pattern? ⟨e', source⟩ = some pattern := by
  unfold Condition.pattern? Condition.compile at h ⊢
  rw [toOption_bind] at h ⊢
  rcases Option.bind_eq_some_iff.mp h with ⟨_, _, hpattern⟩
  rw [Expression.check_of_sound he]
  exact hpattern

namespace Operation

/-- The operation with another expression to read, if it reads one. -/
def reading (e : Expression) : Operation → Operation
  | branch condition thenOps elseOps => branch { condition with expression := e } thenOps elseOps
  | set target _ => set target e
  | colorBy _ => colorBy e
  | skipRecord => skipRecord

/-- What an operation sets a variable to does not look up the empty name, if the
    operation compiles. -/
theorem sound_of_step?_set {x : String} {e : Expression} {step : Step}
    (h : (set x e).step? = some step) : e.Sound := by
  have hok := toOption_eq_some_iff.mp h
  unfold compile at hok
  by_cases hx : x = ""
  · rw [if_pos hx] at hok
    cases hok
  · rw [if_neg hx] at hok
    rcases bind_eq_ok.mp hok with ⟨_, hcheck, _⟩
    unfold Expression.check at hcheck
    by_cases hempty : e.name? = some ""
    · rw [if_pos hempty] at hcheck
      cases hcheck
    · intro name hname hname_empty
      exact hempty (hname_empty ▸ hname)

/-- An operation that compiles with one expression does so with any other that does
    not look up the empty name, and its step is the same in all but the expression. -/
theorem step?_reading {op : Operation} {e e' : Expression} {step : Step} (he : e'.Sound)
    (h : (op.reading e).step? = some step) :
    step = step.reading e ∧ (op.reading e').step? = some (step.reading e') := by
  cases op with
  | branch condition thenOps elseOps =>
      rw [reading, step?_branch] at h ⊢
      simp only [Option.bind_eq_some_iff, Option.map_eq_some_iff] at h
      rcases h with ⟨pattern, hpattern, thenSteps, hthen, elseSteps, helse, rfl⟩
      refine ⟨rfl, ?_⟩
      rw [Condition.pattern?_of_sound he hpattern, hthen, helse]
      rfl
  | set target other =>
      obtain rfl := step?_set_eq_some h
      refine ⟨rfl, ?_⟩
      have hok := toOption_eq_some_iff.mp h
      unfold reading compile at hok
      unfold reading step? compile
      by_cases htarget : target = ""
      · rw [if_pos htarget] at hok
        cases hok
      · rw [if_neg htarget, Expression.check_of_sound he]
        rfl
  | colorBy other =>
      obtain rfl := step?_colorBy_eq_some h
      refine ⟨rfl, ?_⟩
      unfold reading step? compile
      rw [Expression.check_of_sound he]
      rfl
  | skipRecord =>
      cases h
      exact ⟨rfl, rfl⟩

/-- Behind a variable that is set, an operation may read any expression in place of
    another one that has the same value there. -/
theorem replaceable_reading {x : String} {e a b : Expression} (hsound : e.Sound → b.Sound)
    (h : ∀ (around : Surroundings) (t : Scope),
      a.eval around (t.set x (e.eval around t)) = b.eval around (t.set x (e.eval around t)))
    (op : Operation) : Replaceable [set x e, op.reading a] [set x e, op.reading b] := by
  intro steps hsteps
  rw [steps?_cons, steps?_singleton] at hsteps
  simp only [Option.bind_eq_some_iff, Option.map_eq_some_iff] at hsteps
  rcases hsteps with ⟨first, hfirst, _, ⟨step, hstep, rfl⟩, rfl⟩
  have hb := hsound (sound_of_step?_set hfirst)
  rcases step?_reading hb hstep with ⟨hsame, hother⟩
  refine ⟨[first, step.reading b], ?_, ?_⟩
  · rw [steps?_cons, steps?_singleton, hfirst, hother]
    rfl
  · obtain rfl := step?_set_eq_some hfirst
    have hrun := Step.runAlike_symm (Step.runAlike_reading h step)
    rw [← hsame] at hrun
    exact hrun

end Operation

/-- Two queries are good for the same: if either compiles, then so does the other, and
    every record has the same pass of both, whatever the past. -/
def Query.Interchangeable (q q' : Query) : Prop := q.PassesLike q' ∧ q'.PassesLike q

/-- Behind a variable that is set to an expression, an operation may read the variable
    in place of the expression and the expression in place of the variable. -/
theorem interchangeable_reading {x : String} (hx : x ≠ "") (context : Context) (e : Expression)
    (op : Operation) :
    Query.Interchangeable ⟨context.fill [.set x e, op.reading e]⟩
      ⟨context.fill [.set x e, op.reading (.var x)]⟩ := by
  have hvalue : ∀ (around : Surroundings) (t : Scope),
      e.eval around (t.set x (e.eval around t)) =
        (Expression.var x).eval around (t.set x (e.eval around t)) := by
    intro around t
    rw [(e.eval_set around t x).1, (e.eval_set around t x).2]
  have hvar : (Expression.var x).Sound := (Expression.sound_iff rfl).mpr hx
  exact ⟨passesLike_of_replaceable (Operation.replaceable_reading (fun _ => hvar) hvalue op)
      context,
    passesLike_of_replaceable
      (Operation.replaceable_reading id (fun around t => (hvalue around t).symm) op) context⟩

/-- Naming an expression does not change it. Where a variable is set to an expression
    and an `if` or a `colorBy` follows that reads the expression, it may read the
    variable, whatever stands around them: the query still compiles, every record has
    the same pass, with the same outcome, the same color and the same bindings in the
    same order, and the way back is open too. Which expression it is makes no
    difference; it may even read the variable itself. -/
theorem naming_keeps_passes (context : Context) (e : Expression) {x : String} (hx : x ≠ "")
    (pattern : String) (thenOps elseOps : List Operation) :
    Query.Interchangeable ⟨context.fill [.set x e, .branch ⟨e, pattern⟩ thenOps elseOps]⟩
        ⟨context.fill [.set x e, .branch ⟨.var x, pattern⟩ thenOps elseOps]⟩ ∧
      Query.Interchangeable ⟨context.fill [.set x e, .colorBy e]⟩
        ⟨context.fill [.set x e, .colorBy (.var x)]⟩ :=
  ⟨interchangeable_reading hx context e (.branch ⟨e, pattern⟩ thenOps elseOps),
    interchangeable_reading hx context e (.colorBy e)⟩

/-- A context in which the name is taken already and every record that gets to the
    gap has some text. -/
def nameTaken : Context :=
  .among [.set "n" (.constant (.boolean true))] (.inThen ⟨.record, "[a-z]"⟩ .gap [.skipRecord])
    [.set "end" (.var "n")]

/-- A record with a number in a field. -/
def numberedRecord : LogRecord :=
  ⟨some "seven", .ofList [("n", .number (.integer 7 (by decide)))]⟩

/-- An `if` that colors a record by its digit. -/
def colorByDigit (e : Expression) : Operation :=
  .branch ⟨e, "^(?<digit>[0-9])$"⟩ [.colorBy (.var "digit")] [.skipRecord]

/-- A field with a number is named, and then it is matched, or colors the record, itself
    or under its name. -/
theorem naming_keeps_passes_numberedRecord :
    "n" ≠ "" ∧
    (∃ compiled compiled' : CompiledQuery,
      Query.compile ⟨nameTaken.fill [.set "n" (.field "n"), colorByDigit (.field "n")]⟩ =
        .ok compiled ∧
      Query.compile ⟨nameTaken.fill [.set "n" (.field "n"), colorByDigit (.var "n")]⟩ =
        .ok compiled' ∧
      compiled'.pass numberedRecord .empty = compiled.pass numberedRecord .empty ∧
      (compiled.pass numberedRecord .empty).color = some "7") ∧
    ∃ compiled compiled' : CompiledQuery,
      Query.compile ⟨nameTaken.fill [.set "n" (.field "n"), .colorBy (.field "n")]⟩ =
        .ok compiled ∧
      Query.compile ⟨nameTaken.fill [.set "n" (.field "n"), .colorBy (.var "n")]⟩ =
        .ok compiled' ∧
      compiled'.pass numberedRecord .empty = compiled.pass numberedRecord .empty := by
  rcases naming_keeps_passes nameTaken (.field "n") (x := "n") (by decide) "^(?<digit>[0-9])$"
    [.colorBy (.var "digit")] [.skipRecord] with ⟨⟨hbranch, _⟩, ⟨hcolor, _⟩⟩
  refine ⟨by decide, ?_, ?_⟩
  · have hpass : (Query.compile ⟨nameTaken.fill [.set "n" (.field "n"),
        colorByDigit (.field "n")]⟩).toOption.map
        (fun compiled => (compiled.pass numberedRecord .empty).color) = some (some "7") := by
      decide +kernel
    rcases Option.map_eq_some_iff.mp hpass with ⟨compiled, h, hseven⟩
    rcases hbranch compiled (toOption_eq_some_iff.mp h) with ⟨compiled', h', hsame⟩
    exact ⟨compiled, compiled', toOption_eq_some_iff.mp h, h', hsame _ _, hseven⟩
  · have hok : (Query.compile ⟨nameTaken.fill [.set "n" (.field "n"),
        .colorBy (.field "n")]⟩).toOption.isSome := by
      decide +kernel
    rcases Option.isSome_iff_exists.mp hok with ⟨compiled, h⟩
    rcases hcolor compiled (toOption_eq_some_iff.mp h) with ⟨compiled', h', hsame⟩
    exact ⟨compiled, compiled', toOption_eq_some_iff.mp h, h', hsame _ _⟩

end LogQuery
