import LogQuery.Query.Compiled
import LogQuery.Record.Basic
import LogQuery.Scope

/-!
# Passes

A pass takes one record through the steps of a query. It starts with an empty
transient scope and no color, reads the persistent scope without changing it,
and ends behind the last step or at the first one that drops the record. What
it has bound up to there stays bound in either case.

Evaluation cannot fail: a variable that is not bound and a field that is
missing are absent.

## Main definitions

* `Expression.eval`, `Expression.evalText`: The value of an expression, and its text.
* `Pass`: What a pass has done so far, or left behind.
* `CompiledQuery.pass`: The whole pass of a record.

## Theorems

* `evalText_eq`: The text of an expression is that of its value.
-/

namespace LogQuery

/-- What the expressions of a pass are read against. -/
structure Surroundings where
  record : LogRecord
  /-- The variables as the passes before left them. -/
  persistent : Scope

namespace Expression

/-- The value of an expression. -/
def eval (around : Surroundings) (transient : Scope) : Expression → Value
  | record => .string around.record.render
  | var name => transient.read name
  | lastVarValue name => around.persistent.read name
  | constant value => value
  | field name => around.record.get name

/-- The text of the value of an expression. That of the whole record is taken as
    it is, without making a value of it first. -/
def evalText (around : Surroundings) (transient : Scope) : Expression → String
  | record => around.record.render
  | e => (e.eval around transient).text

/-- The short way to the text of the record ends where the long one does. -/
theorem evalText_eq (around : Surroundings) (transient : Scope) (e : Expression) :
    e.evalText around transient = (e.eval around transient).text := by
  cases e <;> rfl

end Expression

/-- How a pass ends. -/
inductive Outcome where
  /-- The record goes to the output. -/
  | done
  /-- The record is dropped. -/
  | skipped
deriving DecidableEq, Repr

/-- What a pass has done so far; at its end, what it leaves behind. -/
structure Pass where
  outcome : Outcome
  /-- The variables bound in this pass. -/
  transient : Scope
  color : Option String

namespace Pass

/-- The pass before its first step. -/
def start : Pass := ⟨.done, .empty, none⟩

instance : Inhabited Pass := ⟨start⟩

/-- Binds the groups of a match as variables. -/
def bindAll (p : Pass) (captures : List (String × String)) : Pass :=
  { p with transient :=
      p.transient.setAll (captures.map fun capture => (capture.1, Value.string capture.2)) }

end Pass

mutual

/-- Takes a pass through a step. -/
def Step.run (around : Surroundings) : Step → Pass → Pass
  | .branch expression pattern thenSteps elseSteps, p =>
    match pattern.captures (expression.evalText around p.transient) with
    | some captures => Step.runList around thenSteps (p.bindAll captures)
    | none => Step.runList around elseSteps p
  | .set target expression, p =>
    { p with transient := p.transient.set target (expression.eval around p.transient) }
  | .colorBy expression, p =>
    { p with color := some (expression.evalText around p.transient) }
  | .skip, p => { p with outcome := .skipped }

/-- Takes a pass through steps, until one drops the record. -/
def Step.runList (around : Surroundings) : List Step → Pass → Pass
  | [], p => p
  | step :: rest, p =>
    let p := step.run around p
    match p.outcome with
    | .skipped => p
    | .done => Step.runList around rest p

end

/-- The whole pass of a record. -/
def CompiledQuery.pass (q : CompiledQuery) (record : LogRecord) (persistent : Scope) : Pass :=
  Step.runList ⟨record, persistent⟩ q.steps .start

end LogQuery
