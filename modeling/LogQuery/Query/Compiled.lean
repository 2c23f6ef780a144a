import LogQuery.Pattern
import LogQuery.Query.Error
import LogQuery.Query.Basic

/-!
# Compiled Queries

A query is compiled before it sees a record. Compilation accepts its patterns
and checks that nothing is named by the empty name. The operations are gone
through in the order of their JSON form, so the error is about the first fault
of that form, and its path leads there.

A compiled query has the shape of the query it comes from, with patterns in
place of their sources.

## Main definitions

* `Step`: An operation that can be executed.
* `CompiledQuery`: The steps of a query.
* `Query.compile`: Checks a query and compiles it.
-/

namespace LogQuery

/-- An operation that can be executed. -/
inductive Step where
  | branch (expression : Expression) (pattern : Pattern) (thenSteps elseSteps : List Step)
  | set (target : String) (expression : Expression)
  | colorBy (expression : Expression)
  | skip

instance : Inhabited Step := ⟨.skip⟩

/-- A query that has been checked. -/
structure CompiledQuery where
  steps : List Step
deriving Inhabited

namespace Expression

/-- The name that an expression looks up. -/
def name? : Expression → Option String
  | var name | lastVarValue name | field name => some name
  | record | constant _ => none

/-- Rejects an expression that looks up the empty name. -/
def check (path : Path) (e : Expression) : Except QueryError Unit :=
  if e.name? = some "" then .error (.invalidQuery (path.child e.tag) .emptyName) else .ok ()

end Expression

namespace Condition

/-- Checks a condition and accepts its pattern. -/
def compile (path : Path) (c : Condition) : Except QueryError Pattern := do
  c.expression.check (path.child "expression")
  match Pattern.compile? c.pattern with
  | some pattern => .ok pattern
  | none => .error (.invalidPattern (path.child "pattern") c.pattern)

end Condition

namespace Operation

mutual

/-- Compiles the operation at a place. -/
def compile (path : Path) : Operation → Except QueryError Step
  | branch condition thenOps elseOps => do
    let path := path.child "if"
    let pattern ← condition.compile ((path.child "condition").child "match")
    let thenSteps ← compileList (path.child "then") 0 thenOps
    let elseSteps ← compileList (path.child "else") 0 elseOps
    .ok (.branch condition.expression pattern thenSteps elseSteps)
  | set target expression => do
    let path := path.child "set"
    if target = "" then .error (.invalidQuery (path.child "target") .emptyTarget)
    else
      expression.check (path.child "expression")
      .ok (.set target expression)
  | colorBy expression => do
    expression.check (path.child "colorBy")
    .ok (.colorBy expression)
  | skipRecord => .ok .skip

/-- Compiles the operations of the list at a place, from the index given. -/
def compileList (path : Path) (i : Nat) : List Operation → Except QueryError (List Step)
  | [] => .ok []
  | operation :: rest => do
    let step ← operation.compile (path.element i)
    let steps ← compileList path (i + 1) rest
    .ok (step :: steps)

end

end Operation

/-- Checks a query and compiles it. -/
def Query.compile (q : Query) : Except QueryError CompiledQuery :=
  (Operation.compileList [.key "operations"] 0 q.operations).map CompiledQuery.mk

end LogQuery
