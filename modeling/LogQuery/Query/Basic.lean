import LogQuery.Value

/-!
# Queries

A query is a list of operations that runs over every record. An operation
either chooses between two lists of operations by a condition, or binds a
variable, or tags the record with a color, or drops the record. Conditions
match the text of an expression against a pattern, which is kept here as it
was written.

## Main definitions

* `Expression`: What a value is computed from.
* `Condition`: An expression and the pattern that its text has to match.
* `Operation`: One step of a query.
* `Query`: The operations applied, in order, to every record.
-/

namespace LogQuery

/-- What a value is computed from. -/
inductive Expression where
  /-- The text of the whole record. -/
  | record
  /-- A variable bound earlier in the same pass. -/
  | var (name : String)
  /-- A variable as it stood when the pass before ended. -/
  | lastVarValue (name : String)
  | constant (value : Value)
  /-- A field of the record. -/
  | field (name : String)
deriving DecidableEq, Inhabited

namespace Expression

/-- The key under which an expression is written. -/
def tag : Expression → String
  | record => "record"
  | var _ => "var"
  | lastVarValue _ => "lastVarValue"
  | constant _ => "constant"
  | field _ => "field"

/-- Equality of expressions, under which the two real zeros agree. -/
def same : Expression → Expression → Bool
  | constant a, constant b => a.same b
  | a, b => a == b

end Expression

/-- Holds when the pattern matches somewhere in the text of the expression. -/
structure Condition where
  expression : Expression
  pattern : String
deriving DecidableEq, Inhabited

def Condition.same (a b : Condition) : Bool :=
  a.expression.same b.expression && a.pattern == b.pattern

/-- One step of a query. -/
inductive Operation where
  | branch (condition : Condition) (thenOps elseOps : List Operation)
  | set (target : String) (expression : Expression)
  | colorBy (expression : Expression)
  | skipRecord
deriving Inhabited

namespace Operation

/-- The key under which an operation is written. -/
def tag : Operation → String
  | branch .. => "if"
  | set .. => "set"
  | colorBy _ => "colorBy"
  | skipRecord => "skipRecord"

mutual

/-- Equality of operations, under which the two real zeros agree. -/
def same : Operation → Operation → Bool
  | branch c a b, branch c' a' b' => c.same c' && sameList a a' && sameList b b'
  | set t e, set t' e' => t == t' && e.same e'
  | colorBy e, colorBy e' => e.same e'
  | skipRecord, skipRecord => true
  | _, _ => false

def sameList : List Operation → List Operation → Bool
  | [], [] => true
  | a :: as, b :: bs => same a b && sameList as bs
  | _, _ => false

end

end Operation

/-- Operations applied, in order, to every record. -/
structure Query where
  operations : List Operation
deriving Inhabited

/-- The query that lets every record through as it is. -/
def Query.empty : Query := ⟨[]⟩

def Query.same (a b : Query) : Bool := Operation.sameList a.operations b.operations

end LogQuery
