import LogQuery.Query.Basic
import LogQuery.Query.Error
import LogQuery.Json.Reader
import LogQuery.Yaml.Value

/-!
# Queries from JSON

The reader of the JSON form of queries. It accepts the written form and a few
shorter ones: a condition may stand in the body of its `if` under `match`,
either branch may be left out, a `set` without an expression sets the empty
string, and some keys have a second name. It accepts nothing else, and what it
refuses it refuses with the path of the offending place, in the spelling of
the query at hand.

Every reader checks the kind of the value first, then its keys, and then goes
through the parts in the order in which the written form has them.

## Main definitions

* `Query.ofJson`: Reads a query from a tree.
* `Query.ofJsonText`, `Query.ofYamlText`: Read a query from a text.
* `Expression.ofJson`: Reads an expression.
-/

namespace LogQuery

namespace QueryReader

/-- The outcome of reading one part of a query. -/
abbrev Reading (α : Type) := Except QueryError α

/-- Rejects a part of the query. -/
def reject {α : Type} (path : Path) (problem : QueryProblem) : Reading α :=
  .error (.invalidQuery path problem)

def expectObject (path : Path) : Json → Reading (List (String × Json))
  | .object members => .ok members
  | _ => reject path .objectExpected

def expectString (path : Path) : Json → Reading String
  | .string s => .ok s
  | _ => reject path .stringExpected

/-- Rejects the first key that is not among those allowed. -/
def checkKeys (path : Path) (allowed : List String) (members : List (String × Json)) :
    Reading Unit :=
  match members.find? fun member => !allowed.contains member.1 with
  | some member => reject path (.unexpectedKey member.1)
  | none => .ok ()

/-- The only member of an object that has to have exactly one. -/
def singleMember (path : Path) : List (String × Json) → Reading (String × Json)
  | [member] => .ok member
  | [] => reject path .noKey
  | members => reject path (.severalKeys members.length)

/-- Reads the name that an expression is about. -/
def readName (path : Path) (make : String → Expression) (body : Json) : Reading Expression :=
  (expectString path body).map make

def readExpression (path : Path) (json : Json) : Reading Expression := do
  let (tag, body) ← singleMember path (← expectObject path json)
  let inner := path.child tag
  if tag = "record" then
    match body with
    | .null | .object [] => .ok .record
    | _ => reject inner .emptyObjectExpected
  else if tag = "var" ∨ tag = "variable" then readName inner .var body
  else if tag = "lastVarValue" ∨ tag = "lastVariableValue" then
    readName inner .lastVarValue body
  else if tag = "field" then readName inner .field body
  else if tag = "constant" then
    match Value.ofJson? body with
    | some value => .ok (.constant value)
    | none => reject inner .scalarExpected
  else reject path (.unknownExpression tag)

/-- Reads a member that has to be there. -/
def require {α : Type} (path : Path) (members : List (String × Json)) (key : String)
    (missing : QueryProblem) (read : Path → Json → Reading α) : Reading α :=
  match Json.member? key members with
  | some json => read (path.child key) json
  | none => reject path missing

/-- Reads the body of a match. -/
def readMatch (path : Path) (json : Json) : Reading Condition := do
  let members ← expectObject path json
  checkKeys path ["expression", "pattern"] members
  let expression ← require path members "expression" .missingExpression readExpression
  let pattern ← require path members "pattern" .missingPattern expectString
  .ok ⟨expression, pattern⟩

/-- Reads a condition that stands under its own key. -/
def readCondition (path : Path) (json : Json) : Reading Condition := do
  let (tag, body) ← singleMember path (← expectObject path json)
  if tag = "match" then readMatch (path.child "match") body
  else reject path (.unknownCondition tag)

/-- Reads the condition of an `if`, in whichever form it is given. -/
def readEitherCondition (path : Path) (members : List (String × Json)) : Reading Condition :=
  match Json.member? "condition" members, Json.member? "match" members with
  | some condition, none => readCondition (path.child "condition") condition
  | none, some body => readMatch (path.child "match") body
  | some _, some _ => reject path .bothConditions
  | none, none => reject path .missingCondition

/-- Reads the body of a `set`. -/
def readSet (path : Path) (json : Json) : Reading Operation := do
  let members ← expectObject path json
  checkKeys path ["target", "expression"] members
  let target ← require path members "target" .missingTarget expectString
  let expression ←
    match Json.member? "expression" members with
    | some expression => readExpression (path.child "expression") expression
    | none => .ok (.constant (.string ""))
  .ok (.set target expression)

/-- Reads the body of a `skipRecord`. -/
def readSkip (path : Path) (json : Json) : Reading Operation := do
  let members ← expectObject path json
  if members.isEmpty then .ok .skipRecord else reject path .emptyObjectExpected

mutual

def readOperation (path : Path) : Json → Reading Operation
  | .object [(tag, body)] =>
    let inner := path.child tag
    if tag = "if" then readIf inner body
    else if tag = "set" then readSet inner body
    else if tag = "colorBy" then (readExpression inner body).map .colorBy
    else if tag = "skipRecord" ∨ tag = "skip" then readSkip inner body
    else reject path (.unknownOperation tag)
  | .object [] => reject path .noKey
  | .object members => reject path (.severalKeys members.length)
  | _ => reject path .objectExpected

/-- Reads the body of an `if`. -/
def readIf (path : Path) : Json → Reading Operation
  | .object members => do
    checkKeys path ["condition", "match", "then", "else"] members
    let condition ← readEitherCondition path members
    let thenOps ← readBranch path "then" members
    let elseOps ← readBranch path "else" members
    .ok (.branch condition thenOps elseOps)
  | _ => reject path .objectExpected

/-- Reads the operations under a key; a branch that is left out is empty. -/
def readBranch (path : Path) (key : String) : List (String × Json) → Reading (List Operation)
  | [] => .ok []
  | (name, json) :: rest =>
    if name = key then readBranchBody (path.child key) json else readBranch path key rest

/-- Reads the operations of a branch. -/
def readBranchBody (path : Path) : Json → Reading (List Operation)
  | .array items => readOperations path 0 items
  | _ => reject path .operationsExpected

/-- Reads operations, the first of which has the given index. -/
def readOperations (path : Path) (i : Nat) : List Json → Reading (List Operation)
  | [] => .ok []
  | item :: rest => do
    let operation ← readOperation (path.element i) item
    let operations ← readOperations path (i + 1) rest
    .ok (operation :: operations)

end

end QueryReader

open QueryReader in
/-- Reads a query from its JSON form. -/
def Query.ofJson (json : Json) : Except QueryError Query := do
  let members ← expectObject [] json
  checkKeys [] ["operations"] members
  match Json.member? "operations" members with
  | some (.array items) =>
    let operations ← readOperations [.key "operations"] 0 items
    .ok ⟨operations⟩
  | some _ => reject [.key "operations"] .arrayExpected
  | none => reject [] .missingOperations

/-- Reads a query from the text of its JSON form. -/
def Query.ofJsonText (text : String) : Except QueryError Query :=
  match Json.parseText text with
  | .ok json => Query.ofJson json
  | .error detail => QueryReader.reject [] (.malformedJson detail)

/-- Reads a query that stands at the start of a text. What the text says is
    looked at before what follows it, and faults are worded without their
    places. -/
def Query.decode (text : String) : Except String Query := do
  let (json, rest) ← (Json.Reader.value Json.Reader.depthLimit text.toList).mapError
    fun fault => fault.cause.message
  let query ← (Query.ofJson json).mapError QueryError.message
  (Json.Reader.finish rest).mapError fun fault => fault.cause.message
  .ok query

/-- Reads a query from the text of its JSON form written as YAML. -/
def Query.ofYamlText (text : String) : Except QueryError Query :=
  match Yaml.parse? text with
  | some json => Query.ofJson json
  | none => QueryReader.reject [] .malformedYaml

end LogQuery
