import LogQuery.Query.Basic

/-!
# Queries as JSON

The JSON form in which queries are written. Everything is spelled out: a
condition always stands under its own key, both branches are always there,
and a `set` always names its expression. Readers accept more forms than this
one.

## Main definitions

* `Query.toJson`: The JSON form of a query.
* `Expression.toJson`: The JSON form of an expression.
-/

namespace LogQuery

def Expression.toJson (e : Expression) : Json :=
  .object [(e.tag,
    match e with
    | .record => .object []
    | .var name | .lastVarValue name | .field name => .string name
    | .constant value => value.toJson)]

def Condition.toJson (c : Condition) : Json :=
  .object [("match",
    .object [("expression", c.expression.toJson), ("pattern", .string c.pattern)])]

mutual

def Operation.toJson : Operation → Json
  | .branch condition thenOps elseOps =>
    .object [("if", .object
      [("condition", condition.toJson),
       ("then", .array (Operation.listToJson thenOps)),
       ("else", .array (Operation.listToJson elseOps))])]
  | .set target expression =>
    .object [("set", .object
      [("target", .string target), ("expression", expression.toJson)])]
  | .colorBy expression => .object [("colorBy", expression.toJson)]
  | .skipRecord => .object [("skipRecord", .object [])]

def Operation.listToJson : List Operation → List Json
  | [] => []
  | operation :: rest => operation.toJson :: Operation.listToJson rest

end

def Query.toJson (q : Query) : Json :=
  .object [("operations", .array (Operation.listToJson q.operations))]

end LogQuery
