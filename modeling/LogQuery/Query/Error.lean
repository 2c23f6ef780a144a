import LogQuery.Query.Path
import LogQuery.Text.Quoted

/-!
# Errors in Queries

A query is rejected before any record is looked at. Either its JSON form is
not that of a query, or it names nothing where a name is needed, or a pattern
is not a regular expression. Each error carries the path of the place it is
about.

What is wrong with a text that is not JSON is part of the error. What is wrong
with one that is not YAML, and with a pattern, is left out: the program shows the
diagnosis of the library that refuses the text behind the message, and here the
message ends before it.

## Main definitions

* `QueryProblem`: What is wrong with the form of a query.
* `QueryError`: A problem or a bad pattern, with its place.
* `QueryError.message`: The wording of an error.
-/

namespace LogQuery

/-- What is wrong with the form of a query. -/
inductive QueryProblem where
  | objectExpected
  | stringExpected
  | unexpectedKey (key : String)
  | noKey
  | severalKeys (count : Nat)
  | missingOperations
  | arrayExpected
  | operationsExpected
  | unknownOperation (tag : String)
  | emptyObjectExpected
  | bothConditions
  | missingCondition
  | unknownCondition (tag : String)
  | missingExpression
  | missingPattern
  | missingTarget
  | unknownExpression (tag : String)
  | scalarExpected
  | emptyTarget
  | emptyName
  /-- The text is not JSON; the detail says where and why. -/
  | malformedJson (detail : String)
  /-- The text is not YAML. The diagnosis of the library is left out. -/
  | malformedYaml
deriving DecidableEq

def QueryProblem.message : QueryProblem → String
  | objectExpected => "expected an object"
  | stringExpected => "expected a string"
  | unexpectedKey key => "unexpected key " ++ quoted key
  | noKey => "expected exactly one key, found none"
  | severalKeys count => "expected exactly one key, found " ++ toString count
  | missingOperations => "missing key \"operations\""
  | arrayExpected => "expected an array"
  | operationsExpected => "expected an array of operations"
  | unknownOperation tag => "unknown operation " ++ quoted tag
  | emptyObjectExpected => "expected an empty object"
  | bothConditions => "use either \"condition\" or \"match\", not both"
  | missingCondition => "missing condition"
  | unknownCondition tag => "unknown condition " ++ quoted tag
  | missingExpression => "missing expression"
  | missingPattern => "missing pattern"
  | missingTarget => "missing target"
  | unknownExpression tag => "unknown expression " ++ quoted tag
  | scalarExpected => "expected a string, number, boolean or null"
  | emptyTarget => "target must not be empty"
  | emptyName => "name must not be empty"
  | malformedJson detail => "malformed JSON: " ++ detail
  | malformedYaml => "malformed YAML"

/-- Why a query is rejected, and where. A bad pattern is one way in which a
    query is invalid. -/
inductive QueryError where
  | invalidQuery (path : Path) (problem : QueryProblem)
  | invalidPattern (path : Path) (pattern : String)
deriving DecidableEq

namespace QueryError

def path : QueryError → Path
  | invalidQuery path _ => path
  | invalidPattern path _ => path

/-- What is shown of an error, up to the diagnosis of the library that refuses a pattern
    or a YAML text. -/
def message : QueryError → String
  | invalidQuery path problem => "Invalid query at " ++ path.text ++ ": " ++ problem.message
  | invalidPattern path pattern => "Invalid pattern " ++ quoted pattern ++ " at " ++ path.text

/-- The name of the kind of an error. -/
def kind : QueryError → String
  | invalidQuery .. => "invalidQuery"
  | invalidPattern .. => "invalidPattern"

end QueryError

end LogQuery
