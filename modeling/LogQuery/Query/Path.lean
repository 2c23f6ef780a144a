import LogQuery.Number.Basic

/-!
# Paths into a Query

Errors name the place they are about by a path from the root of the JSON form
of the query: the keys and indices that lead there. A key is written as it
stands, so a path is made to be read and not to be parsed.

## Main definitions

* `Path`: Keys and indices, outermost first.
* `Path.text`: The written form of a path.
-/

namespace LogQuery

/-- One step into a JSON value. -/
inductive Segment where
  | key (name : String)
  | index (i : Nat)
deriving DecidableEq

/-- Keys and indices, outermost first. -/
abbrev Path := List Segment

namespace Path

/-- The place of a key below a place. -/
def child (path : Path) (name : String) : Path := path ++ [.key name]

/-- The place of an element below a place. -/
def element (path : Path) (i : Nat) : Path := path ++ [.index i]

/-- What a step adds to a path that is not empty. -/
def segmentText : Segment → String
  | .key name => "." ++ name
  | .index i => "[" ++ String.ofList (decimalDigits i) ++ "]"

/-- The written form. The root is the query itself, and the first key needs no
    point before it. -/
def text : Path → String
  | [] => "query"
  | .key name :: rest => name ++ String.join (rest.map segmentText)
  | .index i :: rest => String.join ((.index i :: rest).map segmentText)

end Path

end LogQuery
