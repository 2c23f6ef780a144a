import LogQuery.Record.Basic
import LogQuery.Json.Basic

/-!
# Flat Records

A record is flat, a JSON object is not. The record of an object has one field
for each scalar in it, named by the keys and indices that lead to the scalar,
with points between them. A container that holds no scalar leaves no trace.

The name grows on the way down: a part of a tree has the name of the tree with
its own key or index behind it. Two scalars can come by the same name only if a
key holds a point, and then the later one wins.

## Main definitions

* `Json.fields`: The scalars of a tree under their names, in order.
* `LogRecord.flatten`: The record of an object.
-/

namespace LogQuery

namespace Json

mutual

/-- The fields of a tree that has a name: its scalars, in the order of the text. -/
def fields (name : String) : Json → List (String × Value)
  | .null => [(name, .absent)]
  | .bool b => [(name, .boolean b)]
  | .number n => [(name, .number n)]
  | .string s => [(name, .string s)]
  | .array items => fieldsOfItems name 0 items
  | .object members => fieldsOfMembers name members

/-- The fields of the elements of an array, the first of which has the given
    index. -/
def fieldsOfItems (name : String) (i : Nat) : List Json → List (String × Value)
  | [] => []
  | item :: rest =>
    fields (name ++ "." ++ String.ofList (decimalDigits i)) item ++
      fieldsOfItems name (i + 1) rest

/-- The fields of the members of an object. -/
def fieldsOfMembers (name : String) : List (String × Json) → List (String × Value)
  | [] => []
  | (key, member) :: rest =>
    fields (name ++ "." ++ key) member ++ fieldsOfMembers name rest

end

end Json

/-- The record of an object with the given members. The object itself has no name, so
    the name of a member is its key. -/
def LogRecord.flatten (members : List (String × Json)) : LogRecord :=
  .ofFields (members.flatMap fun member => member.2.fields member.1)

end LogQuery
