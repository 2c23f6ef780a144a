import LogQuery.Record.Basic
import LogQuery.Json.Printer

/-!
# Records as JSON

The JSON form of records. A record leaves out its line if it has none and its
fields if there are none. An output record is the members of its record,
followed by the color, which is `null` when there is none, and the variables
unless there are none.

## Main definitions

* `LogRecord.toJson`, `OutputRecord.toJson`, `Results.toJson`: The JSON forms.
* `bindingsJson`: Bindings as an object.
-/

namespace LogQuery

/-- Bindings as the members of an object, in order. -/
def bindingsMembers (b : Bindings Value) : List (String × Json) :=
  b.entries.map fun entry => (entry.1, entry.2.toJson)

/-- Bindings as an object. -/
def bindingsJson (b : Bindings Value) : Json := .object (bindingsMembers b)

/-- A member whose value is an object of bindings, unless there are none. -/
def optionalMember (key : String) (b : Bindings Value) : List (String × Json) :=
  if b.isEmpty then [] else [(key, bindingsJson b)]

/-- The members of a record. -/
def LogRecord.members (r : LogRecord) : List (String × Json) :=
  (match r.text with
    | some text => [("text", .string text)]
    | none => []) ++ optionalMember "fields" r.fields

def LogRecord.toJson (r : LogRecord) : Json := .object r.members

/-- The color tag of an output record; it is written even if there is none. -/
def OutputRecord.colorJson (o : OutputRecord) : Json :=
  match o.color with
  | some color => .string color
  | none => .null

def OutputRecord.toJson (o : OutputRecord) : Json :=
  .object (o.record.members ++ ("color", o.colorJson) :: optionalMember "variables" o.vars)

def Results.toJson (r : Results) : Json :=
  .object [("records", .array (r.records.map OutputRecord.toJson))]

end LogQuery
