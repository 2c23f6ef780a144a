import LogQuery.Json.Basic
import LogQuery.Number.Literal

/-!
# Values

What a field or a variable holds: a scalar, or nothing. Values are the scalars
of JSON with `null` for nothing, so `Value.toJson` and `Value.ofJson?` are
inverse to each other on them.

One rule turns a value into text, and matching, coloring and output all use
it: a string is its own text, numbers and truth values have their canonical
text, and nothing is the empty text.

## Main definitions

* `Value`: A scalar or nothing.
* `Value.text`: The text of a value.
* `Value.toJson`, `Value.ofJson?`: The JSON scalar of a value, and back.
-/

namespace LogQuery

/-- A scalar or nothing. -/
inductive Value where
  | absent
  | boolean (value : Bool)
  | number (value : Number)
  | string (value : String)
deriving DecidableEq

namespace Value

instance : Inhabited Value := ⟨absent⟩

/-- The text that stands for a value everywhere. -/
def text : Value → String
  | absent => ""
  | boolean true => "true"
  | boolean false => "false"
  | number value => value.text
  | string value => value

def isAbsent : Value → Bool
  | absent => true
  | _ => false

def toJson : Value → Json
  | absent => .null
  | boolean value => .bool value
  | number value => .number value
  | string value => .string value

/-- Arrays and objects are not values. -/
def ofJson? : Json → Option Value
  | .null => some absent
  | .bool value => some (boolean value)
  | .number value => some (number value)
  | .string value => some (string value)
  | .array _ | .object _ => none

/-- A real number as a value. One that is not finite is nothing, because it
    has no JSON form. -/
def ofReal (value : RealText) : Value :=
  match value.finite? with
  | some x => number (.real x)
  | none => absent

/-- Equality of values, under which the two real zeros agree. -/
def same : Value → Value → Bool
  | absent, absent => true
  | boolean a, boolean b => a == b
  | number a, number b => a.same b
  | string a, string b => a == b
  | _, _ => false

theorem toJson_of_ofJson? {j : Json} {v : Value} (h : ofJson? j = some v) : v.toJson = j := by
  cases j <;> simp only [ofJson?, Option.some.injEq, reduceCtorEq] at h <;> subst h <;> rfl

end Value

end LogQuery
