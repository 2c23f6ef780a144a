import LogQuery.Json.Reader

/-!
# Skipping a Value

A reader of a fixed shape passes over members that it does not know. Passing
over a value is more lenient than reading it: the text need only be well
formed. A number may be out of range, an escape may be half of a surrogate
pair, and nesting has no limit, so the open arrays and objects are kept on an
explicit stack and not in the recursion. It also words some faults in its own
way, because it looks for the next item without knowing that one must come.

## Main definitions

* `Json.Reader.skipString`, `Json.Reader.skipNumber`: Pass over scalars.
* `Json.Reader.skip`: Passes over a value.
-/

namespace LogQuery

namespace Json

namespace Reader

/-- Passes over a string from behind its opening quote. -/
def skipChars : Nat → List Char → Except Fault (List Char)
  | _, [] => .error (.here .endInString [])
  | 0, cs => .error (.here .endInString cs)
  | steps + 1, c :: rest =>
    if c = '"' then .ok rest
    else if c = '\\' then
      match rest with
      | [] => .error (.here .endInString [])
      | 'u' :: more =>
        match fourHex more with
        | .ok (_, rest) => skipChars steps rest
        | .error fault => .error fault
      | d :: more =>
        if ['"', '\\', '/', 'b', 'f', 'n', 'r', 't'].contains d then skipChars steps more
        else .error (.beyond .invalidEscape (d :: more))
    else if c.toNat < 0x20 then .error (.beyond .controlCharacter (c :: rest))
    else skipChars steps rest

def skipString (cs : List Char) : Except Fault (List Char) := skipChars cs.length cs

/-- Passes over an exponent from behind its mark. -/
def skipExponent (cs : List Char) : Except Fault (List Char) :=
  let cs :=
    match cs with
    | '+' :: rest | '-' :: rest => rest
    | _ => cs
  match digits cs with
  | ([], _) => .error (.beyond .invalidNumber cs)
  | (_, rest) => .ok rest

/-- Passes over a number from behind its sign. -/
def skipNumber (cs : List Char) : Except Fault (List Char) :=
  match digits cs with
  | ([], _) => .error (.beyond .invalidNumber cs)
  | ('0' :: more@(_ :: _), rest) => .error (.beyond .invalidNumber (more ++ rest))
  | (_, '.' :: rest) =>
    match digits rest with
    | ([], rest) => .error (.beyond .invalidNumber rest)
    | (_, 'e' :: rest) | (_, 'E' :: rest) => skipExponent rest
    | (_, rest) => .ok rest
  | (_, 'e' :: rest) | (_, 'E' :: rest) => skipExponent rest
  | (_, rest) => .ok rest

/-- Passes over a scalar from its first character. -/
def skipScalar : List Char → Except Fault (List Char)
  | [] => .error (.beyond .endInValue [])
  | c :: rest =>
    if c = 'n' then (word ['u', 'l', 'l'] rest).map Prod.snd
    else if c = 't' then (word ['r', 'u', 'e'] rest).map Prod.snd
    else if c = 'f' then (word ['a', 'l', 's', 'e'] rest).map Prod.snd
    else if c = '"' then skipString rest
    else if c = '-' then skipNumber rest
    else if c.isDigit then skipNumber (c :: rest)
    else .error (.beyond .valueExpected (c :: rest))

/-- An array or object that is open. -/
inductive Frame where
  | list
  | object
deriving DecidableEq

/-- The character that closes a frame. -/
def Frame.closing : Frame → Char
  | list => ']'
  | object => '\x7d'

/-- The fault when the text ends inside a frame. -/
def Frame.endCause : Frame → Cause
  | list => .endInList
  | object => .endInObject

/-- The fault when neither a comma nor the end of a frame follows. -/
def Frame.commaCause : Frame → Cause
  | list => .listCommaOrEndExpected
  | object => .objectCommaOrEndExpected

/-- What has to come next. -/
inductive Expecting where
  | value
  /-- The first item of the innermost frame, or its end. -/
  | firstItem
  /-- An item of the innermost frame. -/
  | item
  /-- A comma or the end of the innermost frame. -/
  | commaOrEnd

/-- Goes on until the outermost value ends. Between two steps that take a
    character there are at most two that take none. -/
def skipFrom : Nat → List Frame → Expecting → List Char → Except Fault (List Char)
  | 0, _, _, cs => .error (.beyond .endInValue cs)
  | steps + 1, stack, .value, cs =>
    match skipSpace cs with
    | '[' :: rest => skipFrom steps (.list :: stack) .firstItem rest
    | '\x7b' :: rest => skipFrom steps (.object :: stack) .firstItem rest
    | cs =>
      match skipScalar cs with
      | .ok rest => skipFrom steps stack .commaOrEnd rest
      | .error fault => .error fault
  | _, [], _, cs => .ok cs
  | steps + 1, frame :: stack, .firstItem, cs =>
    match skipSpace cs with
    | [] => .error (.beyond frame.endCause [])
    | c :: rest =>
      if c = frame.closing then skipFrom steps stack .commaOrEnd rest
      else skipFrom steps (frame :: stack) .item (c :: rest)
  | steps + 1, .list :: stack, .item, cs => skipFrom steps (.list :: stack) .value cs
  | steps + 1, .object :: stack, .item, cs =>
    match skipSpace cs with
    | [] => .error (.beyond .endInObject [])
    | c :: rest =>
      if c = '"' then
        match skipString rest with
        | .error fault => .error fault
        | .ok rest =>
          match colon rest with
          | .error fault => .error fault
          | .ok rest => skipFrom steps (.object :: stack) .value rest
      else .error (.beyond .keyNotString (c :: rest))
  | steps + 1, frame :: stack, .commaOrEnd, cs =>
    match skipSpace cs with
    | [] => .error (.beyond frame.endCause [])
    | c :: rest =>
      if c = ',' then skipFrom steps (frame :: stack) .item rest
      else if c = frame.closing then skipFrom steps stack .commaOrEnd rest
      else .error (.beyond frame.commaCause (c :: rest))

/-- Passes over one value. -/
def skip (cs : List Char) : Except Fault (List Char) :=
  skipFrom (3 * cs.length + 3) [] .value cs

end Reader

end Json

end LogQuery
