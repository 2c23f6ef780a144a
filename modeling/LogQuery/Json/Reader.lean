import LogQuery.Json.Basic
import LogQuery.Json.Fault
import LogQuery.Number.Literal

/-!
# Reading JSON

Readers take what is left of a text and return a result with what is left
behind it. They are strict: no trailing comma, no lone surrogate, no leading
zero, and at most 127 arrays and objects inside one another. That limit is
the argument on which `value` recurses, so nesting needs no other bound; the
loops over items and characters recurse on a bound that the length of the
text provides.

A repeated key keeps its first place and takes its last value.

Loops over the items of an array and the members of an object take the reader
of one item or member as an argument. A reader of a fixed shape passes its own
and so reads the text in one go, in the order in which it is written; its
errors may be of a wider type than the faults of JSON.

## Main definitions

* `Json.Reader`: A reader of one thing.
* `Json.Reader.string`, `Json.Reader.number`: Readers of scalars.
* `Json.Reader.items`, `Json.Reader.members`: Readers of arrays and objects.
* `Json.Reader.value`: The reader of a value, with the nesting it may use.
* `Json.parse`: Reads a whole text.
-/

namespace LogQuery

namespace Json

/-- Reads one thing from the front of a text. -/
abbrev Reader (α : Type) (ε : Type := Fault) := List Char → Except ε (α × List Char)

namespace Reader

/-- The blanks of JSON. -/
def isSpace (c : Char) : Bool := c == ' ' || c == '\n' || c == '\t' || c == '\r'

def skipSpace (cs : List Char) : List Char := cs.dropWhile isSpace

/-- Reads the characters of a word. -/
def word : List Char → Reader Unit
  | [], cs => .ok ((), cs)
  | _ :: _, [] => .error (.here .endInValue [])
  | expected :: more, c :: rest =>
    if c = expected then word more rest else .error (.beyond .identExpected (c :: rest))

/-! ### Strings -/

/-- The value of a hexadecimal digit. -/
def hexValue? (c : Char) : Option Nat :=
  if '0' ≤ c ∧ c ≤ '9' then some (c.toNat - '0'.toNat)
  else if 'a' ≤ c ∧ c ≤ 'f' then some (c.toNat - 'a'.toNat + 10)
  else if 'A' ≤ c ∧ c ≤ 'F' then some (c.toNat - 'A'.toNat + 10)
  else none

/-- The value of four hexadecimal digits. -/
def hexValues? (a b c d : Char) : Option Nat :=
  match hexValue? a, hexValue? b, hexValue? c, hexValue? d with
  | some a, some b, some c, some d => some (((a * 16 + b) * 16 + c) * 16 + d)
  | _, _, _, _ => none

/-- Four hexadecimal digits. Anything else in the next four bytes is a fault
    behind them. -/
def fourHex (cs : List Char) : Except Fault (Nat × List Char) :=
  let fault : Fault :=
    if Utf8.size cs < 4 then .here .endInString [] else ⟨.invalidEscape, Utf8.size cs - 4⟩
  match cs with
  | a :: b :: c :: d :: rest =>
    match hexValues? a b c d with
    | some n => .ok (n, rest)
    | none => .error fault
  | _ => .error fault

/-- The second half of a surrogate pair, whose first half is `high`. -/
def lowSurrogate (high : Nat) : Reader Char
  | [] => .error (.here .endInString [])
  | '\\' :: [] => .error (.here .endInString [])
  | '\\' :: 'u' :: cs => do
    let (low, rest) ← fourHex cs
    if 0xdc00 ≤ low ∧ low ≤ 0xdfff then
      .ok (Char.ofNat (0x10000 + (high - 0xd800) * 0x400 + (low - 0xdc00)), rest)
    else .error (.here .loneSurrogate rest)
  | '\\' :: cs => .error (.beyond .hexEscapeCutShort cs)
  | cs => .error (.beyond .hexEscapeCutShort cs)

/-- A character written as `\u` and four digits, or as two such. -/
def unicodeEscape (cs : List Char) : Except Fault (Char × List Char) := do
  let (n, rest) ← fourHex cs
  if 0xdc00 ≤ n ∧ n ≤ 0xdfff then .error (.here .loneSurrogate rest)
  else if 0xd800 ≤ n ∧ n ≤ 0xdbff then lowSurrogate n rest
  else .ok (Char.ofNat n, rest)

/-- What stands behind a backslash. -/
def escape : Reader Char
  | [] => .error (.here .endInString [])
  | c :: rest =>
    if c = '"' ∨ c = '\\' ∨ c = '/' then .ok (c, rest)
    else if c = 'b' then .ok ('\x08', rest)
    else if c = 'f' then .ok ('\x0c', rest)
    else if c = 'n' then .ok ('\n', rest)
    else if c = 'r' then .ok ('\r', rest)
    else if c = 't' then .ok ('\t', rest)
    else if c = 'u' then unicodeEscape rest
    else .error (.beyond .invalidEscape (c :: rest))

/-- The characters of a string up to its closing quote. Each step takes at
    least one character, so the length of the text bounds the steps. -/
def stringChars : Nat → List Char → Reader (List Char)
  | _, _, [] => .error (.here .endInString [])
  | 0, _, cs => .error (.here .endInString cs)
  | steps + 1, before, c :: rest =>
    if c = '"' then .ok (before.reverse, rest)
    else if c = '\\' then
      match escape rest with
      | .ok (c, rest) => stringChars steps (c :: before) rest
      | .error fault => .error fault
    else if c.toNat < 0x20 then .error (.beyond .controlCharacter (c :: rest))
    else stringChars steps (c :: before) rest

/-- A string, from behind its opening quote. -/
def string (cs : List Char) : Except Fault (String × List Char) :=
  (stringChars cs.length [] cs).map fun (chars, rest) => (String.ofList chars, rest)

/-! ### Numbers -/

/-- Appends digits to a number while it stays below a limit; also returns the
    digits that are left. -/
def absorb (limit : Nat) : Nat → List Char → Nat × List Char
  | n, [] => (n, [])
  | n, c :: rest =>
    let next := n * 10 + (c.toNat - '0'.toNat)
    if next < limit then absorb limit next rest else (n, c :: rest)

/-- The digits at the front of a text, and the rest. -/
def digits (cs : List Char) : List Char × List Char :=
  (cs.takeWhile Char.isDigit, cs.dropWhile Char.isDigit)

/-- The real with these parts; `rest` is the text behind the literal. -/
def realOfParts (negative : Bool) (significand : Nat) (exponent : Int) : Reader Number :=
  fun rest =>
    match Binary64.scaled? negative significand exponent with
    | some value => .ok (.real value, rest)
    | none => .error (.here .numberOutOfRange rest)

/-- The rest of a number from behind its exponent mark. An exponent of more
    than 31 bits needs no value: it decides the number alone. -/
def exponentPart (negative : Bool) (significand : Nat) (start : Int) (cs : List Char) :
    Except Fault (Number × List Char) :=
  let (minus, cs) :=
    match cs with
    | '+' :: rest => (false, rest)
    | '-' :: rest => (true, rest)
    | _ => (false, cs)
  match digits cs with
  | ([], []) => .error (.here .endInValue [])
  | ([], _) => .error (.beyond .invalidNumber cs)
  | (ds, rest) =>
    match absorb 0x80000000 0 ds with
    | (n, []) =>
      realOfParts negative significand (if minus then start - n else start + n) rest
    | (_, _ :: more) =>
      if significand ≠ 0 ∧ ¬ minus then .error (.here .numberOutOfRange (more ++ rest))
      else .ok (.real (.zero negative), rest)

/-- The rest of a number from behind its point. Digits that do not fit the
    significand are dropped. -/
def fractionPart (negative : Bool) (significand : Nat) (start : Int) (cs : List Char) :
    Except Fault (Number × List Char) :=
  match digits cs with
  | ([], []) => .error (.here .endInValue [])
  | ([], rest) => .error (.beyond .invalidNumber rest)
  | (ds, rest) =>
    let (significand, dropped) := absorb 0x10000000000000000 significand ds
    let exponent := start - (ds.length - dropped.length : Nat)
    match rest with
    | 'e' :: rest | 'E' :: rest => exponentPart negative significand exponent rest
    | _ => realOfParts negative significand exponent rest

/-- An integer literal. Zero with a sign and integers of more than 64 bits are
    reals. -/
def integerValue (negative : Bool) (n : Nat) : Number :=
  if negative && n == 0 then .real (.zero true)
  else
    match Number.ofInt? (if negative then -(n : Int) else n) with
    | some exact => exact
    | none => .real ((Binary64.ofNat? negative n).getD (.zero negative))

/-- A number from behind its sign. -/
def unsignedNumber (negative : Bool) (cs : List Char) : Except Fault (Number × List Char) :=
  match digits cs with
  | ([], []) => .error (.here .endInValue [])
  | ([], _) => .error (.beyond .invalidNumber cs)
  | ('0' :: more, rest) =>
    match more with
    | [] => behindInteger 0 0 rest
    | _ => .error (.beyond .invalidNumber (more ++ rest))
  | (ds, rest) =>
    let (significand, dropped) := absorb 0x10000000000000000 0 ds
    behindInteger significand dropped.length rest
where
  /-- Goes on behind the whole digits, of which `dropped` did not fit. -/
  behindInteger (significand dropped : Nat) : Reader Number
    | '.' :: rest => fractionPart negative significand dropped rest
    | 'e' :: rest | 'E' :: rest => exponentPart negative significand dropped rest
    | rest =>
      if dropped = 0 then .ok (integerValue negative significand, rest)
      else realOfParts negative significand dropped rest

/-- A number. -/
def number : Reader Number
  | '-' :: rest => unsignedNumber true rest
  | cs => unsignedNumber false cs

/-! ### Arrays and objects -/

/-- What follows inside an array or object. -/
inductive Next where
  /-- Another item or member, which starts here. -/
  | more (start : List Char)
  /-- The closing bracket, and what is behind it. -/
  | close (rest : List Char)

/-- Looks for the next item of an array. All but the first follow a comma. -/
def nextItem (first : Bool) (cs : List Char) : Except Fault Next :=
  match skipSpace cs with
  | [] => .error (.beyond .endInList [])
  | c :: rest =>
    if c = ']' then .ok (.close rest)
    else if first then .ok (.more (c :: rest))
    else if c = ',' then
      match skipSpace rest with
      | [] => .error (.beyond .endInValue [])
      | d :: rest =>
        if d = ']' then .error (.beyond .trailingComma (d :: rest)) else .ok (.more (d :: rest))
    else .error (.beyond .listCommaOrEndExpected (c :: rest))

/-- Looks for the next member of an object; the text goes on behind the
    opening quote of its key. -/
def nextMember (first : Bool) (cs : List Char) : Except Fault Next :=
  match skipSpace cs with
  | [] => .error (.beyond .endInObject [])
  | c :: rest =>
    if c = '\x7d' then .ok (.close rest)
    else if first then
      if c = '"' then .ok (.more rest) else .error (.beyond .keyNotString (c :: rest))
    else if c = ',' then
      match skipSpace rest with
      | [] => .error (.beyond .endInValue [])
      | d :: rest =>
        if d = '"' then .ok (.more rest)
        else if d = '\x7d' then .error (.beyond .trailingComma (d :: rest))
        else .error (.beyond .keyNotString (d :: rest))
    else .error (.beyond .objectCommaOrEndExpected (c :: rest))

/-- The colon behind a key. -/
def colon (cs : List Char) : Except Fault (List Char) :=
  match skipSpace cs with
  | [] => .error (.beyond .endInObject [])
  | c :: rest => if c = ':' then .ok rest else .error (.beyond .colonExpected (c :: rest))

section Loops

variable {α ε : Type} (syntaxError : Fault → ε)

/-- Reads items until the bracket closes. Every item takes at least one
    character, so the length of the text bounds the steps. -/
def itemsFrom (item : Reader α ε) : Nat → List α → Reader (List α) ε
  | 0, _, cs => .error (syntaxError (.beyond .endInList cs))
  | steps + 1, before, cs =>
    match nextItem before.isEmpty cs with
    | .error fault => .error (syntaxError fault)
    | .ok (.close rest) => .ok (before.reverse, rest)
    | .ok (.more start) =>
      match item start with
      | .error e => .error e
      | .ok (a, rest) => itemsFrom item steps (a :: before) rest

/-- The items of an array, from behind its opening bracket. -/
def items (item : Reader α ε) : Reader (List α) ε :=
  fun cs => itemsFrom syntaxError item (cs.length + 1) [] cs

/-- Reads members until the brace closes. -/
def membersFrom (member : String → α → Reader α ε) : Nat → Bool → α → Reader α ε
  | 0, _, _, cs => .error (syntaxError (.beyond .endInObject cs))
  | steps + 1, first, state, cs =>
    match nextMember first cs with
    | .error fault => .error (syntaxError fault)
    | .ok (.close rest) => .ok (state, rest)
    | .ok (.more start) =>
      match string start with
      | .error fault => .error (syntaxError fault)
      | .ok (key, rest) =>
        match member key state rest with
        | .error e => .error e
        | .ok (state, rest) => membersFrom member steps false state rest

/-- The members of an object, from behind its opening brace. The reader of a
    member goes on behind the key, and so meets the colon. -/
def members (member : String → α → Reader α ε) (start : α) : Reader α ε :=
  fun cs => membersFrom syntaxError member (cs.length + 1) true start cs

end Loops

/-! ### Values -/

/-- A scalar, from its first character. -/
def scalar : Reader Json
  | [] => .error (.beyond .endInValue [])
  | c :: rest =>
    if c = 'n' then (word ['u', 'l', 'l'] rest).map fun (_, rest) => (.null, rest)
    else if c = 't' then (word ['r', 'u', 'e'] rest).map fun (_, rest) => (.bool true, rest)
    else if c = 'f' then
      (word ['a', 'l', 's', 'e'] rest).map fun (_, rest) => (.bool false, rest)
    else if c = '"' then (string rest).map fun (s, rest) => (.string s, rest)
    else if c = '-' ∨ c.isDigit then
      (number (c :: rest)).map fun (n, rest) => (.number n, rest)
    else .error (.beyond .valueExpected (c :: rest))

/-- Adds a member with a generic value to those already read. -/
def anyMember (item : Reader Json) (key : String) (before : List (String × Json)) :
    Reader (List (String × Json)) :=
  fun cs => do
    let rest ← colon cs
    let (value, rest) ← item rest
    .ok (setEntry key value before, rest)

/-- A value that may nest arrays and objects `depth` deep. -/
def value : Nat → Reader Json
  | 0, cs =>
    match skipSpace cs with
    | [] => .error (.beyond .endInValue [])
    | c :: rest =>
      if c = '[' ∨ c = '\x7b' then .error (.beyond .nestedTooDeeply (c :: rest))
      else scalar (c :: rest)
  | depth + 1, cs =>
    match skipSpace cs with
    | [] => .error (.beyond .endInValue [])
    | c :: rest =>
      if c = '[' then
        (items id (value depth) rest).map fun (items, rest) => (.array items, rest)
      else if c = '\x7b' then
        (members id (anyMember (value depth)) [] rest).map fun (members, rest) =>
          (.object members, rest)
      else scalar (c :: rest)

/-- How deep arrays and objects may nest. -/
def depthLimit : Nat := 127

/-- Nothing but blanks may follow. -/
def finish (cs : List Char) : Except Fault Unit :=
  match skipSpace cs with
  | [] => .ok ()
  | rest => .error (.beyond .trailingCharacters rest)

end Reader

/-- Reads a whole text as one value. -/
def parse (text : List Char) : Except Fault Json := do
  let (json, rest) ← Reader.value Reader.depthLimit text
  Reader.finish rest
  .ok json

/-- Reads a whole text as one value, or words the fault in it. -/
def parseText (text : String) : Except String Json :=
  match parse text.toList with
  | .ok json => .ok json
  | .error fault => .error (fault.message text.toList)

end Json

end LogQuery
