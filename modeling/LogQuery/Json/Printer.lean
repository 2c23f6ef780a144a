import LogQuery.Json.Basic

/-!
# Printing JSON

Two layouts of the same tree: compact, without any space, and indented by two
spaces with one item or member a line. Strings are written with the fewest
escapes that JSON allows: only the quote, the backslash and the control
characters below space are escaped.

## Main definitions

* `Json.write`: The characters of the compact layout.
* `Json.compact`: The compact text.
* `Json.indented`: The indented text.
-/

namespace LogQuery

namespace Json

/-- The lower-case hexadecimal digit for a number below sixteen. -/
def hexDigit (n : Nat) : Char := Nat.digitChar n

/-- What a character becomes inside a string. -/
def escapeChar (c : Char) : List Char :=
  if c = '"' then ['\\', '"']
  else if c = '\\' then ['\\', '\\']
  else if c = '\x08' then ['\\', 'b']
  else if c = '\x0c' then ['\\', 'f']
  else if c = '\n' then ['\\', 'n']
  else if c = '\r' then ['\\', 'r']
  else if c = '\t' then ['\\', 't']
  else if c.toNat < 0x20 then
    ['\\', 'u', '0', '0', hexDigit (c.toNat / 16), hexDigit (c.toNat % 16)]
  else [c]

/-- A string with its quotes. -/
def writeString (s : String) : List Char :=
  '"' :: (s.toList.flatMap escapeChar ++ ['"'])

mutual

/-- The compact layout. -/
def write : Json → List Char
  | .null => ['n', 'u', 'l', 'l']
  | .bool true => ['t', 'r', 'u', 'e']
  | .bool false => ['f', 'a', 'l', 's', 'e']
  | .number value => value.text.toList
  | .string value => writeString value
  | .array [] => ['[', ']']
  | .array (item :: rest) => '[' :: (write item ++ writeItems rest)
  | .object [] => ['\x7b', '\x7d']
  | .object ((key, value) :: rest) =>
    '\x7b' :: (writeString key ++ ':' :: (write value ++ writeMembers rest))

/-- The items after the first, and the closing bracket. -/
def writeItems : List Json → List Char
  | [] => [']']
  | item :: rest => ',' :: (write item ++ writeItems rest)

/-- The members after the first, and the closing brace. -/
def writeMembers : List (String × Json) → List Char
  | [] => ['\x7d']
  | (key, value) :: rest =>
    ',' :: (writeString key ++ ':' :: (write value ++ writeMembers rest))

end

/-- The compact text. -/
def compact (json : Json) : String := String.ofList (write json)

/-- A new line, indented. -/
def newline (depth : Nat) : List Char := '\n' :: List.replicate (2 * depth) ' '

mutual

/-- The indented layout of a value that stands at a depth. -/
def layOut (depth : Nat) : Json → List Char
  | .array (item :: rest) =>
    '[' :: (newline (depth + 1) ++ (layOut (depth + 1) item ++ layOutItems depth rest))
  | .object ((key, value) :: rest) =>
    '\x7b' :: (newline (depth + 1) ++ (writeString key ++
      ':' :: ' ' :: (layOut (depth + 1) value ++ layOutMembers depth rest)))
  | .array [] => ['[', ']']
  | .object [] => ['\x7b', '\x7d']
  | .null => write .null
  | .bool value => write (.bool value)
  | .number value => write (.number value)
  | .string value => write (.string value)

def layOutItems (depth : Nat) : List Json → List Char
  | [] => newline depth ++ [']']
  | item :: rest =>
    ',' :: (newline (depth + 1) ++ (layOut (depth + 1) item ++ layOutItems depth rest))

def layOutMembers (depth : Nat) : List (String × Json) → List Char
  | [] => newline depth ++ ['\x7d']
  | (key, value) :: rest =>
    ',' :: (newline (depth + 1) ++ (writeString key ++
      ':' :: ' ' :: (layOut (depth + 1) value ++ layOutMembers depth rest)))

end

/-- The indented text. -/
def indented (json : Json) : String := String.ofList (layOut 0 json)

end Json

end LogQuery
