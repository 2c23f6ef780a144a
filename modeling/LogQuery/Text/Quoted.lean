import LogQuery.Unicode.Property

/-!
# Quoted Texts

Names and patterns are quoted in messages so that nothing in them is lost to
the eye. A character that has no visible form, or that would attach itself to
the one before it, is written with its code point.

## Main definitions

* `quoted`: A text with its quotes.
-/

namespace LogQuery

/-- The lower-case hexadecimal digits of a number. -/
def hexDigits (n : Nat) : List Char := Nat.toDigits 16 n

/-- What a character becomes inside a quoted text. -/
def quoteChar (c : Char) : List Char :=
  if c = '\x00' then ['\\', '0']
  else if c = '\t' then ['\\', 't']
  else if c = '\r' then ['\\', 'r']
  else if c = '\n' then ['\\', 'n']
  else if c = '"' then ['\\', '"']
  else if c = '\\' then ['\\', '\\']
  else if 0x20 ≤ c.toNat ∧ c.toNat < 0x7f then [c]
  else if Unicode.graphemeExtendRanges.contains c.toNat || !Unicode.isVisible c then
    ['\\', 'u', '\x7b'] ++ hexDigits c.toNat ++ ['\x7d']
  else [c]

/-- A text in quotes, with everything written out that could be overlooked. -/
def quoted (s : String) : String :=
  String.ofList ('"' :: (s.toList.flatMap quoteChar ++ ['"']))

end LogQuery
