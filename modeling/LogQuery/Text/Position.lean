import LogQuery.Text.Utf8

/-!
# Places in a Text

A reader that works on what is left of a text knows a place by how much of
the text lies behind it. This module turns such a place into a line and a
column. Lines are counted from one and end with a newline; the column is the
number of bytes of the line that lie before the place.

## Main definitions

* `Position`: A line and a column.
* `Position.ofLeft`: The position with a given number of bytes behind it.
-/

namespace LogQuery

/-- A place in a text. -/
structure Position where
  /-- The line, counted from one. -/
  line : Nat
  /-- How many bytes of the line come before the place. -/
  column : Nat
deriving DecidableEq, Repr

/-- The position reached after some bytes. -/
def Position.afterBytes (bytes : Bytes) : Position :=
  { line := bytes.count 0x0a + 1
    column := (bytes.reverse.takeWhile (· != 0x0a)).length }

/-- The position in `text` that has `left` bytes behind it. -/
def Position.ofLeft (text : List Char) (left : Nat) : Position :=
  .afterBytes ((Utf8.encode text).take (Utf8.size text - left))

end LogQuery
