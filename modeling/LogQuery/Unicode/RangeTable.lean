/-!
# Tables of Code Point Ranges

A property of characters is a list of ranges of code points in ascending
order. Tables are kept as text, since a list of some thousand pairs is slow to
elaborate and hard to read. An entry gives, in hexadecimal, how far the range
starts behind the end of the range before it and, after a plus sign, how many
more code points it has; entries are separated by blanks.

## Main definitions

* `Unicode.Ranges`: Ranges of code points, ascending.
* `Unicode.Ranges.contains`: Whether a code point lies in one of them.
* `Unicode.Ranges.normal`, `Unicode.Ranges.gaps`: Ranges that do not touch, and
  what lies between them.
* `Unicode.Ranges.ofText`: Reads the text of a table.
* `Unicode.PropertyTable`: A table with the names of its property.
-/

namespace LogQuery

namespace Unicode

/-- First and last code points, ascending and disjoint. -/
abbrev Ranges := List (Nat × Nat)

/-- Whether a code point lies in a range. The ranges ascend, so the search
    ends at the first one that starts beyond it. -/
def Ranges.contains (n : Nat) : Ranges → Bool
  | [] => false
  | (first, last) :: rest =>
    if n < first then false else if n ≤ last then true else Ranges.contains n rest

/-- Joins ranges that ascend by their first members with the ranges collected
    before them, which come in reverse. -/
def Ranges.joinOnto (joined : Ranges) : Ranges → Ranges
  | [] => joined.reverse
  | (first, last) :: rest =>
    match joined with
    | [] => Ranges.joinOnto [(first, last)] rest
    | (start, stop) :: before =>
      if first ≤ stop + 1 then Ranges.joinOnto ((start, Nat.max stop last) :: before) rest
      else Ranges.joinOnto ((first, last) :: joined) rest

/-- The same code points in ascending ranges that do not touch. -/
def Ranges.normal (ranges : Ranges) : Ranges :=
  Ranges.joinOnto [] (ranges.mergeSort fun a b => decide (a.1 ≤ b.1))

/-- The code points from a given one on that lie in none of the ranges. -/
def Ranges.gapsFrom (n : Nat) : Ranges → Ranges
  | [] => if n ≤ 0x10ffff then [(n, 0x10ffff)] else []
  | (first, last) :: rest =>
    (if n < first then [(n, first - 1)] else []) ++ Ranges.gapsFrom (last + 1) rest

/-- The code points that lie in none of some ascending ranges. -/
def Ranges.gaps (ranges : Ranges) : Ranges := Ranges.gapsFrom 0 ranges

/-- The value of a hexadecimal number in lower case. -/
def hexNumber (cs : List Char) : Nat :=
  cs.foldl (fun n c => n * 16 + (if c.isDigit then c.toNat - 48 else c.toNat - 87)) 0

/-- Reads the entries of a table from a code point on. -/
def Ranges.ofEntries : Nat → List String → Ranges
  | _, [] => []
  | from_, entry :: rest =>
    let cs := entry.toList
    let first := from_ + hexNumber (cs.takeWhile (· != '+'))
    let last := first + hexNumber ((cs.dropWhile (· != '+')).drop 1)
    (first, last) :: Ranges.ofEntries (last + 1) rest

/-- The entries of a table, which goes over several lines. -/
def entries (text : String) : List String :=
  ((text.splitOn "\n").flatMap fun line => line.splitOn " ").filter (· != "")

/-- Reads the text of a table. -/
def Ranges.ofText (text : String) : Ranges := Ranges.ofEntries 0 (entries text)

/-- A property with its names, in lower case and without separators, and its
    ranges as text. -/
structure PropertyTable where
  names : List String
  text : String

/-- The ranges of the table with the given name. -/
def findTable (name : String) (tables : List PropertyTable) : Option Ranges :=
  (tables.find? fun table => table.names.contains name).map fun table => .ofText table.text

end Unicode

end LogQuery
