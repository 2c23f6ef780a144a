/-!
# Places in a YAML Text

In YAML the column of a character matters as much as the character, so texts
are read through a cursor that knows line and column. Line breaks are brought
to one form first, except the two Unicode separators, which end a line but are
not folded like one.

## Main definitions

* `Yaml.Cursor`: The rest of a text and where it stands.
* `Yaml.Cursor.ofText?`: The start of a text that YAML allows.
-/

namespace LogQuery

namespace Yaml

/-- Whether a character may occur in a YAML text at all. -/
def isAllowed (c : Char) : Bool :=
  let n := c.toNat
  n == 0x09 || n == 0x0a || n == 0x0d || (0x20 ≤ n && n ≤ 0x7e) || n == 0x85 ||
    (0xa0 ≤ n && n ≤ 0xd7ff) || (0xe000 ≤ n && n ≤ 0xfffd) || 0x10000 ≤ n

/-- Brings the line breaks of a text to one form. -/
def unifyBreaks : List Char → List Char
  | [] => []
  | '\r' :: '\n' :: rest => '\n' :: unifyBreaks rest
  | c :: rest => (if c = '\r' ∨ c = '\u0085' then '\n' else c) :: unifyBreaks rest

def isBreak (c : Char) : Bool := c == '\n' || c == '\u2028' || c == '\u2029'

/-- Whether a character separates words on a line. -/
def isSpace (c : Char) : Bool := c == ' ' || c == '\t'

/-- Whether a character may belong to a word of a text. -/
def isSolid (c : Char) : Bool := !(isBreak c || isSpace c)

/-- Whether a character may belong to a name. -/
def isNameChar (c : Char) : Bool := c.isAlphanum || c == '_' || c == '-'

/-- Whether a word is over: a blank, a line break or the end comes next. -/
def endsWord : List Char → Bool
  | [] => true
  | c :: _ => !isSolid c

/-- The rest of a text and where it stands. -/
structure Cursor where
  rest : List Char
  /-- How many characters stand before it. -/
  index : Nat
  line : Nat
  /-- How many of them stand on the same line. -/
  column : Nat

namespace Cursor

/-- The start of a text, if all its characters are allowed. -/
def ofText? (text : List Char) : Option Cursor :=
  if text.all isAllowed then some ⟨unifyBreaks text, 0, 0, 0⟩ else none

/-- Skips characters of the same line. -/
def skip (c : Cursor) (n : Nat) : Cursor :=
  ⟨c.rest.drop n, c.index + n, c.line, c.column + n⟩

/-- Skips a line break. -/
def skipBreak (c : Cursor) : Cursor := ⟨c.rest.drop 1, c.index + 1, c.line + 1, 0⟩

/-- Takes characters of the same line while they belong to a class. -/
def takeWhile (c : Cursor) (p : Char → Bool) : List Char × Cursor :=
  let taken := c.rest.takeWhile p
  (taken, c.skip taken.length)

def skipWhile (c : Cursor) (p : Char → Bool) : Cursor := (c.takeWhile p).2

/-- Skips a mark of the byte order at the start of a line. It takes a column. -/
def skipMark (c : Cursor) : Cursor :=
  if c.column == 0 && c.rest.head? == some '\ufeff' then c.skip 1 else c

/-- Goes to a place further down the same line. -/
def goTo (c : Cursor) (rest : List Char) : Cursor :=
  c.skip (c.rest.length - rest.length)

/-- Skips the rest of the line and its break, if nothing but blanks and a
    comment stand there. -/
def skipLineEnd? (c : Cursor) : Option Cursor :=
  let c := c.skipWhile isSpace
  let c := if c.rest.head? == some '#' then c.skipWhile (fun a => !isBreak a) else c
  match c.rest with
  | [] => some c
  | a :: _ => if isBreak a then some c.skipBreak else none

/-- Whether a line starts here that consists of three of the given characters,
    or starts with them and a blank. -/
def atMarker (c : Cursor) (mark : Char) : Bool :=
  c.column == 0 && c.rest.take 3 == [mark, mark, mark] && endsWord (c.rest.drop 3)

/-- Whether the start or the end of a document is marked here. -/
def atDocumentMarker (c : Cursor) : Bool := c.atMarker '-' || c.atMarker '.'

end Cursor

end Yaml

end LogQuery
