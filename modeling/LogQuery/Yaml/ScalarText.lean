import LogQuery.Yaml.Cursor

/-!
# Texts of YAML Scalars

A scalar is written plain, in single or double quotes, or as a block of lines.
In the first three forms a text may go over several lines, and the gap between
two of its words is folded: a single line break counts as a space, and of
several breaks the first does not count. A block keeps its lines or folds
them, by the indicator that opens it.

Every form is read from its first character to the place behind its last one.

## Main definitions

* `Yaml.Gap`: What stands between two words of a text.
* `Yaml.readPlain`, `Yaml.readQuoted`, `Yaml.readBlock`: Read a scalar.
-/

namespace LogQuery

namespace Yaml

/-! ### Gaps -/

/-- What stands between two words of a text. -/
inductive Gap where
  | spaces (text : List Char)
  /-- Line breaks; the first of them is missing if a backslash hides it. -/
  | breaks (first : Option Char) (more : List Char)

namespace Gap

def none : Gap := spaces []

/-- What a gap stands for. -/
def text : Gap → List Char
  | spaces text => text
  | breaks (some '\n') [] => [' ']
  | breaks (some '\n') more => more
  | breaks (some c) more => c :: more
  | breaks .none more => more

def hasBreak : Gap → Bool
  | spaces _ => false
  | breaks .. => true

/-- Adds a line break to a gap. Spaces before it do not count. -/
def addBreak (c : Char) : Gap → Gap
  | spaces _ => breaks (some c) []
  | breaks first more => breaks first (more ++ [c])

/-- Whether a tab stands among the blanks of a line before the given column. -/
def tabBefore (column : Nat) (c : Cursor) (blanks : List Char) : Bool :=
  (blanks.take (column - c.column)).any (· == '\t')

/-- Reads on in a gap. Blanks behind a line break do not count, but there must
    be no tab among them before the given column. -/
def readFrom (column : Nat) : Nat → Gap → Cursor → Option (Gap × Cursor)
  | 0, gap, c => some (gap, c)
  | fuel + 1, gap, c =>
    let (blanks, c') := c.takeWhile isSpace
    if gap.hasBreak && tabBefore column c blanks then .none
    else
      let gap :=
        match gap with
        | spaces text => spaces (text ++ blanks)
        | gap => gap
      match c'.rest with
      | [] => some (gap, c')
      | a :: _ =>
        if isBreak a then readFrom column fuel (gap.addBreak a) c'.skipBreak
        else some (gap, c')

/-- Reads a gap, or the rest of one. -/
def read (column : Nat) (gap : Gap) (c : Cursor) : Option (Gap × Cursor) :=
  readFrom column (c.rest.length + 1) gap c

end Gap

/-! ### Plain scalars -/

/-- Whether a character ends a plain scalar inside brackets. -/
def isFlowIndicator (c : Char) : Bool :=
  c == ',' || c == '[' || c == ']' || c == '\x7b' || c == '\x7d'

/-- Takes the characters of a word of a plain scalar. Inside brackets a colon
    must not stand directly before another indicator. -/
def plainWord (flow : Bool) (before : List Char) : List Char → Option (List Char × List Char)
  | [] => some (before.reverse, [])
  | c :: rest =>
    if !isSolid c then some (before.reverse, c :: rest)
    else if c = ':' ∧ flow ∧ (rest.head?.any fun d => d == '?' || isFlowIndicator d) then none
    else if c = ':' ∧ endsWord rest then some (before.reverse, c :: rest)
    else if flow && isFlowIndicator c then some (before.reverse, c :: rest)
    else plainWord flow (c :: before) rest

/-- A scalar that has been read: its text, the place behind it, and whether it
    ends with a line break. -/
structure Reading where
  text : List Char
  cursor : Cursor
  endsLine : Bool

/-- Reads on in a plain scalar, behind a gap. -/
def readPlainFrom (flow : Bool) (column : Nat) :
    Nat → List Char → Gap → Cursor → Option Reading
  | 0, text, gap, c => some ⟨text, c, gap.hasBreak⟩
  | fuel + 1, text, gap, c =>
    if c.atDocumentMarker || c.rest.head? == some '#' then some ⟨text, c, gap.hasBreak⟩
    else do
      let (word, rest) ← plainWord flow [] c.rest
      let (text, gap) := if word.isEmpty then (text, gap) else (text ++ gap.text ++ word, .none)
      let c := c.goTo rest
      if endsWord rest && !rest.isEmpty then
        let (gap, c) ← Gap.read column gap c
        if !flow && c.column < column then some ⟨text, c, gap.hasBreak⟩
        else readPlainFrom flow column fuel text gap c
      else some ⟨text, c, gap.hasBreak⟩

/-- Reads a plain scalar whose lines start at the given column or behind it,
    unless it stands in brackets. -/
def readPlain (flow : Bool) (column : Nat) (c : Cursor) : Option Reading :=
  readPlainFrom flow column (c.rest.length + 1) [] .none c

/-! ### Quoted scalars -/

/-- The value of a hexadecimal digit. -/
def hexValue? (c : Char) : Option Nat :=
  if c.isDigit then some (c.toNat - 0x30)
  else if 'a' ≤ c ∧ c ≤ 'f' then some (c.toNat - 0x57)
  else if 'A' ≤ c ∧ c ≤ 'F' then some (c.toNat - 0x37)
  else none

/-- The number that hexadecimal digits stand for. -/
def hexNumber? (digits : List Char) : Option Nat :=
  digits.foldlM (fun n c => (hexValue? c).map fun d => 16 * n + d) 0

/-- The character that a number of digits stand for. -/
def hexChar? (count : Nat) (cs : List Char) : Option Char := do
  let digits := cs.take count
  if digits.length = count then
    let n ← hexNumber? digits
    if h : n.isValidChar then some ⟨n.toUInt32, by
      have : n < 0x100000000 := by
        rcases h with h | h <;> omega
      simpa [UInt32.isValidChar, Nat.toUInt32, UInt32.toNat_ofNat_of_lt' this] using h⟩
    else none
  else none

/-- The character that a letter behind a backslash stands for. -/
def escaped? (c : Char) : Option Char :=
  [('0', '\x00'), ('a', '\x07'), ('b', '\x08'), ('t', '\t'), ('\t', '\t'), ('n', '\n'),
    ('v', '\x0b'), ('f', '\x0c'), ('r', '\r'), ('e', '\x1b'), (' ', ' '), ('"', '"'),
    ('/', '/'), ('\\', '\\'), ('N', '\u0085'), ('_', '\u00a0'), ('L', '\u2028'),
    ('P', '\u2029')].lookup c

/-- How many digits follow a letter behind a backslash. -/
def escapeDigits? (c : Char) : Option Nat := [('x', 2), ('u', 4), ('U', 8)].lookup c

/-- Where a word of a quoted text ends. -/
inductive WordEnd where
  /-- At the closing quote. -/
  | quote
  /-- At a line break that a backslash hides. -/
  | hiddenBreak
  | gap

/-- Takes the characters of a word in single quotes. -/
def singleWord (before : List Char) : List Char → List Char × List Char × WordEnd
  | [] => (before.reverse, [], .gap)
  | '\'' :: '\'' :: rest => singleWord ('\'' :: before) rest
  | c :: rest =>
    if c = '\'' then (before.reverse, c :: rest, .quote)
    else if isSolid c then singleWord (c :: before) rest
    else (before.reverse, c :: rest, .gap)

/-- Takes the characters of a word in double quotes. -/
def doubleWord : Nat → List Char → List Char → Option (List Char × List Char × WordEnd)
  | 0, before, rest => some (before.reverse, rest, .gap)
  | _, before, [] => some (before.reverse, [], .gap)
  | fuel + 1, before, c :: rest =>
    if c = '"' then some (before.reverse, c :: rest, .quote)
    else if c = '\\' then
      match rest with
      | [] => none
      | d :: after =>
        if isBreak d then some (before.reverse, d :: after, .hiddenBreak)
        else
          match escaped? d, escapeDigits? d with
          | some a, _ => doubleWord fuel (a :: before) after
          | none, some count => do
            let a ← hexChar? count after
            doubleWord fuel (a :: before) (after.drop count)
          | none, none => none
    else if isSolid c then doubleWord fuel (c :: before) rest
    else some (before.reverse, c :: rest, .gap)

/-- Takes the characters of a word in quotes. -/
def quotedWord (single : Bool) (cs : List Char) : Option (List Char × List Char × WordEnd) :=
  if single then some (singleWord [] cs) else doubleWord cs.length [] cs

/-- Reads on in a quoted scalar. A document marker must not stand in it. -/
def readQuotedFrom (single : Bool) : Nat → List Char → Cursor → Option (List Char × Cursor)
  | 0, _, _ => none
  | fuel + 1, text, c =>
    if c.atDocumentMarker || c.rest.isEmpty then none
    else do
      let (word, rest, wordEnd) ← quotedWord single c.rest
      let text := text ++ word
      let c := c.goTo rest
      match wordEnd with
      | .quote => some (text, c.skip 1)
      | .gap =>
        let (gap, c) ← Gap.read 0 .none c
        readQuotedFrom single fuel (text ++ gap.text) c
      | .hiddenBreak =>
        let (gap, c) ← Gap.read 0 (.breaks none []) c.skipBreak
        readQuotedFrom single fuel (text ++ gap.text) c

/-- Reads a quoted scalar. -/
def readQuoted (single : Bool) (c : Cursor) : Option Reading := do
  let (text, c) ← readQuotedFrom single (c.rest.length + 1) [] (c.skip 1)
  some ⟨text, c, false⟩

/-! ### Blocks -/

/-- What becomes of the line breaks at the end of a block. -/
inductive Chomping where
  | strip
  | clip
  | keep
deriving DecidableEq

/-- The line of a block behind its indicator. -/
structure BlockHeader where
  chomping : Chomping
  /-- How far the block is indented, if that is said. -/
  indent : Option Nat

namespace BlockHeader

def chomping? : Char → Option Chomping
  | '-' => some .strip
  | '+' => some .keep
  | _ => none

/-- A digit that gives the indentation. -/
def indent? (c : Char) : Option Nat :=
  if c.isDigit then some (c.toNat - 0x30) else none

/-- Reads a header: chomping and indentation in either order. -/
def read (c : Cursor) : Option (BlockHeader × Cursor) := do
  let chomping (c : Cursor) : Option Chomping × Cursor :=
    match c.rest.head?.bind chomping? with
    | some chomping => (some chomping, c.skip 1)
    | none => (none, c)
  let indent (c : Cursor) : Option Nat × Cursor :=
    match c.rest.head?.bind indent? with
    | some indent => (some indent, c.skip 1)
    | none => (none, c)
  let (before, c) := chomping c
  let (indent, c) := indent c
  let (behind, c) := if before.isNone && indent.isSome then chomping c else (none, c)
  if indent = some 0 then none
  else
    let c ← c.skipLineEnd?
    some (⟨(before.or behind).getD .clip, indent⟩, c)

end BlockHeader

/-- Skips the empty lines of a block and the indentation of the line behind
    them. Gives the line breaks and the greatest column seen. Without an
    indentation all spaces at the start of a line are skipped. -/
def skipEmptyLines (indent : Option Nat) :
    Nat → List Char → Nat → Cursor → Option (List Char × Nat × Cursor)
  | 0, breaks, greatest, c => some (breaks, greatest, c)
  | fuel + 1, breaks, greatest, c =>
    let spaces := (c.takeWhile (· == ' ')).1.length
    let c := c.skip (match indent with
      | some indent => Nat.min spaces (indent - c.column)
      | none => spaces)
    let greatest := Nat.max greatest c.column
    match c.rest with
    | [] => some (breaks, greatest, c)
    | a :: _ =>
      if a = '\t' ∧ (indent.all fun indent => c.column < indent) then none
      else if isBreak a then
        skipEmptyLines indent fuel (breaks ++ [a]) greatest c.skipBreak
      else some (breaks, greatest, c)

/-- What joins the lines of a block: the break behind the last line, and those
    of the empty lines behind it. -/
structure Joint where
  first : List Char
  more : List Char

/-- What stands between two lines of a block. Where a folded block has no
    blank on either side, a single break becomes a space. -/
def Joint.text (joint : Joint) (folded : Bool) : List Char :=
  if folded && joint.first == ['\n'] then
    if joint.more.isEmpty then [' '] else joint.more
  else joint.first ++ joint.more

/-- Reads on in a block. The flag tells whether the line before starts with a
    blank. -/
def readBlockLines (literal : Bool) (indent : Nat) :
    Nat → List Char → Joint → Bool → Cursor → Option (List Char × Joint × Cursor)
  | 0, text, joint, _, c => some (text, joint, c)
  | fuel + 1, text, joint, blank, c =>
    if c.column ≠ indent ∨ c.rest.isEmpty then some (text, joint, c)
    else do
      let startsBlank := c.rest.head?.any isSpace
      let joined := joint.text (!literal && !blank && !startsBlank)
      let (line, c) := c.takeWhile fun a => !isBreak a
      let (first, c) :=
        match c.rest with
        | [] => ([], c)
        | a :: _ => ([a], c.skipBreak)
      let (more, _, c) ← skipEmptyLines (some indent) (c.rest.length + 1) [] 0 c
      readBlockLines literal indent fuel (text ++ joined ++ line) ⟨first, more⟩ startsBlank c

/-- Reads a block inside a block of the given indentation. -/
def readBlock (literal : Bool) (outer : Option Nat) (c : Cursor) : Option Reading := do
  let (header, c) ← BlockHeader.read (c.skip 1)
  let given := header.indent.map fun indent => outer.getD 0 + indent
  let (breaks, greatest, c) ← skipEmptyLines given (c.rest.length + 1) [] 0 c
  let least := match outer with
    | some outer => Nat.max (outer + 1) 1
    | none => 1
  let indent := given.getD (Nat.max greatest least)
  let fuel := c.rest.length + 1
  let (text, joint, c) ← readBlockLines literal indent fuel [] ⟨[], breaks⟩ false c
  let tail := match header.chomping with
    | .strip => []
    | .clip => joint.first
    | .keep => joint.first ++ joint.more
  some ⟨text ++ tail, c, true⟩

end Yaml

end LogQuery
