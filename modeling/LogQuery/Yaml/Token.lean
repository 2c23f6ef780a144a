import LogQuery.Number.Literal
import LogQuery.Text.Utf8
import LogQuery.Yaml.ScalarText

/-!
# Tokens of a YAML Text

A YAML text is cut into tokens that make its layout explicit. Indentation
opens and closes blocks, and that a scalar was the key of a mapping shows only
at the colon behind it; so the lexer remembers where a key may have started
and puts the tokens for it there afterwards. Inside brackets indentation has
no meaning.

A key that is found this way must be on one line and must not be long. A token
that starts a line at the indentation of a block has to be such a key.

## Main definitions

* `Yaml.Token`: A token.
* `Yaml.Lexer`: The state between two tokens.
* `Yaml.Token.ofText?`: The tokens of a text.
-/

namespace LogQuery

namespace Yaml

/-- A token of a YAML text. -/
inductive Token where
  | streamEnd
  | version (major minor : Nat)
  | tagHandle (handle expansion : String)
  | documentStart
  | documentEnd
  | blockSequence
  | blockMapping
  | blockEnd
  | flowSequence
  | flowSequenceEnd
  | flowMapping
  | flowMappingEnd
  /-- The hyphen before an element of a block. -/
  | entry
  /-- The comma between elements in brackets. -/
  | comma
  | key
  | value
  | aliasOf (name : String)
  | anchor (name : String)
  | tag (handle suffix : String)
  | scalar (plain : Bool) (text : String)
deriving DecidableEq

/-- A place where a key may have started. -/
structure KeyPlace where
  /-- How many tokens there were before it. -/
  token : Nat
  index : Nat
  line : Nat
  column : Nat
  /-- Whether nothing but a key can stand there. -/
  required : Bool

/-- The state between two tokens. -/
structure Lexer where
  cursor : Cursor
  tokens : Array Token
  /-- The indentation of the open blocks, the innermost first. -/
  indents : List Nat
  /-- The possible key at each level of brackets, the innermost first; the last
      one is that outside of all brackets. -/
  keys : List (Option KeyPlace)
  /-- Whether a key may start here. -/
  keyAllowed : Bool

namespace Lexer

/-- Whether the lexer is inside brackets. -/
def inFlow (x : Lexer) : Bool := 1 < x.keys.length

/-- The indentation of the innermost block. -/
def indent (x : Lexer) : Option Nat := x.indents.head?

/-- Where the lines of a plain scalar have to start. -/
def contentColumn (x : Lexer) : Nat :=
  match x.indent with
  | some indent => indent + 1
  | none => 0

def emit (x : Lexer) (token : Token) : Lexer := { x with tokens := x.tokens.push token }

/-! ### Gaps between tokens -/

/-- Skips blanks, comments and line breaks, and the mark of the byte order at the start
    of a line. Outside of brackets a key may start on every new line; where one may
    start, a tab is no blank. -/
def skipGap : Nat → Lexer → Lexer
  | 0, x => x
  | fuel + 1, x =>
    let c := x.cursor.skipMark.skipWhile fun a =>
      a == ' ' || (a == '\t' && (x.inFlow || !x.keyAllowed))
    let c := if c.rest.head? == some '#' then c.skipWhile (fun a => !isBreak a) else c
    match c.rest with
    | [] => { x with cursor := c }
    | a :: _ =>
      if isBreak a then
        skipGap fuel { x with cursor := c.skipBreak, keyAllowed := x.keyAllowed || !x.inFlow }
      else { x with cursor := c }

/-! ### Keys -/

/-- Gives up a possible key, unless it had to be one. -/
def dropKey (x : Lexer) : Option Lexer :=
  match x.keys with
  | some key :: outer => if key.required then none else some { x with keys := none :: outer }
  | _ => some x

/-- Gives up possible keys that have become too long. -/
def dropStaleKeys (x : Lexer) : Option Lexer := do
  let stale (key : KeyPlace) : Bool :=
    decide (key.line < x.cursor.line) || decide (key.index + 1024 < x.cursor.index)
  let keys ← x.keys.mapM fun key =>
    match key with
    | some key =>
      if stale key then (if key.required then none else some none) else some (some key)
    | none => some none
  some { x with keys }

/-- Notes that a key may start here. -/
def noteKey (x : Lexer) : Option Lexer :=
  if x.keyAllowed then do
    let x ← x.dropKey
    let c := x.cursor
    let required := !x.inFlow && x.indent == some c.column
    some { x with
      keys := some ⟨x.tokens.size, c.index, c.line, c.column, required⟩ :: x.keys.drop 1 }
  else some x

/-! ### Blocks -/

/-- Opens a block at a column if that is further in. The token that opens it
    stands before the tokens from the given one on. -/
def openBlock (x : Lexer) (column : Nat) (token : Token) (before : Nat) : Lexer :=
  if !x.inFlow && x.indent.all (· < column) then
    { x with
      indents := column :: x.indents
      tokens := x.tokens.insertIdxIfInBounds before token }
  else x

/-- Closes the blocks that are further in than a column, or all of them. -/
def closeBlocks (x : Lexer) (column : Option Nat) : Lexer :=
  if x.inFlow then x
  else
    let inner := x.indents.takeWhile fun indent => column.all (· < indent)
    { x with
      indents := x.indents.drop inner.length
      tokens := x.tokens ++ Array.replicate inner.length .blockEnd }

/-! ### Tokens -/

/-- Takes a token of some characters of one line. -/
def take (x : Lexer) (count : Nat) (keyAllowed : Bool) (token : Token) : Lexer :=
  { x with cursor := x.cursor.skip count, keyAllowed }.emit token

/-- The end of the text. -/
def takeEnd (x : Lexer) : Option Lexer := do
  let x ← (x.closeBlocks none).dropKey
  some (x.emit .streamEnd)

/-- A mark of the start or the end of a document. -/
def takeDocumentMarker (x : Lexer) (token : Token) : Option Lexer := do
  let x ← (x.closeBlocks none).dropKey
  some (x.take 3 false token)

/-- An opening bracket. -/
def takeOpen (x : Lexer) (token : Token) : Option Lexer := do
  let x ← x.noteKey
  some ({ x with keys := none :: x.keys }.take 1 true token)

/-- A closing bracket. One that nothing opened is left to the grammar. -/
def takeClose (x : Lexer) (token : Token) : Option Lexer := do
  let x ← x.dropKey
  let keys := if x.inFlow then x.keys.drop 1 else x.keys
  some ({ x with keys }.take 1 false token)

def takeComma (x : Lexer) : Option Lexer := do
  let x ← x.dropKey
  some (x.take 1 true .comma)

/-- The hyphen before an element of a block. -/
def takeEntry (x : Lexer) : Option Lexer := do
  if !x.inFlow && !x.keyAllowed then none
  else
    let x := x.openBlock x.cursor.column .blockSequence x.tokens.size
    let x ← x.dropKey
    some (x.take 1 true .entry)

/-- The question mark before a key. -/
def takeKey (x : Lexer) : Option Lexer := do
  if !x.inFlow && !x.keyAllowed then none
  else
    let x := x.openBlock x.cursor.column .blockMapping x.tokens.size
    let x ← x.dropKey
    some (x.take 1 (!x.inFlow) .key)

/-- The colon before a value. It shows whether there was a key before it. -/
def takeValue (x : Lexer) : Option Lexer :=
  match x.keys with
  | some key :: outer =>
    let x := { x with
      keys := none :: outer
      tokens := x.tokens.insertIdxIfInBounds key.token .key }
    some ((x.openBlock key.column .blockMapping key.token).take 1 false .value)
  | _ =>
    if !x.inFlow && !x.keyAllowed then none
    else
      let x := x.openBlock x.cursor.column .blockMapping x.tokens.size
      some (x.take 1 (!x.inFlow) .value)

/-- An anchor or an alias. -/
def takeName (x : Lexer) (make : String → Token) : Option Lexer := do
  let x ← x.noteKey
  let (name, c) := (x.cursor.skip 1).takeWhile isNameChar
  let closed := endsWord c.rest || c.rest.head?.any ("?:,]\x7d%@\x60".toList.contains ·)
  if name.isEmpty || !closed then none
  else some ({ x with cursor := c, keyAllowed := false }.emit (make (String.ofList name)))

/-! ### Tags -/

/-- Whether a character may belong to a tag; commas and square brackets may
    only where nothing else could be meant. -/
def isTagChar (verbatim : Bool) (c : Char) : Bool :=
  isNameChar c || ";/?:@&=+$.%!~*'()".toList.contains c ||
    (verbatim && ",[]".toList.contains c)

/-- The bytes that percent signs and digits stand for, up to the first
    character that is not written so. -/
def percentBytes : Nat → List Char → Option (Bytes × List Char)
  | 0, cs => some ([], cs)
  | fuel + 1, '%' :: rest => do
    let digits := rest.take 2
    if digits.length ≠ 2 then none
    else
      let n ← hexNumber? digits
      let (bytes, rest) ← percentBytes fuel (rest.drop 2)
      some (n.toUInt8 :: bytes, rest)
  | _, cs => some ([], cs)

/-- Puts characters in the place of the percent signs of a tag. -/
def decodeTag : Nat → List Char → Option (List Char)
  | 0, _ => some []
  | _, [] => some []
  | fuel + 1, c :: rest =>
    if c = '%' then do
      let (bytes, rest) ← percentBytes (c :: rest).length (c :: rest)
      match Utf8.decode bytes with
      | .ok text => (decodeTag fuel rest).map (text ++ ·)
      | .error _ => none
    else (decodeTag fuel rest).map (c :: ·)

/-- Takes the characters of a tag. -/
def tagText (verbatim : Bool) (c : Cursor) : Option (List Char × Cursor) := do
  let (text, c) := c.takeWhile (isTagChar verbatim)
  let text ← decodeTag text.length text
  some (text, c)

/-- Takes what may be the handle of a tag: an exclamation mark, and perhaps a
    name and a second one. -/
def tagHandle (c : Cursor) : Option (List Char × Cursor) :=
  match c.rest with
  | '!' :: _ =>
    let (name, c) := (c.skip 1).takeWhile isNameChar
    if c.rest.head? == some '!' then some ('!' :: (name ++ ['!']), c.skip 1)
    else some ('!' :: name, c)
  | _ => none

/-- Reads a tag: in angle brackets, behind a handle, or behind a single
    exclamation mark. -/
def readTag (c : Cursor) : Option (Token × Cursor) :=
  if c.rest.take 2 = ['!', '<'] then do
    let (suffix, c) ← tagText true (c.skip 2)
    if suffix.isEmpty || c.rest.head? != some '>' then none
    else some (.tag "" (String.ofList suffix), c.skip 1)
  else do
    let (handle, c) ← tagHandle c
    let (text, c) ← tagText false c
    if 1 < handle.length && handle.getLast? == some '!' then
      if text.isEmpty then none
      else some (.tag (String.ofList handle) (String.ofList text), c)
    else
      let suffix := handle.drop 1 ++ text
      if suffix.isEmpty then some (.tag "" "!", c)
      else some (.tag "!" (String.ofList suffix), c)

def takeTag (x : Lexer) : Option Lexer := do
  let x ← x.noteKey
  let (token, c) ← readTag x.cursor
  if endsWord c.rest || (x.inFlow && c.rest.head? == some ',') then
    some ({ x with cursor := c, keyAllowed := false }.emit token)
  else none

/-! ### Directives -/

/-- Takes a number of a version. -/
def versionNumber (c : Cursor) : Option (Nat × Cursor) :=
  let (digits, c) := c.takeWhile Char.isDigit
  if digits.isEmpty || decide (9 < digits.length) then none
  else some (RealText.digitsValue digits, c)

/-- Reads what follows the name of a directive. -/
def readDirective (name : String) (c : Cursor) : Option (Token × Cursor) :=
  if name = "YAML" then do
    let (major, c) ← versionNumber (c.skipWhile isSpace)
    if c.rest.head? != some '.' then none
    else
      let (minor, c) ← versionNumber (c.skip 1)
      some (.version major minor, c)
  else if name = "TAG" then do
    let (handle, c) ← tagHandle (c.skipWhile isSpace)
    if handle != ['!'] && handle.getLast? != some '!' then none
    else if !(c.rest.head?.any isSpace) then none
    else
      let (expansion, c) ← tagText true (c.skipWhile isSpace)
      if expansion.isEmpty || !endsWord c.rest then none
      else some (.tagHandle (String.ofList handle) (String.ofList expansion), c)
  else none

def takeDirective (x : Lexer) : Option Lexer := do
  let x ← (x.closeBlocks none).dropKey
  let (name, c) := (x.cursor.skip 1).takeWhile isNameChar
  if name.isEmpty || !endsWord c.rest then none
  else
    let (token, c) ← readDirective (String.ofList name) c
    let c ← c.skipLineEnd?
    some ({ x with cursor := c, keyAllowed := false }.emit token)

/-! ### Scalars -/

/-- A scalar in quotes, or a plain one if the reader given is for those. A
    plain scalar that ends with a line break lets a key start behind it. -/
def takeScalar (x : Lexer) (plain : Bool) (read : Cursor → Option Reading) : Option Lexer := do
  let x ← x.noteKey
  let reading ← read x.cursor
  some ({ x with cursor := reading.cursor, keyAllowed := reading.endsLine }.emit
    (.scalar plain (String.ofList reading.text)))

def takeBlockScalar (x : Lexer) (literal : Bool) : Option Lexer := do
  let x ← x.dropKey
  let reading ← readBlock literal x.indent x.cursor
  some ({ x with cursor := reading.cursor, keyAllowed := true }.emit
    (.scalar false (String.ofList reading.text)))

/-- Whether a plain scalar may start here. -/
def startsPlain (flow : Bool) (c : Char) (rest : List Char) : Bool :=
  if c == '-' then !(rest.head?.any isSpace)
  else if c == '?' || c == ':' then !flow && !endsWord rest
  else isSolid c && !(",[]\x7b\x7d#&*!|>'\"%@\x60".toList.contains c)

/-- Takes the token that starts with a character. -/
def takeFrom (x : Lexer) (c : Char) (rest : List Char) : Option Lexer :=
  if c = '%' ∧ x.cursor.column = 0 then x.takeDirective
  else if x.cursor.atMarker '-' then x.takeDocumentMarker .documentStart
  else if x.cursor.atMarker '.' then x.takeDocumentMarker .documentEnd
  else if c = '[' then x.takeOpen .flowSequence
  else if c = '\x7b' then x.takeOpen .flowMapping
  else if c = ']' then x.takeClose .flowSequenceEnd
  else if c = '\x7d' then x.takeClose .flowMappingEnd
  else if c = ',' then x.takeComma
  else if c = '-' ∧ endsWord rest then x.takeEntry
  else if c = '?' ∧ (x.inFlow ∨ endsWord rest) then x.takeKey
  else if c = ':' ∧ (x.inFlow ∨ endsWord rest) then x.takeValue
  else if c = '*' then x.takeName .aliasOf
  else if c = '&' then x.takeName .anchor
  else if c = '!' then x.takeTag
  else if c = '|' ∧ !x.inFlow then x.takeBlockScalar true
  else if c = '>' ∧ !x.inFlow then x.takeBlockScalar false
  else if c = '\'' then x.takeScalar false (readQuoted true)
  else if c = '"' then x.takeScalar false (readQuoted false)
  else if startsPlain x.inFlow c rest then
    x.takeScalar true (readPlain x.inFlow x.contentColumn)
  else none

/-- Takes all tokens. -/
def takeAll : Nat → Lexer → Option Lexer
  | 0, _ => none
  | fuel + 1, x => do
    let x := x.skipGap (x.cursor.rest.length + 1)
    let x ← x.dropStaleKeys
    let x := x.closeBlocks (some x.cursor.column)
    match x.cursor.rest with
    | [] => x.takeEnd
    | c :: rest =>
      let x ← x.takeFrom c rest
      takeAll fuel x

end Lexer

/-- The tokens of a text. Every token but the last takes at least one
    character. -/
def Token.ofText? (text : List Char) : Option (List Token) := do
  let cursor ← Cursor.ofText? text
  let x ← Lexer.takeAll (cursor.rest.length + 1) ⟨cursor, #[], [], [none], true⟩
  some x.tokens.toList

end Yaml

end LogQuery
