import LogQuery.Regex.Ast
import LogQuery.Text.Blank
import LogQuery.Json.Reader

/-!
# Reading Patterns

The reader of the text of a pattern. It says only whether a text is a pattern
and which one; it words no diagnostics, so a failure carries nothing.

A reader moves over what is left of the text. Between the parts of a pattern
blanks and comments are passed over if the verbose flag is set, and inside a
construct they are passed over at the places where the syntax allows it, so
most steps come in two forms: `advance` takes one character, and `advanceOver`
takes one and then the blanks behind it.

The readers of groups and classes nest, and recurse on a bound that the length
of the text provides: whatever nests takes a character first.

## Main definitions

* `Regex.Ast.read?`: Reads the text of a pattern.
* `Regex.nestingLimit`: How deep a pattern may nest.
-/

namespace LogQuery

namespace Regex

/-- What is left of a pattern, and what the reader has to remember. -/
structure Cursor where
  rest : List Char
  verbose : Bool
  /-- How many capture groups have been opened. -/
  groups : Nat

/-- A step of reading, which can fail. -/
abbrev Parse (α : Type) := StateT Cursor Option α

namespace Parse

def fail {α : Type} : Parse α := fun _ => none

/-- The next character, if there is one. -/
def peek : Parse (Option Char) := do return (← get).rest.head?

def atEnd : Parse Bool := do return (← get).rest.isEmpty

/-- Passes over blanks and, from a hash to the end of its line, comments. -/
def dropVerbose : Nat → List Char → List Char
  | 0, cs => cs
  | _, [] => []
  | steps + 1, c :: rest =>
    if isBlank c then dropVerbose steps rest
    else if c = '#' then dropVerbose steps ((rest.dropWhile (· != '\n')).drop 1)
    else c :: rest

/-- Passes over blanks and comments if they do not count. -/
def skipBlanks : Parse Unit :=
  modify fun s => if s.verbose then { s with rest := dropVerbose s.rest.length s.rest } else s

/-- Takes a character. -/
def advance : Parse Unit := modify fun s => { s with rest := s.rest.drop 1 }

/-- Takes a character and the blanks behind it; tells whether more follows. -/
def advanceOver : Parse Bool := do
  advance
  skipBlanks
  return !(← atEnd)

/-- Takes a character and the blanks behind it, and fails at the end. -/
def advanceInto : Parse Unit := do
  unless ← advanceOver do fail

/-- Takes a word if it comes next. -/
def takeWord (word : String) : Parse Bool := do
  let s ← get
  if word.toList.isPrefixOf s.rest then
    set { s with rest := s.rest.drop word.toList.length }
    return true
  return false

/-- The next character, or failure at the end. -/
def need : Parse Char := do
  match ← peek with
  | some c => return c
  | none => fail

/-- Takes the characters of a class, and the blanks behind each of them. -/
def takeOver (accept : Char → Bool) : Parse (List Char) := do
  go (← get).rest.length
where
  go : Nat → Parse (List Char)
    | 0 => return []
    | steps + 1 => do
      match ← peek with
      | some c =>
        if accept c then
          discard advanceOver
          return c :: (← go steps)
        return []
      | none => return []

/-- Takes characters and the blanks behind each of them up to a closing brace,
    which has to come, and leaves the brace. -/
def takeToBrace : Parse (List Char) := do
  let cs ← takeOver (· != '\x7d')
  if ← atEnd then fail
  return cs

end Parse

open Parse

/-! ### Escapes -/

/-- The characters with a meaning in patterns. -/
def isMeta (c : Char) : Bool := "\\.+*?()|[]\x7b\x7d^$#&-~".toList.contains c

/-- The characters that may be escaped although they need not be: in ASCII,
    all but letters, digits and the two angle brackets. -/
def isEscapable (c : Char) : Bool :=
  isMeta c || (c.toNat < 0x80 && !c.isAlphanum && c != '<' && c != '>')

/-- The number of some hexadecimal digits. -/
def hexCode? (cs : List Char) : Option Nat :=
  cs.foldlM (fun n c => (Json.Reader.hexValue? c).map fun d => n * 16 + d) 0

/-- The character with the given hexadecimal code, unless that is the code of
    a surrogate or too large. -/
def charOfHex? (cs : List Char) : Option Char := do
  let n ← hexCode? cs
  if n < 0xd800 ∨ (0xdfff < n ∧ n ≤ 0x10ffff) then some (Char.ofNat n) else none

/-- The digits of a code of fixed length. -/
def fixedHex : Nat → Parse (List Char)
  | 0 => return []
  | 1 => do
    let c ← need
    discard advanceOver
    return [c]
  | count + 1 => do
    let c ← need
    advanceInto
    return c :: (← fixedHex count)

/-- A character by its code, from the letter that says how the code is
    written. -/
def hexLiteral : Parse Ast := do
  let letter ← need
  advanceInto
  if (← peek) = some '\x7b' then
    discard advanceOver
    let cs ← takeToBrace
    discard advanceOver
    match cs, charOfHex? cs with
    | _ :: _, some c => return .literal c false
    | _, _ => fail
  else
    let cs ← fixedHex (if letter = 'x' then 2 else if letter = 'u' then 4 else 8)
    match charOfHex? cs with
    | some c => return .literal c (letter = 'x')
    | none => fail

/-- Splits a list at the first place where a list of characters stands. -/
def splitAt? (mark : List Char) : List Char → Option (List Char × List Char)
  | [] => none
  | c :: rest =>
    if mark.isPrefixOf (c :: rest) then some ([], (c :: rest).drop mark.length)
    else (splitAt? mark rest).map fun (before, after) => (c :: before, after)

/-- The property that the text between braces names. -/
def namedProperty? (cs : List Char) : Option Unicode.Property :=
  let value : List Char × List Char → Option Unicode.Property := fun (name, value) =>
    Unicode.Property.findValue? (String.ofList name) (String.ofList value)
  match splitAt? ['!', '='] cs with
  | some parts => value parts
  | none =>
    match splitAt? [':'] cs with
    | some parts => value parts
    | none =>
      match splitAt? ['='] cs with
      | some parts => value parts
      | none => Unicode.Property.find? (String.ofList cs)

/-- A property, from the letter that asks for it or for its complement. -/
def propertyEscape : Parse Ast := do
  let negated := (← need) = 'P'
  advanceInto
  let c ← need
  if c = '\x7b' then
    discard advanceOver
    let cs ← takeToBrace
    advance
    match namedProperty? cs with
    | some property => return .property negated property
    | none => fail
  else if c = '\\' then fail
  else
    discard advanceOver
    match Unicode.Property.find? (String.ofList [c]) with
    | some property => return .property negated property
    | none => fail

/-- The word boundary that a word in braces asks for. If the braces do not
    start with a letter they belong to a repetition. -/
def braceBoundary : Parse (Option Assertion) := do
  let start ← get
  advanceInto
  let isWordChar (c : Char) : Bool := c.isAlpha || c == '-'
  if isWordChar (← need) then
    let word ← takeOver isWordChar
    if (← peek) ≠ some '\x7d' then fail
    advance
    match String.ofList word with
    | "start" => return some .wordStart
    | "end" => return some .wordEnd
    | "start-half" => return some .wordStartHalf
    | "end-half" => return some .wordEndHalf
    | _ => fail
  else
    set start
    return none

/-- What an escape stands for, from its backslash. -/
def escape : Parse Ast := do
  advance
  let c ← need
  if c.isDigit then fail
  else if c = 'x' ∨ c = 'u' ∨ c = 'U' then hexLiteral
  else if c = 'p' ∨ c = 'P' then propertyEscape
  else do
    advance
    if isEscapable c then return .literal c false
    match c with
    | 'd' => return .letter false .digit
    | 'D' => return .letter true .digit
    | 's' => return .letter false .space
    | 'S' => return .letter true .space
    | 'w' => return .letter false .word
    | 'W' => return .letter true .word
    | 'a' => return .literal '\x07' false
    | 'f' => return .literal '\x0c' false
    | 't' => return .literal '\t' false
    | 'n' => return .literal '\n' false
    | 'r' => return .literal '\r' false
    | 'v' => return .literal '\x0b' false
    | 'A' => return .assertion .textStart
    | 'z' => return .assertion .textEnd
    | 'B' => return .assertion .notWordBoundary
    | '<' => return .assertion .wordStart
    | '>' => return .assertion .wordEnd
    | 'b' =>
      if (← peek) = some '\x7b' then
        return .assertion ((← braceBoundary).getD .wordBoundary)
      return .assertion .wordBoundary
    | _ => fail

/-! ### Classes -/

/-- The ranges of the ASCII classes with a name. -/
def asciiClass? (name : String) : Option Unicode.Ranges :=
  match name with
  | "alnum" => some [(0x30, 0x39), (0x41, 0x5a), (0x61, 0x7a)]
  | "alpha" => some [(0x41, 0x5a), (0x61, 0x7a)]
  | "ascii" => some [(0x00, 0x7f)]
  | "blank" => some [(0x09, 0x09), (0x20, 0x20)]
  | "cntrl" => some [(0x00, 0x1f), (0x7f, 0x7f)]
  | "digit" => some [(0x30, 0x39)]
  | "graph" => some [(0x21, 0x7e)]
  | "lower" => some [(0x61, 0x7a)]
  | "print" => some [(0x20, 0x7e)]
  | "punct" => some [(0x21, 0x2f), (0x3a, 0x40), (0x5b, 0x60), (0x7b, 0x7e)]
  | "space" => some [(0x09, 0x0d), (0x20, 0x20)]
  | "upper" => some [(0x41, 0x5a)]
  | "word" => some [(0x30, 0x39), (0x41, 0x5a), (0x5f, 0x5f), (0x61, 0x7a)]
  | "xdigit" => some [(0x30, 0x39), (0x41, 0x46), (0x61, 0x66)]
  | _ => none

/-- An ASCII class such as `[:alpha:]`, with what is left behind it. -/
def namedClass? (cs : List Char) : Option (ClassExpr × List Char) := do
  let body ← match cs with
    | '[' :: ':' :: rest => some rest
    | _ => none
  let (negated, body) := match body with
    | '^' :: rest => (true, rest)
    | _ => (false, body)
  let (name, rest) ← splitAt? [':'] body
  match rest with
  | ']' :: rest => do
    let ranges ← asciiClass? (String.ofList name)
    some (.ascii negated ranges, rest)
  | _ => none

/-- The next character but for blanks and the hash of a comment, as the reader
    of ranges looks ahead. -/
def peekOver : Parse (Option Char) := do
  let s ← get
  if s.verbose then
    let ahead := (s.rest.drop 1).dropWhile isBlank
    let ahead := match ahead with
      | '#' :: rest => rest.dropWhile isBlank
      | _ => ahead
    return if ahead.isEmpty then (s.rest.drop 1).head? else ahead.head?
  return (s.rest.drop 1).head?

/-- A single member of a class, before it is known whether a range follows. -/
def classMember : Parse Ast := do
  let c ← need
  if c = '\\' then escape
  else
    advance
    return .literal c false

/-- A member of a class that stands alone. -/
def memberExpr : Ast → Parse ClassExpr
  | .literal c byte => return .char c byte
  | .letter negated kind => return .letter negated kind
  | .property negated property => return .property negated property
  | _ => fail

/-- A member of a class or a range of characters. -/
def classRange : Parse ClassExpr := do
  let first ← classMember
  skipBlanks
  if ← atEnd then fail
  let ahead ← peekOver
  if (← peek) ≠ some '-' ∨ ahead = some ']' ∨ ahead = some '-' then memberExpr first
  else
    advanceInto
    let last ← classMember
    match first, last with
    | .literal a aByte, .literal b bByte =>
      if a ≤ b then return .range a aByte b bByte else fail
    | _, _ => fail

/-- The hyphens that open a class and stand for themselves. -/
def leadingHyphens : Nat → Parse (List ClassExpr)
  | 0 => return []
  | steps + 1 => do
    if (← peek) = some '-' then
      advanceInto
      return .char '-' false :: (← leadingHyphens steps)
    return []

/-- The start of a class, from its bracket: whether it is negated, and the
    hyphens or the closing bracket that stand for themselves there. -/
def classStart : Parse (Bool × List ClassExpr) := do
  advanceInto
  let negated := (← peek) = some '^'
  if negated then advanceInto
  let hyphens ← leadingHyphens (← get).rest.length
  if hyphens.isEmpty && (← peek) = some ']' then
    advanceInto
    return (negated, [.char ']' false])
  return (negated, hyphens)

/-- The operator between two parts of a class, if it comes next. -/
def setOp? : Parse (Option SetOp) := do
  if ← takeWord "&&" then return some .inter
  if ← takeWord "--" then return some .difference
  if ← takeWord "~~" then return some .symmetricDifference
  return none

/-- Joins what stands left of an operator with what stands right of it. All
    operators bind alike, and to the left. -/
def joinOperand (left : Option (ClassExpr × SetOp)) (right : ClassExpr) : ClassExpr :=
  match left with
  | some (left, op) => .op op left right
  | none => right

/-- What stands in a class up to its closing bracket. `left` is what stands
    before the last operator, `parts` what has been read since, the last part
    first. -/
def classBody (nested : Parse ClassExpr) :
    Nat → Option (ClassExpr × SetOp) → List ClassExpr → Parse ClassExpr
  | 0, _, _ => fail
  | steps + 1, left, parts => do
    skipBlanks
    let c ← need
    if c = '[' then
      match namedClass? (← get).rest with
      | some (part, rest) =>
        modify fun s => { s with rest }
        classBody nested steps left (part :: parts)
      | none => classBody nested steps left ((← nested) :: parts)
    else if c = ']' then
      advance
      return joinOperand left (.ofUnion parts.reverse)
    else
      match ← setOp? with
      | some op =>
        classBody nested steps (some (joinOperand left (.ofUnion parts.reverse), op)) []
      | none => classBody nested steps left ((← classRange) :: parts)

/-- A class, from its bracket. -/
def bracketClass : Nat → Parse ClassExpr
  | 0 => fail
  | depth + 1 => do
    let (negated, parts) ← classStart
    let body ← classBody (bracketClass depth) ((← get).rest.length + 1) none parts.reverse
    return .bracket negated body

/-! ### Groups -/

/-- The flag that a letter stands for. -/
def flag? (c : Char) : Option Flag :=
  match c with
  | 'i' => some .caseless
  | 'm' => some .multiLine
  | 's' => some .dotAll
  | 'U' => some .swapGreed
  | 'u' => some .unicode
  | 'R' => some .crlf
  | 'x' => some .verbose
  | _ => none

/-- The flags up to the colon or parenthesis behind them. A flag may occur
    once, and so may the hyphen, which clears the flags behind it and must be
    followed by one. -/
def flagItems : Nat → Bool → List FlagItem → Parse (List FlagItem)
  | 0, _, _ => fail
  | steps + 1, on, items => do
    let c ← need
    if c = ':' ∨ c = ')' then
      return items.reverse
    advance
    if c = '-' then
      let next ← need
      if on && next ≠ ':' && next ≠ ')' then flagItems steps false items else fail
    else
      match flag? c with
      | some flag =>
        if items.any fun item => item.flag = flag then fail
        else flagItems steps on (⟨flag, on⟩ :: items)
      | none => fail

/-- Whether a character may stand in the name of a group, and at its start. -/
def isNameChar (first : Bool) (c : Char) : Bool :=
  c == '_' || Unicode.isAlphabetic c ||
    (!first && (c == '.' || c == '[' || c == ']' || Unicode.isNumeric c))

/-- The name of a group up to its angle bracket. -/
def groupName : Parse String := do
  let s ← get
  let name := s.rest.takeWhile (· != '>')
  match name, s.rest.drop name.length with
  | c :: more, _ :: rest =>
    if isNameChar true c && more.all (isNameChar false) then
      set { s with rest }
      return String.ofList name
    fail
  | _, _ => fail

/-- Opens a capture group and returns its number. -/
def openCapture : Parse Nat := do
  modify fun s => { s with groups := s.groups + 1 }
  return (← get).groups

/-- What opens with a parenthesis. -/
inductive Opening where
  | flags (items : List FlagItem)
  | group (kind : GroupKind)

/-- The start of a group, from its parenthesis. Patterns cannot look around. -/
def groupStart : Parse Opening := do
  advance
  skipBlanks
  let rest := (← get).rest
  if ["?=", "?!", "?<=", "?<!"].any fun mark => mark.toList.isPrefixOf rest then fail
  else if (← takeWord "?P<") || (← takeWord "?<") then
    let index ← openCapture
    return .group (.capture index (some (← groupName)))
  else if ← takeWord "?" then
    let items ← flagItems ((← get).rest.length + 1) true []
    let close ← need
    advance
    if close = ':' then return .group (.plain items)
    else if items.isEmpty then fail
    else return .flags items
  else return .group (.capture (← openCapture) none)

/-- Whether blanks count after some flags. -/
def verboseAfter (items : List FlagItem) (verbose : Bool) : Bool :=
  match items.find? fun item => item.flag = .verbose with
  | some item => item.on
  | none => verbose

/-! ### Repetitions -/

/-- Flags and nothing at all cannot be repeated. -/
def isRepeatable : Ast → Bool
  | .empty | .flags _ => false
  | _ => true

/-- Whether a repetition is greedy, from behind its operator. -/
def takeGreed : Parse Bool := do
  if (← peek) = some '?' then
    advance
    return false
  return true

/-- A decimal number of at most 32 bits, with any blanks around it; nothing if
    there is no digit. -/
def decimal : Parse (Option Nat) := do
  modify fun s => { s with rest := s.rest.dropWhile isBlank }
  let digits ← takeOver Char.isDigit
  modify fun s => { s with rest := s.rest.dropWhile isBlank }
  if digits.isEmpty then return none
  let n := digits.foldl (fun n c => n * 10 + (c.toNat - '0'.toNat)) 0
  if n < 0x100000000 then return some n else fail

/-- The bounds of a repetition, from behind the opening brace up to and with
    the closing one. -/
def bounds : Parse (Nat × Option Nat) := do
  let min ← decimal
  if (← need) = ',' then
    advanceInto
    match min, ← peek with
    | some min, some '\x7d' => return (min, none)
    | some min, _ =>
      match ← decimal with
      | some max => return (min, some max)
      | none => fail
    | none, _ => fail
  else
    match min with
    | some n => return (n, some n)
    | none => fail

/-- A repetition of the part before it, from its operator. -/
def repetition (body : Ast) : Parse Ast := do
  unless isRepeatable body do fail
  let c ← need
  if c = '\x7b' then
    advanceInto
    let (min, max) ← bounds
    if (← peek) ≠ some '\x7d' then fail
    let more ← advanceOver
    let greedy ← if more then takeGreed else pure true
    match max with
    | some max => if min ≤ max then return .repetition min (some max) greedy body else fail
    | none => return .repetition min none greedy body
  else
    advance
    let greedy ← takeGreed
    match c with
    | '?' => return .repetition 0 (some 1) greedy body
    | '*' => return .repetition 0 none greedy body
    | _ => return .repetition 1 none greedy body

/-! ### Patterns -/

/-- A part of a pattern that is neither a group nor a class. -/
def primitive : Parse Ast := do
  let c ← need
  match c with
  | '\\' => escape
  | '.' => advance; return .dot
  | '^' => advance; return .assertion .lineStart
  | '$' => advance; return .assertion .lineEnd
  | _ => advance; return .literal c false

/-- The parts of a sequence, up to a bar, a closing parenthesis or the end;
    `parts` has been read, the last part first. -/
def sequenceOf (group : Parse Ast) (depth : Nat) : Nat → List Ast → Parse Ast
  | 0, _ => fail
  | steps + 1, parts => do
    skipBlanks
    match ← peek with
    | none | some '|' | some ')' => return .ofConcat parts.reverse
    | some '(' => sequenceOf group depth steps ((← group) :: parts)
    | some '[' =>
      match ← bracketClass depth with
      | .bracket negated body => sequenceOf group depth steps (.bracket negated body :: parts)
      | _ => fail
    | some c =>
      if c = '?' ∨ c = '*' ∨ c = '+' ∨ c = '\x7b' then
        match parts with
        | part :: parts => sequenceOf group depth steps ((← repetition part) :: parts)
        | [] => fail
      else sequenceOf group depth steps ((← primitive) :: parts)

/-- The alternatives of a pattern or group; the first has been read. -/
def alternatives (sequence : Parse Ast) : Nat → List Ast → Parse Ast
  | 0, _ => fail
  | steps + 1, parts => do
    if (← peek) = some '|' then
      advance
      alternatives sequence steps ((← sequence) :: parts)
    else
      match parts with
      | [part] => return part
      | _ => return .alternate parts.reverse

/-- A pattern with groups that nest at most `depth` deep. -/
def pattern : Nat → Parse Ast
  | 0 => fail
  | depth + 1 => do
    let group : Parse Ast := do
      match ← groupStart with
      | .flags items =>
        modify fun s => { s with verbose := verboseAfter items s.verbose }
        return .flags items
      | .group kind =>
        let verbose := (← get).verbose
        if let .plain items := kind then
          modify fun s => { s with verbose := verboseAfter items s.verbose }
        let body ← pattern depth
        if (← peek) ≠ some ')' then fail
        advance
        modify fun s => { s with verbose }
        return .group kind body
    let length := (← get).rest.length
    let sequence := sequenceOf group (length + 1) (length + 1) []
    alternatives sequence (length + 1) [← sequence]

/-- How deep a pattern may nest. -/
def nestingLimit : Nat := 250

/-- Reads the text of a pattern. No two groups may have the same name. -/
def Ast.read? (text : String) : Option Ast := do
  let cs := text.toList
  let (ast, s) ← (pattern (cs.length + 1)).run ⟨cs, false, 0⟩
  if s.rest.isEmpty ∧ ast.depth ≤ nestingLimit ∧ ast.groupNames.Nodup then some ast else none

end Regex

end LogQuery
