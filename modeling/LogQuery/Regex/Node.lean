import LogQuery.Regex.Ast

/-!
# The Meaning of a Pattern

The tree of a pattern with its flags worked in. What is left are sets of
characters, assertions about places, captures, and the three ways to combine
them. Flags are threaded through the tree from left to right: a group of flags
changes them for everything behind it in the same group, also beyond a bar.

A text is a list of characters here, so a pattern must not ask for single
bytes outside ASCII; with the Unicode flag off most classes would, and then
the pattern has no meaning.

A repetition of something that takes no characters repeats it at most once,
and a repetition that is never taken disappears together with the captures
inside it.

## Main definitions

* `Regex.Node`: The meaning of a pattern.
* `Regex.Flags`: The flags in force.
* `Regex.Node.ofAst?`: The meaning of a tree, if it has one.
* `Regex.Node.captures`: The captures of a node.
-/

namespace LogQuery

namespace Regex

/-- What an assertion says about the characters on both sides of a place. -/
inductive Look where
  | textStart
  | textEnd
  | lineStart
  | lineEnd
  /-- Lines that end with a carriage return, a newline, or both. -/
  | anyLineStart
  | anyLineEnd
  /-- A boundary of words, and whether only ASCII words count. -/
  | boundary (ascii : Bool)
  | noBoundary (ascii : Bool)
  | wordStart (ascii : Bool)
  | wordEnd (ascii : Bool)
  | wordStartHalf (ascii : Bool)
  | wordEndHalf (ascii : Bool)
deriving DecidableEq, Repr

/-- The meaning of a pattern. -/
inductive Node where
  | empty
  | set (set : CharSet)
  | look (look : Look)
  | repetition (min : Nat) (max : Option Nat) (greedy : Bool) (body : Node)
  | capture (index : Nat) (name : Option String) (body : Node)
  | concat (parts : List Node)
  | alternate (parts : List Node)

instance : Inhabited Node := ⟨.empty⟩

/-- The flags in force. -/
structure Flags where
  caseless : Bool
  multiLine : Bool
  dotAll : Bool
  swapGreed : Bool
  unicode : Bool
  crlf : Bool
deriving DecidableEq, Repr

namespace Flags

/-- The flags at the start of a pattern. -/
def initial : Flags := ⟨false, false, false, false, true, false⟩

/-- Sets or clears a flag. Blanks have been dealt with by the reader. -/
def apply (flags : Flags) (item : FlagItem) : Flags :=
  match item.flag with
  | .caseless => { flags with caseless := item.on }
  | .multiLine => { flags with multiLine := item.on }
  | .dotAll => { flags with dotAll := item.on }
  | .swapGreed => { flags with swapGreed := item.on }
  | .unicode => { flags with unicode := item.on }
  | .crlf => { flags with crlf := item.on }
  | .verbose => flags

def applyAll (flags : Flags) (items : List FlagItem) : Flags := items.foldl apply flags

end Flags

/-! ### Sets -/

namespace CharSet

/-- The ASCII members of a class with a letter. -/
def asciiLetter : LetterClass → CharSet
  | .digit => ranges [(0x30, 0x39)]
  | .space => ranges [(0x09, 0x0d), (0x20, 0x20)]
  | .word => ranges [(0x30, 0x39), (0x41, 0x5a), (0x5f, 0x5f), (0x61, 0x7a)]

/-- The members of a class with a letter. -/
def unicodeLetter : LetterClass → CharSet
  | .digit => ranges Unicode.digitRanges
  | .space =>
    ranges [(0x09, 0x0d), (0x20, 0x20), (0x85, 0x85), (0xa0, 0xa0), (0x1680, 0x1680),
      (0x2000, 0x200a), (0x2028, 0x2029), (0x202f, 0x202f), (0x205f, 0x205f),
      (0x3000, 0x3000)]
  | .word => property ⟨Unicode.wordTables, false⟩

/-- Adds the other cases of the members, if case does not count. -/
def foldIf (flags : Flags) (a : CharSet) : CharSet :=
  if flags.caseless then (if flags.unicode then folded a else foldedAscii a) else a

/-- A set of bytes, unless it reaches beyond ASCII. -/
def asBytes? (a : CharSet) : Option CharSet := if a.onlyAscii then some a else none

/-- Folds and negates the members of a class. -/
def finish? (flags : Flags) (negated : Bool) (a : CharSet) : Option CharSet :=
  let a := negateIf negated (foldIf flags a)
  if flags.unicode then some a else asBytes? a

/-- A class with a letter. It is closed under case already. -/
def ofLetter? (flags : Flags) (negated : Bool) (kind : LetterClass) : Option CharSet :=
  if flags.unicode then some (negateIf negated (unicodeLetter kind))
  else asBytes? (negateIf negated (asciiLetter kind))

/-- A property, which only Unicode has. -/
def ofProperty? (flags : Flags) (negated : Bool) (p : Unicode.Property) : Option CharSet :=
  if flags.unicode then finish? flags negated (property p) else none

/-- The code of a character inside a class. -/
def memberCode? (flags : Flags) (c : Char) : Option Nat :=
  if flags.unicode || c.toNat < 0x80 then some c.toNat else none

/-- The members that an operator leaves. -/
def combine : SetOp → CharSet → CharSet → CharSet
  | .inter, a, b => inter a b
  | .difference, a, b => difference a b
  | .symmetricDifference, a, b => symmetricDifference a b

mutual

/-- The set that a part of a class stands for. -/
def ofClass? (flags : Flags) : ClassExpr → Option CharSet
  | .char c _ => (memberCode? flags c).map single
  | .range first _ last _ => do
    some (ranges [(← memberCode? flags first, ← memberCode? flags last)])
  | .ascii negated rs => finish? flags negated (ranges rs)
  | .letter negated kind => ofLetter? flags negated kind
  | .property negated p => ofProperty? flags negated p
  | .bracket negated body => do finish? flags negated (← ofClass? flags body)
  | .union parts => ofClasses? flags parts
  | .op op left right => do
    some (combine op (foldIf flags (← ofClass? flags left)) (foldIf flags (← ofClass? flags right)))

def ofClasses? (flags : Flags) : List ClassExpr → Option CharSet
  | [] => some empty
  | part :: parts => do some (union (← ofClass? flags part) (← ofClasses? flags parts))

end

/-- A character outside a class. -/
def ofLiteral? (flags : Flags) (c : Char) (byte : Bool) : Option CharSet :=
  let n := c.toNat
  if !flags.unicode && byte && 0x80 ≤ n then none
  else if flags.caseless then
    if flags.unicode then some (ofList (Unicode.foldSet n))
    else if c.isAlpha then some (ofList [n, otherCase n])
    else some (single n)
  else some (single n)

/-- Any character, or any but those that end a line. -/
def dot? (flags : Flags) : Option CharSet :=
  if !flags.unicode then none
  else if flags.dotAll then some (complement empty)
  else if flags.crlf then some (complement (ranges [(0x0a, 0x0a), (0x0d, 0x0d)]))
  else some (complement (single 0x0a))

end CharSet

/-! ### Nodes -/

namespace Node

/-- The meaning of an assertion. -/
def lookOf (flags : Flags) : Assertion → Look
  | .textStart => .textStart
  | .textEnd => .textEnd
  | .lineStart =>
    if !flags.multiLine then .textStart else if flags.crlf then .anyLineStart else .lineStart
  | .lineEnd =>
    if !flags.multiLine then .textEnd else if flags.crlf then .anyLineEnd else .lineEnd
  | .wordBoundary => .boundary (!flags.unicode)
  | .notWordBoundary => .noBoundary (!flags.unicode)
  | .wordStart => .wordStart (!flags.unicode)
  | .wordEnd => .wordEnd (!flags.unicode)
  | .wordStartHalf => .wordStartHalf (!flags.unicode)
  | .wordEndHalf => .wordEndHalf (!flags.unicode)

mutual

/-- Whether a node can only take no characters. -/
def takesNothing : Node → Bool
  | .empty | .look _ => true
  | .set _ => false
  | .repetition _ max _ body => max == some 0 || body.takesNothing
  | .capture _ _ body => body.takesNothing
  | .concat parts | .alternate parts => takeNothing parts

def takeNothing : List Node → Bool
  | [] => true
  | part :: parts => part.takesNothing && takeNothing parts

end

mutual

/-- Whether a node always takes some character. -/
def takesSomething : Node → Bool
  | .empty | .look _ => false
  | .set _ => true
  | .repetition min _ _ body => min != 0 && body.takesSomething
  | .capture _ _ body => body.takesSomething
  | .concat parts => someTakesSomething parts
  | .alternate parts => allTakeSomething parts

def someTakesSomething : List Node → Bool
  | [] => false
  | part :: parts => part.takesSomething || someTakesSomething parts

def allTakeSomething : List Node → Bool
  | [] => true
  | part :: parts => part.takesSomething && allTakeSomething parts

end

/-- A repetition with its bounds brought down to those that matter. -/
def repeated (min : Nat) (max : Option Nat) (greedy : Bool) (body : Node) : Node :=
  let (min, max) :=
    if body.takesNothing then (Nat.min min 1, some (Nat.min (max.getD 1) 1)) else (min, max)
  if max = some 0 then .empty
  else if min = 1 ∧ max = some 1 then body
  else .repetition min max greedy body

mutual

/-- The captures of a node with their numbers, in the order of their opening. -/
def captures : Node → List (Nat × Option String)
  | .empty | .set _ | .look _ => []
  | .repetition _ _ _ body => body.captures
  | .capture index name body => (index, name) :: body.captures
  | .concat parts | .alternate parts => capturesList parts

def capturesList : List Node → List (Nat × Option String)
  | [] => []
  | part :: parts => part.captures ++ capturesList parts

end

mutual

/-- The meaning of a tree under some flags, and the flags behind it. -/
def ofAst? (flags : Flags) : Ast → Option (Node × Flags)
  | .empty => some (.empty, flags)
  | .flags items => some (.empty, flags.applyAll items)
  | .literal c byte => (CharSet.ofLiteral? flags c byte).map fun s => (.set s, flags)
  | .dot => (CharSet.dot? flags).map fun s => (.set s, flags)
  | .assertion kind => some (.look (lookOf flags kind), flags)
  | .letter negated kind => (CharSet.ofLetter? flags negated kind).map fun s => (.set s, flags)
  | .property negated p => (CharSet.ofProperty? flags negated p).map fun s => (.set s, flags)
  | .bracket negated body => do
    let s ← CharSet.ofClass? flags body
    some (.set (← CharSet.finish? flags negated s), flags)
  | .repetition min max greedy body => do
    let (node, flags) ← ofAst? flags body
    some (repeated min max (greedy != flags.swapGreed) node, flags)
  | .group (.capture index name) body => do
    let (node, _) ← ofAst? flags body
    some (.capture index name node, flags)
  | .group (.plain items) body => do
    let (node, _) ← ofAst? (flags.applyAll items) body
    some (node, flags)
  | .concat parts => do
    let (nodes, flags) ← ofAsts? flags parts
    some (.concat nodes, flags)
  | .alternate parts => do
    let (nodes, flags) ← ofAsts? flags parts
    some (.alternate nodes, flags)

def ofAsts? (flags : Flags) : List Ast → Option (List Node × Flags)
  | [] => some ([], flags)
  | part :: parts => do
    let (node, flags) ← ofAst? flags part
    let (nodes, flags) ← ofAsts? flags parts
    some (node :: nodes, flags)

end

end Node

end Regex

end LogQuery
