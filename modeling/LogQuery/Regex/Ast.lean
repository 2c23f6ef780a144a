import LogQuery.Regex.CharSet

/-!
# The Written Form of a Pattern

The tree of a pattern as it is written. Flags are part of the tree: a group of
flags applies from where it stands to the end of the enclosing group, so what
a literal or a class means is known only once the tree is walked with the
flags in force.

Patterns may nest only so deep, classes included. `Ast.depth` is the measure,
and a tree with one child in place of a list does not count the list.

## Main definitions

* `Regex.Ast`: The tree of a pattern.
* `Regex.ClassExpr`: What stands inside a class.
* `Regex.FlagItem`: A flag that is set or cleared.
* `Regex.Ast.depth`: How deep a tree nests.
* `Regex.Ast.groupNames`: The names of its capture groups.
-/

namespace LogQuery

namespace Regex

/-- A flag. -/
inductive Flag where
  | caseless
  | multiLine
  | dotAll
  | swapGreed
  | unicode
  | crlf
  /-- Blanks and comments between the parts of the pattern do not count. -/
  | verbose
deriving DecidableEq, Repr

/-- A flag and whether it is set or cleared. -/
structure FlagItem where
  flag : Flag
  on : Bool
deriving DecidableEq, Repr

/-- The classes with a letter of their own. -/
inductive LetterClass where
  | digit
  | space
  | word
deriving DecidableEq, Repr

/-- The operators between parts of a class. -/
inductive SetOp where
  | inter
  | difference
  | symmetricDifference
deriving DecidableEq, Repr

/-- What stands inside a class. -/
inductive ClassExpr where
  /-- A character; the flag tells that it is written as a byte. -/
  | char (c : Char) (byte : Bool)
  | range (first : Char) (firstByte : Bool) (last : Char) (lastByte : Bool)
  /-- A named ASCII class. -/
  | ascii (negated : Bool) (ranges : Unicode.Ranges)
  | letter (negated : Bool) (kind : LetterClass)
  | property (negated : Bool) (property : Unicode.Property)
  | bracket (negated : Bool) (body : ClassExpr)
  | union (parts : List ClassExpr)
  | op (op : SetOp) (left right : ClassExpr)

/-- Assertions about a place between two characters. -/
inductive Assertion where
  | lineStart
  | lineEnd
  | textStart
  | textEnd
  | wordBoundary
  | notWordBoundary
  | wordStart
  | wordEnd
  | wordStartHalf
  | wordEndHalf
deriving DecidableEq, Repr

/-- What a group is for. -/
inductive GroupKind where
  /-- A capture, with its number and perhaps a name. -/
  | capture (index : Nat) (name : Option String)
  /-- A group that only holds its parts together, under some flags. -/
  | plain (flags : List FlagItem)
deriving DecidableEq

/-- The tree of a pattern. -/
inductive Ast where
  | empty
  /-- Flags for the rest of the enclosing group. -/
  | flags (items : List FlagItem)
  | literal (c : Char) (byte : Bool)
  | dot
  | assertion (kind : Assertion)
  | letter (negated : Bool) (kind : LetterClass)
  | property (negated : Bool) (property : Unicode.Property)
  | bracket (negated : Bool) (body : ClassExpr)
  | repetition (min : Nat) (max : Option Nat) (greedy : Bool) (body : Ast)
  | group (kind : GroupKind) (body : Ast)
  | concat (parts : List Ast)
  | alternate (parts : List Ast)

instance : Inhabited ClassExpr := ⟨.union []⟩

instance : Inhabited Ast := ⟨.empty⟩

mutual

/-- How deep the parts of a class nest. -/
def ClassExpr.depth : ClassExpr → Nat
  | .char .. | .range .. | .ascii .. | .letter .. | .property .. | .union [] => 0
  | .bracket _ body => body.depth + 1
  | .union (part :: parts) => max part.depth (ClassExpr.depthList parts) + 1
  | .op _ left right => max left.depth right.depth + 1

def ClassExpr.depthList : List ClassExpr → Nat
  | [] => 0
  | part :: parts => max part.depth (ClassExpr.depthList parts)

end

mutual

/-- How deep a tree nests. -/
def Ast.depth : Ast → Nat
  | .empty | .flags _ | .literal .. | .dot | .assertion _ | .letter .. | .property .. => 0
  | .bracket _ body => body.depth + 1
  | .repetition _ _ _ body | .group _ body => body.depth + 1
  | .concat parts | .alternate parts => Ast.depthList parts + 1

def Ast.depthList : List Ast → Nat
  | [] => 0
  | part :: parts => max part.depth (Ast.depthList parts)

end

mutual

/-- The names of the capture groups of a tree, in the order of their opening. -/
def Ast.groupNames : Ast → List String
  | .repetition _ _ _ body => body.groupNames
  | .group (.capture _ (some name)) body => name :: body.groupNames
  | .group _ body => body.groupNames
  | .concat parts | .alternate parts => Ast.groupNamesList parts
  | .empty | .flags _ | .literal .. | .dot | .assertion _ | .letter .. | .property ..
  | .bracket .. => []

def Ast.groupNamesList : List Ast → List String
  | [] => []
  | part :: parts => part.groupNames ++ Ast.groupNamesList parts

end

/-- The parts in sequence; one part stands for itself. -/
def Ast.ofConcat : List Ast → Ast
  | [] => .empty
  | [part] => part
  | parts => .concat parts

/-- The union of the parts of a class; one part stands for itself. -/
def ClassExpr.ofUnion : List ClassExpr → ClassExpr
  | [part] => part
  | parts => .union parts

end Regex

end LogQuery
