import LogQuery.Regex.Reader
import LogQuery.Regex.Search

/-!
# Patterns

A pattern is a regular expression that is searched anywhere in a text. Its
named groups turn into variables: a match reports, in the order in which the
pattern opens them, the groups that took part in it and the text they hold.

The names of the groups are distinct and not empty, and that is part of the
type, since the variables of a query are bound straight from them.

## Main definitions

* `Pattern`: A regular expression that has been accepted.
* `Pattern.compile?`: The pattern of a source, if it is a regular expression.
* `Pattern.isMatch`: Whether the pattern occurs in a text.
* `Pattern.captures`: The named groups that took part in the first match.
-/

namespace LogQuery

open Regex (Program Slots)

/-- A regular expression that has been accepted. -/
structure Pattern where
  /-- The expression as it was written. -/
  source : String
  /-- The names of the named groups, in the order of their opening. -/
  groups : List String
  program : Program
  groups_nodup : groups.Nodup
  groups_nonempty : ∀ name ∈ groups, name ≠ ""

namespace Pattern

/-- Accepts a source that is a regular expression with a program of bearable
    size. -/
def compile? (source : String) : Option Pattern := do
  let ast ← Regex.Ast.read? source
  let (node, _) ← Regex.Node.ofAst? .initial ast
  let groups := node.captures.filterMap Prod.snd
  let program ← Program.ofNode? groups node
  if h : groups.Nodup ∧ ∀ name ∈ groups, name ≠ "" then
    some ⟨source, groups, program, h.1, h.2⟩
  else none

/-- The positions noted by the match that is to be preferred, two for each
    group. -/
def slots (p : Pattern) (text : String) : Option Slots :=
  p.program.search (2 * p.groups.length) text.toList

/-- Whether the pattern occurs in a text. A search for that notes no positions. -/
def isMatch (p : Pattern) (text : String) : Bool := (p.program.search 0 text.toList).isSome

/-- The characters of a text from one position up to another. -/
def cut (text : String) (first last : Nat) : String :=
  String.ofList ((text.toList.drop first).take (last - first))

/-- What the group with the given number holds, if it took part in a match. -/
def capture? (text : String) (slots : Slots) (i : Nat) : Option String := do
  let first ← (slots[2 * i]?).join
  let last ← (slots[2 * i + 1]?).join
  some (cut text first last)

/-- The groups that took part in a match and what they hold; `i` is the number
    of the first of the names. -/
def capturesFrom (text : String) (slots : Slots) (i : Nat) :
    List String → List (String × String)
  | [] => []
  | name :: rest =>
    match capture? text slots i with
    | some held => (name, held) :: capturesFrom text slots (i + 1) rest
    | none => capturesFrom text slots (i + 1) rest

/-- The named groups that took part in the match, in the order of the pattern,
    or nothing when there is no match. Without named groups it is enough to know
    that there is one. -/
def captures (p : Pattern) (text : String) : Option (List (String × String)) :=
  if p.groups.isEmpty then if p.isMatch text then some [] else none
  else (p.slots text).map fun slots => capturesFrom text slots 0 p.groups

end Pattern

end LogQuery
