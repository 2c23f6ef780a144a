import LogQuery.Unicode.Property

/-!
# Sets of Characters

What a single position of a pattern accepts. A set is an expression over
ranges and properties and is evaluated at one code point at a time; to match
it is never expanded. That makes case folding simple: folding is an
equivalence of characters, so a character belongs to the folded set exactly
when some character that it folds together with belongs to the set.

## Main definitions

* `Regex.CharSet`: A set of code points.
* `Regex.CharSet.contains`: Membership.
* `Regex.CharSet.onlyAscii`: Whether a set of bytes stays within ASCII.
* `Regex.CharSet.toRanges`: All members, as ranges.
-/

namespace LogQuery

namespace Regex

/-- A set of code points. -/
inductive CharSet where
  | ranges (ranges : Unicode.Ranges)
  | property (property : Unicode.Property)
  | union (a b : CharSet)
  | inter (a b : CharSet)
  | complement (a : CharSet)
  /-- Closure under simple case folding. -/
  | folded (a : CharSet)
  /-- Closure under the case of ASCII letters. -/
  | foldedAscii (a : CharSet)
deriving DecidableEq

namespace CharSet

instance : Inhabited CharSet := ⟨ranges []⟩

/-- The other case of an ASCII letter. -/
def otherCase (n : Nat) : Nat :=
  if 0x41 ≤ n ∧ n ≤ 0x5a then n + 0x20
  else if 0x61 ≤ n ∧ n ≤ 0x7a then n - 0x20
  else n

/-- Whether a code point belongs to the set. -/
def contains : CharSet → Nat → Bool
  | ranges rs, n => rs.contains n
  | property p, n => p.contains n
  | union a b, n => a.contains n || b.contains n
  | inter a b, n => a.contains n && b.contains n
  | complement a, n => !a.contains n
  | folded a, n => (Unicode.foldSet n).any fun m => a.contains m
  | foldedAscii a, n => a.contains n || a.contains (otherCase n)

/-- The set with no members. -/
def empty : CharSet := ranges []

/-- The set of one character. -/
def single (n : Nat) : CharSet := ranges [(n, n)]

/-- The set of a list of characters. -/
def ofList (ns : List Nat) : CharSet := ranges ((ns.mergeSort).map fun n => (n, n))

/-- The members of `a` that are not in `b`. -/
def difference (a b : CharSet) : CharSet := inter a (complement b)

/-- The members of exactly one of the sets. -/
def symmetricDifference (a b : CharSet) : CharSet := union (difference a b) (difference b a)

/-- The set or its complement. -/
def negateIf (negated : Bool) (a : CharSet) : CharSet :=
  if negated then complement a else a

/-- Whether no byte outside ASCII belongs to a set of bytes. -/
def onlyAscii (a : CharSet) : Bool :=
  (List.range 128).all fun i => !a.contains (i + 128)

/-- The ranges of the members, apart from each other. -/
def toRanges : CharSet → Unicode.Ranges
  | ranges rs => rs.normal
  | property p =>
    let members := Unicode.Ranges.normal p.tables.flatten
    if p.complement then members.gaps else members
  | union a b => Unicode.Ranges.normal (a.toRanges ++ b.toRanges)
  | inter a b => (Unicode.Ranges.normal (a.toRanges.gaps ++ b.toRanges.gaps)).gaps
  | complement a => a.toRanges.gaps
  | folded a =>
    let members := a.toRanges
    let added := Unicode.foldSets.filter fun set => set.any members.contains
    Unicode.Ranges.normal (members ++ added.flatten.map fun n => (n, n))
  | foldedAscii a =>
    let members := a.toRanges
    let added := (List.range 0x80).filter fun n => members.contains (otherCase n)
    Unicode.Ranges.normal (members ++ added.map fun n => (n, n))

end CharSet

end Regex

end LogQuery
