import LogQuery.Regex.Node

/-!
# Sizes of Patterns

A short pattern may stand for a very large automaton, since repetitions with
bounds are spelled out. So a pattern is refused when its automaton would take
more than ten mebibytes.

The automaton that counts is the one over the bytes of UTF-8 that reads a text
backwards, because sets of characters share less there: the encodings of a set
are sequences of byte ranges, and two of them have states in common only where
they start with the same ranges. A state takes 32 bytes, a choice four more
for each way, and a set within ASCII is a single state with eight bytes for
each range.

A group takes two states in the automaton that reads forwards and none in the
other. Here they are counted along with the sets, while what is kept of a group
besides its states, such as its name, is not counted at all. So for a pattern with
very many groups the answer may be another one close to the limit.

## Main definitions

* `Regex.byteSequences`: The encodings of a range, as sequences of ranges.
* `Regex.setSize`: The size of the automaton of a set.
* `Regex.Node.size`: The size of the automaton of a pattern.
* `Regex.sizeLimit`: The size that is still accepted.
-/

namespace LogQuery

namespace Regex

/-! ### Sets -/

/-- The numbers of a range as sequences of digit ranges to the base 64, where
    the first digit may be larger. Numbers that differ only in digits that
    take all values share a sequence. -/
def byteSequences : Nat → Nat → Nat → List Unicode.Ranges
  | 0, first, last => [[(first, last)]]
  | more + 1, first, last =>
    let block := 64 <<< (6 * more)
    let low := first / block
    let high := last / block
    if low = high then
      (byteSequences more (first % block) (last % block)).map ((low, low) :: ·)
    else
      let fromStart := first % block = 0
      let toEnd := last % block = block - 1
      let head := if fromStart then []
        else (byteSequences more (first % block) (block - 1)).map ((low, low) :: ·)
      let tail := if toEnd then []
        else (byteSequences more 0 (last % block)).map ((high, high) :: ·)
      let low := if fromStart then low else low + 1
      let high := if toEnd then high else high - 1
      let middle := if low ≤ high then [(low, high) :: List.replicate (more + 1) (0, 63)] else []
      head ++ middle ++ tail

/-- The code points whose encodings have the same length, and how many bytes
    follow the first one. The surrogates have none. -/
def encodingBlocks : List (Nat × Nat × Nat) :=
  [(0, 0x7f, 0), (0x80, 0x7ff, 1), (0x800, 0xd7ff, 2), (0xe000, 0xffff, 2),
    (0x10000, 0x10ffff, 3)]

/-- The part of a range inside a block. -/
def clip (block range : Nat × Nat) : Unicode.Ranges :=
  let first := Nat.max block.1 range.1
  let last := Nat.min block.2 range.2
  if first ≤ last then [(first, last)] else []

/-- How many states a sequence has that it does not share with the one before
    it. -/
def newStates : Unicode.Ranges → Unicode.Ranges → Nat
  | a :: before, b :: rest => if a = b then newStates before rest else rest.length + 1
  | _, rest => rest.length

/-- How many bytes sequences take, each after the one before it. -/
def sequencesSize (before : Unicode.Ranges) : List Unicode.Ranges → Nat
  | [] => 0
  | s :: rest => 4 + 32 * newStates before s + sequencesSize s rest

/-- The size of the automaton of some ranges. -/
def rangesSize (ranges : Unicode.Ranges) : Nat :=
  if ranges.all fun range => range.2 < 0x80 then 64 + 8 * ranges.length
  else
    let sizes := encodingBlocks.map fun (first, last, more) =>
      let inside := ranges.flatMap (clip (first, last))
      sequencesSize [] (inside.flatMap fun range => byteSequences more range.1 range.2)
    sizes.foldl (· + ·) 64

/-- The size of the automaton of a set. A single character is a state for each
    of its bytes. -/
def setSize (set : CharSet) : Nat :=
  match set.toRanges with
  | [] => 32
  | [(first, last)] =>
    if first = last then 32 * (Char.ofNat first).utf8Size else rangesSize [(first, last)]
  | ranges => rangesSize ranges

/-! ### Patterns -/

/-- The size of a repetition of something that has the given size. -/
def repetitionSize (takesSomething : Bool) (body min : Nat) : Option Nat → Nat
  | none =>
    if min = 0 then if takesSomething then body + 40 else body + 112
    else body * min + 40
  | some max =>
    if min = 0 ∧ max = 1 then body + 72
    else
      let fixed := if min = 0 then 32 else body * min
      if min = max then fixed else fixed + 32 + (max - min) * (body + 40)

namespace Node

mutual

/-- The size of the automaton of a node. -/
def size : Node → Nat
  | empty => 32
  | look _ => 32
  | set s => setSize s
  | repetition min max _ body => repetitionSize body.takesSomething body.size min max
  | capture _ _ body => body.size + 64
  | concat parts => sizeAll parts
  | alternate parts => sizeAll parts + 4 * parts.length + 64

def sizeAll : List Node → Nat
  | [] => 0
  | part :: parts => part.size + sizeAll parts

end

end Node

/-- The size of an automaton that is still accepted. -/
def sizeLimit : Nat := 10 * 1024 * 1024

end Regex

end LogQuery
