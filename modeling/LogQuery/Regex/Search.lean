import LogQuery.Regex.Program

/-!
# Searching a Text

The search runs over the text once. At every place it holds a list of threads
in the order of their preference, and a thread that starts afresh at this place
joins at the end as long as nothing has matched. Threads follow their program
to the next instruction that takes a character; an instruction that a
preferred thread has been at is closed to the others. The first thread that
accepts ends all those behind it, while those before it go on, since what they
might still find is preferred.

The threads of a place visit every instruction at most once, and a visit leads
on to at most two others. That bounds the work at a place, and the fuel of
`follow` is taken from it.

## Main definitions

* `Regex.Look.holds`: Whether an assertion holds between two characters.
* `Regex.Thread`: An address and the positions noted so far.
* `Regex.Program.search`: The slots of the match to be preferred.
-/

namespace LogQuery

namespace Regex

/-! ### Assertions -/

namespace Look

/-- Whether there is a word character on one side of a place. -/
def isWord (ascii : Bool) : Option Char → Bool
  | none => false
  | some c => if ascii then c.isAlphanum || c == '_' else Unicode.isWord c

/-- Whether an assertion holds between two characters; at an end of the text
    there is none. -/
def holds (prev next : Option Char) : Look → Bool
  | textStart => prev.isNone
  | textEnd => next.isNone
  | lineStart => prev.isNone || prev == some '\n'
  | lineEnd => next.isNone || next == some '\n'
  | anyLineStart =>
    prev.isNone || prev == some '\n' || (prev == some '\r' && next != some '\n')
  | anyLineEnd =>
    next.isNone || next == some '\r' || (next == some '\n' && prev != some '\r')
  | boundary ascii => isWord ascii prev != isWord ascii next
  | noBoundary ascii => isWord ascii prev == isWord ascii next
  | wordStart ascii => !isWord ascii prev && isWord ascii next
  | wordEnd ascii => isWord ascii prev && !isWord ascii next
  | wordStartHalf ascii => !isWord ascii prev
  | wordEndHalf ascii => !isWord ascii next

end Look

/-! ### Threads -/

/-- The positions noted by a thread, counted in characters. -/
abbrev Slots := Array (Option Nat)

/-- A thread: where it stands in its program and what it has noted. -/
structure Thread where
  address : Nat
  slots : Slots

/-- A place in a text: the characters around it and those before it counted. -/
structure Place where
  prev : Option Char
  next : Option Char
  position : Nat

/-- The threads of a place that wait for a character or accept, the preferred
    one first, and the instructions visited. -/
structure Frontier where
  visited : Array Bool
  waiting : Array Thread

namespace Program

variable (program : Program)

/-- Follows threads, the first of them first, to the instructions that take a
    character or accept. -/
def follow (place : Place) : Nat → List Thread → Frontier → Frontier
  | 0, _, frontier | _, [], frontier => frontier
  | fuel + 1, thread :: rest, frontier =>
    if frontier.visited.getD thread.address true then follow place fuel rest frontier
    else
      let frontier :=
        { frontier with visited := frontier.visited.setIfInBounds thread.address true }
      match program.insts.getD thread.address .accept with
      | .take .. | .accept =>
        follow place fuel rest { frontier with waiting := frontier.waiting.push thread }
      | .split first second =>
        follow place fuel (⟨first, thread.slots⟩ :: ⟨second, thread.slots⟩ :: rest) frontier
      | .look look next =>
        if look.holds place.prev place.next then
          follow place fuel (⟨next, thread.slots⟩ :: rest) frontier
        else follow place fuel rest frontier
      | .save slot next =>
        let slots := thread.slots.setIfInBounds slot (some place.position)
        follow place fuel (⟨next, slots⟩ :: rest) frontier

/-- The threads that wait at a place, given those that have come there. -/
def gather (place : Place) (arrived : List Thread) : List Thread :=
  let size := program.insts.size
  let frontier : Frontier := ⟨Array.replicate size false, #[]⟩
  (program.follow place (2 * size + arrived.length) arrived frontier).waiting.toList

/-- Whether a thread has come to the end of its program. -/
def accepts (thread : Thread) : Bool :=
  match program.insts.getD thread.address .accept with
  | .accept => true
  | _ => false

/-- Moves a thread over a character, if it takes it. -/
def advance (c : Char) (thread : Thread) : Option Thread :=
  match program.insts.getD thread.address .accept with
  | .take set next => if set.contains c.toNat then some ⟨next, thread.slots⟩ else none
  | _ => none

/-- Searches the rest of a text. The threads carried have come from the
    character before it, and `best` is the match to be had without them. -/
def searchFrom (fresh : Thread) (prev : Option Char) (position : Nat) (carried : List Thread)
    (best : Option Slots) : List Char → Option Slots
  | [] =>
    let arrived := if best.isNone then carried ++ [fresh] else carried
    let waiting := program.gather ⟨prev, none, position⟩ arrived
    ((waiting.find? program.accepts).map Thread.slots).or best
  | c :: rest =>
    let arrived := if best.isNone then carried ++ [fresh] else carried
    if arrived.isEmpty then best
    else
      let waiting := program.gather ⟨prev, some c, position⟩ arrived
      let best := ((waiting.find? program.accepts).map Thread.slots).or best
      let preferred := waiting.takeWhile fun thread => !program.accepts thread
      searchFrom fresh (some c) (position + 1) (preferred.filterMap (program.advance c)) best rest

/-- The slots of the match that is found first and, of those that start at the
    same place, preferred by the pattern. -/
def search (slots : Nat) (text : List Char) : Option Slots :=
  program.searchFrom ⟨program.start, Array.replicate slots none⟩ none 0 [] none text

end Program

end Regex

end LogQuery
