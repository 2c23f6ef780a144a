import LogQuery.Regex.Size

/-!
# Programs of a Matcher

A pattern is matched by many threads that run one program in step. The program
is laid out from its end: a node is compiled against the address where the
match goes on behind it, so every address is known when it is written down,
except that of a loop. A loop takes its place first and is filled in when its
body has been compiled against that place.

A choice lists the preferred way first. Of a capture only the named ones leave
a trace, two slots each.

A body that may take nothing is not looped over by the test in front of it,
since a round that takes nothing would then end at a test that has been
visited already, and the way out would be lost. Such a loop is entered through
a choice of its own and tested behind the body.

Repetitions with bounds are spelled out, so a short pattern may have a very
long program. Whether it is too long is known before it is laid out.

## Main definitions

* `Regex.Inst`: An instruction.
* `Regex.Program`: Instructions, and where they start.
* `Regex.Program.ofNode?`: The program of a node, unless it is too large.
-/

namespace LogQuery

namespace Regex

/-- An instruction of a matching thread. -/
inductive Inst where
  /-- Takes one character of the set. -/
  | take (set : CharSet) (next : Nat)
  /-- Goes on in two ways, the first of which is preferred. -/
  | split (first second : Nat)
  | look (look : Look) (next : Nat)
  /-- Notes the present position in a slot. -/
  | save (slot next : Nat)
  | accept

instance : Inhabited Inst := ⟨.accept⟩

/-- A program and the address of its first instruction. -/
structure Program where
  insts : Array Inst
  start : Nat

namespace Node

/-! ### Compilation -/

/-- Adds an instruction and gives its address. -/
def emit (inst : Inst) (insts : Array Inst) : Nat × Array Inst := (insts.size, insts.push inst)

/-- A choice between two addresses, in the order of their preference. -/
def choose (greedy : Bool) (body exit : Nat) : Inst :=
  if greedy then .split body exit else .split exit body

/-- The code of one body, given the address behind it. -/
abbrev Layout := Nat → Array Inst → Nat × Array Inst

/-- The body as many times as given, one behind the other. -/
def copies (body : Layout) : Nat → Layout
  | 0, next, insts => (next, insts)
  | n + 1, next, insts =>
    let (next, insts) := body next insts
    copies body n next insts

/-- The body at most as many times as given; every copy is behind a choice
    that leads straight to the exit. -/
def optionals (greedy : Bool) (body : Layout) (exit : Nat) : Nat → Array Inst → Nat × Array Inst
  | 0, insts => (exit, insts)
  | n + 1, insts =>
    let (next, insts) := optionals greedy body exit n insts
    let (entry, insts) := body next insts
    emit (choose greedy entry exit) insts

/-- A body and the test behind it that may lead back into it. Gives the
    address of the body. -/
def looped (greedy : Bool) (body : Layout) : Layout := fun next insts =>
  let (test, insts) := emit .accept insts
  let (entry, insts) := body test insts
  (entry, insts.setIfInBounds test (choose greedy entry next))

/-- The body any number of times. -/
def anyNumber (greedy takesSomething : Bool) (body : Layout) : Layout := fun next insts =>
  if takesSomething then
    let (test, insts) := emit .accept insts
    let (entry, insts) := body test insts
    (test, insts.setIfInBounds test (choose greedy entry next))
  else
    let (entry, insts) := looped greedy body next insts
    emit (choose greedy entry next) insts

/-- A repeated body. -/
def layRepetition (min : Nat) (max : Option Nat) (greedy takesSomething : Bool)
    (body : Layout) : Layout := fun next insts =>
  match max, min with
  | none, 0 => anyNumber greedy takesSomething body next insts
  | none, n + 1 =>
    let (next, insts) := looped greedy body next insts
    copies body n next insts
  | some max, min =>
    let (next, insts) := optionals greedy body next (max - min) insts
    copies body min next insts

mutual

/-- The code of a node that goes on at `next`, in front of the code given. -/
def lay (names : List String) : Node → Layout
  | empty, next, insts => (next, insts)
  | set s, next, insts => emit (.take s next) insts
  | .look l, next, insts => emit (.look l next) insts
  | repetition min max greedy body, next, insts =>
    layRepetition min max greedy body.takesSomething (body.lay names) next insts
  | capture _ none body, next, insts => body.lay names next insts
  | capture _ (some name) body, next, insts =>
    let slot := 2 * names.idxOf name
    let (next, insts) := emit (.save (slot + 1) next) insts
    let (entry, insts) := body.lay names next insts
    emit (.save slot entry) insts
  | concat parts, next, insts => layAll names parts next insts
  | alternate parts, next, insts => layEither names parts next insts

/-- The code of nodes in sequence. -/
def layAll (names : List String) : List Node → Layout
  | [], next, insts => (next, insts)
  | part :: parts, next, insts =>
    let (next, insts) := layAll names parts next insts
    part.lay names next insts

/-- The code of alternatives, the preferred one first. -/
def layEither (names : List String) : List Node → Layout
  | [], next, insts => (next, insts)
  | [part], next, insts => part.lay names next insts
  | part :: parts, next, insts =>
    let (second, insts) := layEither names parts next insts
    let (first, insts) := part.lay names next insts
    emit (.split first second) insts

end

end Node

namespace Program

/-- The program of a node, with slots for the captures of the given names. -/
def ofNode (names : List String) (node : Node) : Program :=
  let (start, insts) := node.lay names 0 #[.accept]
  ⟨insts, start⟩

/-- The program of a node, unless it is too large. -/
def ofNode? (names : List String) (node : Node) : Option Program :=
  if node.size ≤ sizeLimit then some (ofNode names node) else none

end Program

end Regex

end LogQuery
