import LogQuery.Regex.Search
import Mathlib.Data.List.Forall2

/-!
# Searches in Step

Two searches of one text by one program. Where a thread goes depends on its address and
on the text, and so do the instructions that it closes to the threads behind it and the
moment at which it accepts. What it has noted does not steer it. So two searches whose
threads differ in their slots only go through the same threads in the same order, and
what relates a thread to its counterpart can be followed from place to place.

`Program.Keeps` says of a relation between threads at a position that it has equal
addresses and survives every instruction: one that takes no character hands threads on at
the same position (`Program.onward`), one that takes a character does so at the next. If
it relates the threads that start afresh, wherever that may be, then it relates the
threads that make the matches, at the position where the matches end (`search_keeps`).

Two relations are of use. That of equal addresses shows that a search finds a match
whether or not it notes positions (`search_isSome`). One that relates a thread to itself
only is a property of the threads of one search (`thread_of_search`).

## Main definitions

* `Program.onward`: The threads that a thread is handed on as without a character.
* `Program.Keeps`: A relation between threads survives every instruction.
* `Program.Matched`: Two slots were noted by related threads that accept.
* `Program.Preserves`: A property of threads survives every instruction.

## Theorems

* `follow_cons`: Following a thread is following what it is handed on as.
* `follow_keeps`, `gather_keeps`: The threads of one place stay related.
* `searchFrom_keeps`, `search_keeps`: Searches in step make related matches.
* `search_isSome`: The slots do not decide whether there is a match.
* `thread_of_search`: A match is made by a thread with every property that the
  instructions keep.
-/

namespace LogQuery

namespace Regex

namespace Program

variable {program : Program} {place : Place}

/-! ### Following one thread -/

/-- The threads that an instruction hands a thread on as at the same place. -/
def onward (program : Program) (place : Place) (t : Thread) : List Thread :=
  match program.insts.getD t.address .accept with
  | .take .. | .accept => []
  | .split first second => [⟨first, t.slots⟩, ⟨second, t.slots⟩]
  | .look look next => if look.holds place.prev place.next then [⟨next, t.slots⟩] else []
  | .save slot next => [⟨next, t.slots.setIfInBounds slot (some place.position)⟩]

/-- Whether a thread waits for a character or accepts. -/
def waits (program : Program) (t : Thread) : Bool :=
  match program.insts.getD t.address .accept with
  | .take .. | .accept => true
  | _ => false

/-- A frontier after a visit. -/
def visit (program : Program) (t : Thread) (frontier : Frontier) : Frontier :=
  ⟨frontier.visited.setIfInBounds t.address true,
    if program.waits t then frontier.waiting.push t else frontier.waiting⟩

/-- A thread whose instruction is open is followed by following what it is handed on as,
    in front of the other threads. -/
theorem follow_cons (fuel : Nat) (t : Thread) (rest : List Thread) (frontier : Frontier) :
    program.follow place (fuel + 1) (t :: rest) frontier =
      if frontier.visited.getD t.address true then program.follow place fuel rest frontier
      else program.follow place fuel (program.onward place t ++ rest)
        (program.visit t frontier) := by
  rw [follow, onward, visit, waits]
  split
  · rfl
  · cases program.insts.getD t.address .accept with
    | take => rfl
    | split => rfl
    | look look next => dsimp only; split <;> rfl
    | save => rfl
    | accept => rfl

/-! ### Related threads -/

/-- A relation between the threads of two searches at a position survives every
    instruction. -/
structure Keeps (program : Program) (related : Nat → Thread → Thread → Prop) : Prop where
  address : ∀ {position : Nat} {t u : Thread}, related position t u → t.address = u.address
  onward : ∀ {place : Place} {t u : Thread}, related place.position t u →
    List.Forall₂ (related place.position) (program.onward place t) (program.onward place u)
  advance : ∀ {position : Nat} {c : Char} {t u : Thread}, related position t u →
    Option.Rel (related (position + 1)) (program.advance c t) (program.advance c u)

/-- Two slots were noted by related threads that accept at a position up to the last. -/
def Matched (program : Program) (related : Nat → Thread → Thread → Prop) (last : Nat)
    (slots slots' : Slots) : Prop :=
  ∃ position ≤ last, ∃ t u, related position t u ∧ program.accepts t = true ∧
    t.slots = slots ∧ u.slots = slots'

/-- The alternatives of related options are related. -/
theorem rel_or {α β : Type} {r : α → β → Prop} {a c : Option α} {b d : Option β}
    (hab : Option.Rel r a b) (hcd : Option.Rel r c d) : Option.Rel r (a.or c) (b.or d) := by
  cases hab with
  | some h => exact .some h
  | none => exact hcd

theorem rel_isSome {α β : Type} {r : α → β → Prop} {a : Option α} {b : Option β}
    (h : Option.Rel r a b) : a.isSome = b.isSome := by
  cases h with
  | some => rfl
  | none => rfl

section

variable {related : Nat → Thread → Thread → Prop} (keeps : program.Keeps related)

include keeps

/-- Related threads are followed to related threads. The same instructions are open to
    them, since they are followed to the same addresses. -/
theorem follow_keeps (place : Place) (fuel : Nat) {threads threads' : List Thread}
    {frontier frontier' : Frontier}
    (hthreads : List.Forall₂ (related place.position) threads threads')
    (hvisited : frontier.visited = frontier'.visited)
    (hwaiting : List.Forall₂ (related place.position) frontier.waiting.toList
      frontier'.waiting.toList) :
    List.Forall₂ (related place.position)
      (program.follow place fuel threads frontier).waiting.toList
      (program.follow place fuel threads' frontier').waiting.toList := by
  -- The induction is on the fuel, because the list of threads does not always get shorter.
  induction fuel generalizing threads threads' frontier frontier' with
  | zero => simpa only [follow] using hwaiting
  | succ fuel ih =>
      cases hthreads with
      | nil => simpa only [follow] using hwaiting
      | @cons t u rest rest' ht hrest =>
          -- Both threads stand at one address, so its instruction is open to both or to none.
          rw [follow_cons, follow_cons, ← hvisited, ← keeps.address ht]
          split
          · exact ih hrest hvisited hwaiting
          · refine ih (List.rel_append (keeps.onward ht) hrest) ?_ ?_
            · rw [visit, visit, hvisited, keeps.address ht]
            · have hwaits : program.waits u = program.waits t := by
                rw [waits, waits, keeps.address ht]
              rw [visit, visit, hwaits]
              cases program.waits t with
              | false => exact hwaiting
              | true => simpa using List.rel_append hwaiting (.cons ht .nil)

theorem gather_keeps (place : Place) {threads threads' : List Thread}
    (h : List.Forall₂ (related place.position) threads threads') :
    List.Forall₂ (related place.position) (program.gather place threads)
      (program.gather place threads') := by
  rw [gather, gather, h.length_eq]
  exact follow_keeps keeps place _ h rfl .nil

theorem accepts_keeps {position : Nat} {t u : Thread} (h : related position t u) :
    program.accepts t = program.accepts u := by
  rw [accepts, accepts, keeps.address h]

/-! ### Related matches -/

/-- The threads before the first that accepts stay related. -/
theorem takeWhile_keeps {position : Nat} {threads threads' : List Thread}
    (h : List.Forall₂ (related position) threads threads') :
    List.Forall₂ (related position) (threads.takeWhile fun t => !program.accepts t)
      (threads'.takeWhile fun t => !program.accepts t) := by
  induction h with
  | nil => exact .nil
  | @cons t u rest rest' ht _ ih =>
      rw [List.takeWhile_cons, List.takeWhile_cons, ← accepts_keeps keeps ht]
      cases program.accepts t with
      | false => exact .cons ht ih
      | true => exact .nil

/-- The first threads that accept make related matches. -/
theorem find_keeps {position last : Nat} (hlast : position ≤ last)
    {threads threads' : List Thread} (h : List.Forall₂ (related position) threads threads') :
    Option.Rel (program.Matched related last)
      ((threads.find? program.accepts).map Thread.slots)
      ((threads'.find? program.accepts).map Thread.slots) := by
  induction h with
  | nil => exact .none
  | @cons t u rest rest' ht _ ih =>
      rw [List.find?_cons, List.find?_cons, ← accepts_keeps keeps ht]
      cases haccepts : program.accepts t with
      | false => exact ih
      | true => exact .some ⟨position, hlast, t, u, ht, haccepts, rfl, rfl⟩

omit keeps in
/-- A fresh thread joins on both sides or on neither. -/
theorem arrived_keeps {position last : Nat} {fresh fresh' : Thread}
    (hfresh : related position fresh fresh') {carried carried' : List Thread}
    {best best' : Option Slots} (hcarried : List.Forall₂ (related position) carried carried')
    (hbest : Option.Rel (program.Matched related last) best best') :
    List.Forall₂ (related position) (if best.isNone then carried ++ [fresh] else carried)
      (if best'.isNone then carried' ++ [fresh'] else carried') := by
  cases hbest with
  | none => exact List.rel_append hcarried (.cons hfresh .nil)
  | some => exact hcarried

/-- Related threads at the rest of a text make related matches. -/
theorem searchFrom_keeps {fresh fresh' : Thread}
    (hfresh : ∀ position, related position fresh fresh') (text : List Char) {prev : Option Char}
    {position : Nat} {carried carried' : List Thread} {best best' : Option Slots}
    (hcarried : List.Forall₂ (related position) carried carried')
    (hbest : Option.Rel (program.Matched related (position + text.length)) best best') :
    Option.Rel (program.Matched related (position + text.length))
      (program.searchFrom fresh prev position carried best text)
      (program.searchFrom fresh' prev position carried' best' text) := by
  induction text generalizing prev position carried carried' best best' with
  | nil =>
      have harrived := arrived_keeps (hfresh position) hcarried hbest
      exact rel_or (find_keeps keeps (Nat.le_add_right position _)
        (gather_keeps keeps ⟨prev, none, position⟩ harrived)) hbest
  | cons c rest ih =>
      have harrived := arrived_keeps (hfresh position) hcarried hbest
      rw [searchFrom, searchFrom]
      dsimp only
      generalize (if best.isNone then carried ++ [fresh] else carried) = arrived at harrived ⊢
      generalize (if best'.isNone then carried' ++ [fresh'] else carried') = arrived'
        at harrived ⊢
      have hempty : arrived.isEmpty = arrived'.isEmpty := by
        rw [Bool.eq_iff_iff, List.isEmpty_iff_length_eq_zero, List.isEmpty_iff_length_eq_zero,
          harrived.length_eq]
      rw [hempty]
      split
      · exact hbest
      · have hwaiting := gather_keeps keeps ⟨prev, some c, position⟩ harrived
        have hlast : position ≤ position + 1 + rest.length := by omega
        have hfound := find_keeps keeps hlast hwaiting
        have hadvanced := List.rel_filterMap (P := related (position + 1))
          (fun _ _ ht => keeps.advance (c := c) ht) (takeWhile_keeps keeps hwaiting)
        -- The position moves on as the rest of the text gets shorter.
        have hlength : position + (c :: rest).length = position + 1 + rest.length := by
          rw [List.length_cons]; omega
        rw [hlength] at hbest ⊢
        exact ih hadvanced (rel_or hfound hbest)

/-- Searches whose fresh threads are related make related matches, or none. -/
theorem search_keeps {n n' : Nat} (hfresh : ∀ position, related position
      ⟨program.start, Array.replicate n none⟩ ⟨program.start, Array.replicate n' none⟩)
    (text : List Char) :
    Option.Rel (program.Matched related text.length) (program.search n text)
      (program.search n' text) := by
  rw [← Nat.zero_add text.length]
  exact searchFrom_keeps keeps hfresh text .nil .none

end

/-! ### Two relations -/

/-- What threads have noted does not steer them. -/
theorem keeps_address (program : Program) :
    program.Keeps fun _ t u => t.address = u.address where
  address := id
  onward := by
    intro place t u h
    rw [onward, onward, h]
    cases program.insts.getD u.address .accept with
    | take => exact .nil
    | split => exact .cons rfl (.cons rfl .nil)
    | look look next =>
        dsimp only
        split
        · exact .cons rfl .nil
        · exact .nil
    | save => exact .cons rfl .nil
    | accept => exact .nil
  advance := by
    intro position c t u h
    rw [advance, advance, h]
    cases program.insts.getD u.address .accept with
    | take set next =>
        dsimp only
        split
        · exact .some rfl
        · exact .none
    | split => exact .none
    | look => exact .none
    | save => exact .none
    | accept => exact .none

/-- There is a match whatever number of slots is noted. -/
theorem search_isSome (program : Program) (n n' : Nat) (text : List Char) :
    (program.search n text).isSome = (program.search n' text).isSome := by
  have hsame : ∀ _ : Nat, Thread.address ⟨program.start, Array.replicate n none⟩ =
      Thread.address ⟨program.start, Array.replicate n' none⟩ := fun _ => rfl
  exact rel_isSome (search_keeps (keeps_address program) hsame text)

/-- A property of threads at a position survives every instruction. -/
structure Preserves (program : Program) (inv : Nat → Thread → Prop) : Prop where
  onward : ∀ {place : Place} {t : Thread}, inv place.position t →
    ∀ u ∈ program.onward place t, inv place.position u
  advance : ∀ {position : Nat} {c : Char} {t u : Thread}, inv position t →
    program.advance c t = some u → inv (position + 1) u

/-- The slots of a match were noted by a thread that accepts, and it has every property
    of fresh threads that the instructions preserve. -/
theorem thread_of_search {inv : Nat → Thread → Prop} (preserves : program.Preserves inv)
    {n : Nat} (hfresh : ∀ position, inv position ⟨program.start, Array.replicate n none⟩)
    {text : List Char} {slots : Slots} (h : program.search n text = some slots) :
    ∃ position ≤ text.length, ∃ t, inv position t ∧ program.accepts t = true ∧
      t.slots = slots := by
  -- The search is compared with itself, and every thread with itself.
  have hkeeps : program.Keeps fun position t u => inv position t ∧ t = u := by
    refine ⟨fun h => congrArg _ h.2, ?_, ?_⟩
    · rintro place t _ ⟨ht, rfl⟩
      rw [List.forall₂_same]
      exact fun u hu => ⟨preserves.onward ht u hu, rfl⟩
    · rintro position c t _ ⟨ht, rfl⟩
      cases hadvance : program.advance c t with
      | none => exact .none
      | some u => exact .some ⟨preserves.advance ht hadvance, rfl⟩
  have hrel := search_keeps hkeeps (fun position => ⟨hfresh position, rfl⟩) text
  rw [h] at hrel
  cases hrel with
  | some hmatched =>
      obtain ⟨position, hlast, t, _, ⟨ht, rfl⟩, haccepts, rfl, _⟩ := hmatched
      exact ⟨position, hlast, t, ht, haccepts, rfl⟩

end Program

end Regex

end LogQuery
