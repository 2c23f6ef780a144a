import LogQuery.Proofs.Regex.Search
import Mathlib.Data.List.Infix

/-!
# The Spans of Groups

A match notes for each named group where it opened and where it closed. That these
positions make a span of the text, one that opens before it closes and closes no later
than the text ends, is not checked by anyone: it is a property of how programs are laid
out.

A program is laid out from its end, and its instructions refer to one another by address.
What is seen in the tree of a pattern at a glance, namely in which groups a place lies,
has to be carried over to the addresses. A `Nesting` does that: it says for every address
which groups are open there, the innermost first. Each instruction leads from where it
stands to addresses with the groups that should be open behind it (`Inst.Leads`). Noting
an opening opens one more group, noting a closing closes the innermost one, and only where
none is open a thread may accept.

A layout adds instructions in front of those that are there, so a nesting is extended but
never changed (`Adds`). The one instruction that is filled in later, the test of a loop,
has its place in the nesting from the start. That a layout `Nests` if its body does goes
through the forms of repetition and then through the tree (`lay_nests`).

With the nesting the noted positions can be described wherever a thread stands. `Tidy`
says that an open group has an opening behind the thread, whatever may be left of its
last closing, and that a group that is not open has no positions at all or a span behind
the thread. Every instruction preserves that (`tidy_preserved`).

## Main definitions

* `Inst.Leads`: An instruction leads where its groups are open.
* `Adds`, `Nests`: A layout extends a nesting.
* `Program.Nested`: The whole program has a nesting.
* `Spans`: A group has no positions or a span of the text up to a position.
* `Tidy`, `Program.TidyAt`: The positions noted by a thread fit its place in the nesting.

## Theorems

* `copies_nests`, `optionals_nests`, `looped_nests`, `anyNumber_nests`,
  `layRepetition_nests`, `lay_nests`: Every layout extends a nesting.
* `ofNode_nested`: The program of a node has a nesting.
* `tidy_preserved`: Every instruction keeps a thread tidy.
* `search_spans`: The groups of a match have spans of the text.
-/

namespace LogQuery

namespace Regex

/-! ### Nestings -/

/-- The groups that are open at each address, the innermost first. -/
abbrev Nesting := List (List Nat)

/-- An instruction leads to addresses where those groups are open that should be, given
    the groups that are open before it. -/
def Inst.Leads (nesting : Nesting) (opened : List Nat) : Inst → Prop
  | .take _ next | .look _ next => nesting[next]? = some opened
  | .split first second => nesting[first]? = some opened ∧ nesting[second]? = some opened
  | .save slot next =>
    (∃ i, slot = 2 * i ∧ nesting[next]? = some (i :: opened)) ∨
      ∃ i rest, slot = 2 * i + 1 ∧ opened = i :: rest ∧ nesting[next]? = some rest
  | .accept => opened = []

theorem getElem?_of_grows {nesting nesting' : Nesting} (hgrows : nesting <+: nesting')
    {address : Nat} {opened : List Nat} (h : nesting[address]? = some opened) :
    nesting'[address]? = some opened := by
  obtain ⟨more, rfl⟩ := hgrows
  rw [List.getElem?_append_left (List.getElem?_eq_some_iff.mp h).1, h]

/-- Where an instruction leads stays as it is when a nesting grows. -/
theorem Inst.Leads.mono {nesting nesting' : Nesting} (hgrows : nesting <+: nesting')
    {opened : List Nat} {inst : Inst} (h : inst.Leads nesting opened) :
    inst.Leads nesting' opened := by
  cases inst with
  | take set next => exact getElem?_of_grows hgrows h
  | split first second =>
      exact ⟨getElem?_of_grows hgrows h.1, getElem?_of_grows hgrows h.2⟩
  | look look next => exact getElem?_of_grows hgrows h
  | save slot next =>
      rcases h with ⟨i, hslot, hnext⟩ | ⟨i, rest, hslot, hopened, hnext⟩
      · exact .inl ⟨i, hslot, getElem?_of_grows hgrows hnext⟩
      · exact .inr ⟨i, rest, hslot, hopened, getElem?_of_grows hgrows hnext⟩
  | accept => exact h

/-! ### Layouts -/

namespace Node

/-- A nesting has been extended to the instructions that were added, and those before them
    have been left alone. The groups given are open at the address of the result. -/
structure Adds (insts : Array Inst) (nesting : Nesting) (opened : List Nat)
    (result : Nat × Array Inst) (nesting' : Nesting) : Prop where
  grows : nesting <+: nesting'
  size : nesting'.length = result.2.size
  entry : nesting'[result.1]? = some opened
  keeps : ∀ address < insts.size, result.2[address]? = insts[address]?
  leads : ∀ (address : Nat) (inst : Inst), insts.size ≤ address → result.2[address]? = some inst →
    ∃ opened, nesting'[address]? = some opened ∧ inst.Leads nesting' opened

/-- A layout extends every nesting of the instructions it goes on at. -/
def Nests (body : Layout) : Prop :=
  ∀ ⦃next : Nat⦄ ⦃insts : Array Inst⦄ ⦃nesting : Nesting⦄ ⦃opened : List Nat⦄,
    nesting.length = insts.size → nesting[next]? = some opened →
      ∃ nesting', Adds insts nesting opened (body next insts) nesting'

section

variable {insts : Array Inst} {nesting nesting' : Nesting} {opened opened' : List Nat}
  {result : Nat × Array Inst}

/-- Nothing has been added. -/
theorem Adds.refl {next : Nat} (hsize : nesting.length = insts.size)
    (hnext : nesting[next]? = some opened) : Adds insts nesting opened (next, insts) nesting where
  grows := List.prefix_rfl
  size := hsize
  entry := hnext
  keeps := fun _ _ => rfl
  leads := fun address inst hle hinst => by
    rw [Array.getElem?_eq_none hle] at hinst
    cases hinst

theorem Adds.size_le (h : Adds insts nesting opened result nesting')
    (hsize : nesting.length = insts.size) : insts.size ≤ result.2.size := by
  rw [← hsize, ← h.size]
  exact h.grows.length_le

/-- The address of a result may be any where the right groups are open. -/
theorem Adds.enterAt (h : Adds insts nesting opened result nesting') {address : Nat}
    (hentry : nesting'[address]? = some opened') :
    Adds insts nesting opened' (address, result.2) nesting' :=
  { h with entry := hentry }

theorem Adds.trans {result' : Nat × Array Inst} {nesting'' : Nesting}
    (hsize : nesting.length = insts.size) (h : Adds insts nesting opened result nesting')
    (h' : Adds result.2 nesting' opened' result' nesting'') :
    Adds insts nesting opened' result' nesting'' where
  grows := h.grows.trans h'.grows
  size := h'.size
  entry := h'.entry
  keeps := fun address hlt =>
    (h'.keeps address (hlt.trans_le (h.size_le hsize))).trans (h.keeps address hlt)
  leads := fun address inst hle hinst => by
    rcases Nat.lt_or_ge address result.2.size with hold | hnew
    · -- The second layout has left the instructions of the first alone.
      rw [h'.keeps address hold] at hinst
      obtain ⟨opened, hopened, hleads⟩ := h.leads address inst hle hinst
      exact ⟨opened, getElem?_of_grows h'.grows hopened, hleads.mono h'.grows⟩
    · exact h'.leads address inst hnew hinst

/-- One instruction is added. -/
theorem adds_emit {inst : Inst} (hsize : nesting.length = insts.size)
    (hleads : inst.Leads nesting opened) :
    Adds insts nesting opened (emit inst insts) (nesting ++ [opened]) where
  grows := List.prefix_append _ _
  size := by rw [List.length_append, emit, Array.size_push, hsize]; rfl
  entry := by rw [emit, ← hsize, List.getElem?_concat_length]
  keeps := fun address hlt => by
    rw [emit, Array.getElem?_push, if_neg hlt.ne]
  leads := fun address inst' hle hinst => by
    rw [emit, Array.getElem?_push] at hinst
    split at hinst
    · rename_i haddress
      cases hinst
      refine ⟨opened, ?_, hleads.mono (List.prefix_append _ _)⟩
      rw [haddress, ← hsize, List.getElem?_concat_length]
    · rw [Array.getElem?_eq_none hle] at hinst
      cases hinst

/-- The first of the added instructions is filled in once the others are there. -/
theorem Adds.fillIn {placeholder inst : Inst}
    (hsize : nesting.length = insts.size)
    (h : Adds (insts.push placeholder) (nesting ++ [opened]) opened' result nesting')
    (hleads : inst.Leads nesting' opened) :
    Adds insts nesting opened' (result.1, result.2.setIfInBounds insts.size inst) nesting' where
  grows := (List.prefix_append _ _).trans h.grows
  size := by rw [Array.size_setIfInBounds]; exact h.size
  entry := h.entry
  keeps := fun address hlt => by
    rw [Array.getElem?_setIfInBounds_ne hlt.ne', h.keeps address (by rw [Array.size_push]; omega),
      Array.getElem?_push, if_neg hlt.ne]
  leads := fun address inst' hle hinst => by
    rcases hle.eq_or_lt with rfl | hlt
    · have hopened : nesting'[insts.size]? = some opened := by
        refine getElem?_of_grows h.grows ?_
        rw [← hsize, List.getElem?_concat_length]
      rw [Array.getElem?_setIfInBounds_self] at hinst
      split at hinst
      · cases hinst
        exact ⟨opened, hopened, hleads⟩
      · cases hinst
    · rw [Array.getElem?_setIfInBounds_ne hlt.ne] at hinst
      exact h.leads address inst' (by rw [Array.size_push]; omega) hinst

end

theorem choose_leads {nesting : Nesting} {opened : List Nat} {body exit : Nat} (greedy : Bool)
    (hbody : nesting[body]? = some opened) (hexit : nesting[exit]? = some opened) :
    (choose greedy body exit).Leads nesting opened := by
  cases greedy with
  | true => exact ⟨hbody, hexit⟩
  | false => exact ⟨hexit, hbody⟩

section

variable {body : Layout} (hbody : Nests body)

include hbody

theorem copies_nests (n : Nat) : Nests (copies body n) := by
  intro next insts nesting opened hsize hnext
  induction n generalizing next insts nesting with
  | zero => exact ⟨nesting, .refl hsize hnext⟩
  | succ n ih =>
      obtain ⟨nesting₁, hadds⟩ := hbody hsize hnext
      obtain ⟨nesting₂, hrest⟩ := ih hadds.size hadds.entry
      exact ⟨nesting₂, hadds.trans hsize hrest⟩

theorem optionals_nests (greedy : Bool) (n : Nat) :
    Nests fun exit insts => optionals greedy body exit n insts := by
  intro exit insts nesting opened hsize hexit
  induction n with
  | zero => exact ⟨nesting, .refl hsize hexit⟩
  | succ n ih =>
      obtain ⟨nesting₁, hothers⟩ := ih
      obtain ⟨nesting₂, hcopy⟩ := hbody hothers.size hothers.entry
      have hadds := hothers.trans hsize hcopy
      -- The choice leads into the copy or past it and all others to the exit.
      exact ⟨_, hadds.trans hsize (adds_emit hadds.size
        (choose_leads greedy hadds.entry (getElem?_of_grows hadds.grows hexit)))⟩

/-- The body of a loop goes on at the test, which is filled in behind it. -/
theorem loop_adds (greedy : Bool) {next : Nat} {insts : Array Inst} {nesting : Nesting}
    {opened : List Nat} (hsize : nesting.length = insts.size)
    (hnext : nesting[next]? = some opened) :
    ∃ nesting', nesting'[insts.size]? = some opened ∧
      Adds insts nesting opened (looped greedy body next insts) nesting' := by
  have htest : (nesting ++ [opened])[insts.size]? = some opened := by
    rw [← hsize, List.getElem?_concat_length]
  have hpush : (nesting ++ [opened]).length = (insts.push .accept).size := by
    rw [List.length_append, Array.size_push, hsize]; rfl
  obtain ⟨nesting', hadds⟩ := hbody hpush htest
  have hexit := getElem?_of_grows ((List.prefix_append _ _).trans hadds.grows) hnext
  exact ⟨nesting', getElem?_of_grows hadds.grows htest,
    hadds.fillIn hsize (choose_leads greedy hadds.entry hexit)⟩

theorem looped_nests (greedy : Bool) : Nests (looped greedy body) := by
  intro next insts nesting opened hsize hnext
  obtain ⟨nesting', _, hadds⟩ := loop_adds hbody greedy hsize hnext
  exact ⟨nesting', hadds⟩

theorem anyNumber_nests (greedy takesSomething : Bool) :
    Nests (anyNumber greedy takesSomething body) := by
  intro next insts nesting opened hsize hnext
  obtain ⟨nesting', htest, hadds⟩ := loop_adds hbody greedy hsize hnext
  cases takesSomething with
  | true => exact ⟨nesting', hadds.enterAt htest⟩
  | false =>
      exact ⟨_, hadds.trans hsize (adds_emit hadds.size
        (choose_leads greedy hadds.entry (getElem?_of_grows hadds.grows hnext)))⟩

theorem layRepetition_nests (min : Nat) (max : Option Nat) (greedy takesSomething : Bool) :
    Nests (layRepetition min max greedy takesSomething body) := by
  intro next insts nesting opened hsize hnext
  match max, min with
  | none, 0 => exact anyNumber_nests hbody greedy takesSomething hsize hnext
  | none, n + 1 =>
      obtain ⟨nesting₁, hloop⟩ := looped_nests hbody greedy hsize hnext
      obtain ⟨nesting₂, hcopies⟩ := copies_nests hbody n hloop.size hloop.entry
      exact ⟨nesting₂, hloop.trans hsize hcopies⟩
  | some max, min =>
      obtain ⟨nesting₁, hoptional⟩ := optionals_nests hbody greedy (max - min) hsize hnext
      obtain ⟨nesting₂, hcopies⟩ := copies_nests hbody min hoptional.size hoptional.entry
      exact ⟨nesting₂, hoptional.trans hsize hcopies⟩

end

mutual

/-- Every node is laid out in keeping with the groups around it. -/
theorem lay_nests (names : List String) : ∀ node : Node, Nests (node.lay names)
  | .empty => fun _ _ _ _ hsize hnext => ⟨_, .refl hsize hnext⟩
  | .set _ => fun _ _ _ _ hsize hnext => ⟨_, adds_emit hsize hnext⟩
  | .look _ => fun _ _ _ _ hsize hnext => ⟨_, adds_emit hsize hnext⟩
  | .repetition min max greedy body =>
      layRepetition_nests (lay_nests names body) min max greedy body.takesSomething
  | .capture _ none body => lay_nests names body
  | .capture _ (some name) body => by
      intro next insts nesting opened hsize hnext
      -- Laid out from its end, the group is closed first.
      have hclosing : (Inst.save (2 * names.idxOf name + 1) next).Leads nesting
          (names.idxOf name :: opened) := .inr ⟨_, opened, rfl, rfl, hnext⟩
      have hclosed := adds_emit hsize hclosing
      obtain ⟨nesting', hbody⟩ := lay_nests names body hclosed.size hclosed.entry
      have hadds := hclosed.trans hsize hbody
      exact ⟨_, hadds.trans hsize (adds_emit hadds.size (.inl ⟨_, rfl, hadds.entry⟩))⟩
  | .concat parts => layAll_nests names parts
  | .alternate parts => layEither_nests names parts

theorem layAll_nests (names : List String) : ∀ parts : List Node, Nests (layAll names parts)
  | [] => fun _ _ _ _ hsize hnext => ⟨_, .refl hsize hnext⟩
  | part :: parts => by
      intro next insts nesting opened hsize hnext
      obtain ⟨nesting₁, hrest⟩ := layAll_nests names parts hsize hnext
      obtain ⟨nesting₂, hpart⟩ := lay_nests names part hrest.size hrest.entry
      exact ⟨nesting₂, hrest.trans hsize hpart⟩

theorem layEither_nests (names : List String) :
    ∀ parts : List Node, Nests (layEither names parts)
  | [] => fun _ _ _ _ hsize hnext => ⟨_, .refl hsize hnext⟩
  | [part] => lay_nests names part
  | part :: other :: parts => by
      intro next insts nesting opened hsize hnext
      obtain ⟨nesting₁, hsecond⟩ := layEither_nests names (other :: parts) hsize hnext
      have hfrom := getElem?_of_grows hsecond.grows hnext
      obtain ⟨nesting₂, hfirst⟩ := lay_nests names part hsecond.size hfrom
      have hadds := hsecond.trans hsize hfirst
      exact ⟨_, hadds.trans hsize (adds_emit hadds.size
        ⟨hadds.entry, getElem?_of_grows hfirst.grows hsecond.entry⟩)⟩

end

end Node

/-! ### Programs -/

/-- Every instruction of a program leads where its groups are open, and no group is open at
    its start. -/
structure Program.Nested (program : Program) (nesting : Nesting) : Prop where
  size : nesting.length = program.insts.size
  start : nesting[program.start]? = some []
  leads : ∀ (address : Nat) (inst : Inst), program.insts[address]? = some inst →
    ∃ opened, nesting[address]? = some opened ∧ inst.Leads nesting opened

/-- The program of a node has a nesting. No group is open where it accepts. -/
theorem Program.ofNode_nested (names : List String) (node : Node) :
    ∃ nesting, (Program.ofNode names node).Nested nesting := by
  have hsize : ([[]] : Nesting).length = (#[.accept] : Array Inst).size := rfl
  have hend : ([[]] : Nesting)[0]? = some [] := rfl
  obtain ⟨nesting, hadds⟩ := Node.lay_nests names node hsize hend
  refine ⟨nesting, hadds.size, hadds.entry, fun address inst hinst => ?_⟩
  cases address with
  | zero =>
      -- This instruction was there before, and it is still the one that accepts.
      have haccept := (hadds.keeps 0 Nat.one_pos).symm.trans hinst
      cases haccept
      exact ⟨[], getElem?_of_grows hadds.grows rfl, rfl⟩
  | succ address => exact hadds.leads _ inst (Nat.le_add_left 1 address) hinst

theorem Program.Nested.leads_of_getElem? {program : Program} {nesting : Nesting}
    (h : program.Nested nesting) {address : Nat} {opened : List Nat}
    (hopened : nesting[address]? = some opened) :
    (program.insts.getD address .accept).Leads nesting opened := by
  have hlt : address < program.insts.size := h.size ▸ (List.getElem?_eq_some_iff.mp hopened).1
  obtain ⟨opened', hopened', hleads⟩ := h.leads address _ (Array.getElem?_eq_getElem hlt)
  rw [hopened, Option.some.injEq] at hopened'
  rw [Array.getD_eq_getD_getElem?, Array.getElem?_eq_getElem hlt, Option.getD_some, hopened']
  exact hleads

/-! ### Noted positions -/

/-- The position noted in a slot. -/
def Slots.noted (slots : Slots) (slot : Nat) : Option Nat := (slots[slot]?).join

theorem Slots.noted_set_self {slots : Slots} {slot : Nat} (h : slot < slots.size)
    (position : Nat) :
    Slots.noted (slots.setIfInBounds slot (some position)) slot = some position := by
  rw [noted, Array.getElem?_setIfInBounds_self_of_lt h]
  rfl

theorem Slots.noted_set_ne {slots : Slots} {slot slot' : Nat} (h : slot ≠ slot')
    (position : Nat) :
    Slots.noted (slots.setIfInBounds slot (some position)) slot' = slots.noted slot' := by
  rw [noted, noted, Array.getElem?_setIfInBounds_ne h]

/-- A group has no positions, or a span of the text up to a position. -/
def Spans (slots : Slots) (position i : Nat) : Prop :=
  (slots.noted (2 * i) = none ∧ slots.noted (2 * i + 1) = none) ∨
    ∃ first last, slots.noted (2 * i) = some first ∧ slots.noted (2 * i + 1) = some last ∧
      first ≤ last ∧ last ≤ position

/-- The positions noted for `n` groups fit those that are open. -/
structure Tidy (n : Nat) (opened : List Nat) (position : Nat) (slots : Slots) : Prop where
  size : slots.size = 2 * n
  opening : ∀ i ∈ opened, i < n → ∃ first ≤ position, slots.noted (2 * i) = some first
  spans : ∀ i < n, i ∉ opened → Spans slots position i

namespace Tidy

variable {n position : Nat} {opened : List Nat} {slots : Slots}

/-- Nothing is noted by a thread that starts afresh. -/
theorem fresh (n position : Nat) : Tidy n [] position (Array.replicate (2 * n) none) where
  size := Array.size_replicate
  opening := nofun
  spans := fun i _ _ => by
    have hnone (slot : Nat) : Slots.noted (Array.replicate (2 * n) none) slot = none := by
      rw [Slots.noted, Array.getElem?_replicate]
      split <;> rfl
    exact .inl ⟨hnone _, hnone _⟩

/-- A thread stays tidy on its way through the text. -/
theorem mono (h : Tidy n opened position slots) {position' : Nat} (hle : position ≤ position') :
    Tidy n opened position' slots where
  size := h.size
  opening := fun i hi hn => by
    obtain ⟨first, hfirst, hnoted⟩ := h.opening i hi hn
    exact ⟨first, hfirst.trans hle, hnoted⟩
  spans := fun i hn hi => by
    rcases h.spans i hn hi with hnone | ⟨first, last, hfirst, hlast, hordered, hposition⟩
    · exact .inl hnone
    · exact .inr ⟨first, last, hfirst, hlast, hordered, hposition.trans hle⟩

/-- Noting where a group opens. -/
theorem openGroup (h : Tidy n opened position slots) (i : Nat) :
    Tidy n (i :: opened) position (slots.setIfInBounds (2 * i) (some position)) where
  size := by rw [Array.size_setIfInBounds, h.size]
  opening := fun j hj hn => by
    by_cases hij : i = j
    · subst hij
      exact ⟨position, le_rfl, Slots.noted_set_self (by rw [h.size]; omega) position⟩
    · rw [Slots.noted_set_ne (by omega)]
      exact h.opening j ((List.mem_cons.mp hj).resolve_left (Ne.symm hij)) hn
  spans := fun j hn hj => by
    rw [List.mem_cons, not_or] at hj
    obtain ⟨hij, hopened⟩ := hj
    rw [Spans, Slots.noted_set_ne (by omega), Slots.noted_set_ne (by omega)]
    exact h.spans j hn hopened

/-- Noting where the innermost group closes. -/
theorem closeGroup {i : Nat} (h : Tidy n (i :: opened) position slots) :
    Tidy n opened position (slots.setIfInBounds (2 * i + 1) (some position)) where
  size := by rw [Array.size_setIfInBounds, h.size]
  opening := fun j hj hn => by
    rw [Slots.noted_set_ne (by omega)]
    exact h.opening j (List.mem_cons_of_mem i hj) hn
  spans := fun j hn hj => by
    rw [Spans, Slots.noted_set_ne (by omega)]
    by_cases hij : i = j
    · -- What has been noted for the opening lies behind the thread, and the closing is here.
      subst hij
      obtain ⟨first, hfirst, hnoted⟩ := h.opening i List.mem_cons_self hn
      rw [Slots.noted_set_self (by rw [h.size]; omega)]
      exact .inr ⟨first, position, hnoted, rfl, hfirst, le_rfl⟩
    · rw [Slots.noted_set_ne (by omega)]
      exact h.spans j hn (List.not_mem_cons_of_ne_of_not_mem (Ne.symm hij) hj)

end Tidy

/-! ### Threads -/

namespace Program

variable {program : Program} {nesting : Nesting} {n : Nat}

/-- A thread has noted positions that fit the groups open where it stands. -/
def TidyAt (nesting : Nesting) (n position : Nat) (t : Thread) : Prop :=
  ∃ opened, nesting[t.address]? = some opened ∧ Tidy n opened position t.slots

/-- Every instruction keeps a thread tidy. -/
theorem tidy_preserved (hnested : program.Nested nesting) :
    program.Preserves (TidyAt nesting n) where
  onward := by
    rintro place t ⟨opened, hopened, htidy⟩ u hu
    have hleads := hnested.leads_of_getElem? hopened
    rw [onward] at hu
    cases hinst : program.insts.getD t.address .accept with
    | take set next =>
        rw [hinst] at hu
        cases hu
    | split first second =>
        rw [hinst] at hu hleads
        rcases List.mem_pair.mp hu with rfl | rfl
        · exact ⟨opened, hleads.1, htidy⟩
        · exact ⟨opened, hleads.2, htidy⟩
    | look look next =>
        rw [hinst] at hu hleads
        dsimp only at hu
        split at hu
        · rw [List.mem_singleton] at hu
          exact hu ▸ ⟨opened, hleads, htidy⟩
        · cases hu
    | save slot next =>
        rw [hinst] at hu hleads
        rw [List.mem_singleton] at hu
        subst hu
        -- The nesting tells whether the position is that of an opening or of a closing.
        rcases hleads with ⟨i, rfl, hnext⟩ | ⟨i, rest, rfl, rfl, hnext⟩
        · exact ⟨i :: opened, hnext, htidy.openGroup i⟩
        · exact ⟨rest, hnext, htidy.closeGroup⟩
    | accept =>
        rw [hinst] at hu
        cases hu
  advance := by
    rintro position c t u ⟨opened, hopened, htidy⟩ hu
    have hleads := hnested.leads_of_getElem? hopened
    rw [advance] at hu
    cases hinst : program.insts.getD t.address .accept with
    | take set next =>
        rw [hinst] at hu hleads
        dsimp only at hu
        split at hu
        · cases hu
          exact ⟨opened, hleads, htidy.mono (Nat.le_succ position)⟩
        · cases hu
    | split | look | save | accept =>
        rw [hinst] at hu
        cases hu

/-- The groups of a match have no positions or spans of the text. -/
theorem search_spans (hnested : program.Nested nesting) {text : List Char} {slots : Slots}
    (h : program.search (2 * n) text = some slots) {i : Nat} (hi : i < n) :
    Spans slots text.length i := by
  obtain ⟨position, hle, t, ⟨opened, hopened, htidy⟩, haccepts, rfl⟩ :=
    thread_of_search (tidy_preserved hnested)
      (fun position => ⟨[], hnested.start, Tidy.fresh n position⟩) h
  have hleads := hnested.leads_of_getElem? hopened
  rw [accepts] at haccepts
  cases hinst : program.insts.getD t.address .accept with
  | take | split | look | save =>
      rw [hinst] at haccepts
      cases haccepts
  | accept =>
      rw [hinst] at hleads
      cases hleads
      exact (htidy.mono hle).spans i hi List.not_mem_nil

end Program

end Regex

end LogQuery
