import LogQuery.Proofs.Json.Indented
import LogQuery.Proofs.Json.Remainders

/-!
# Nesting

How deep a tree nests, and what its depth has to do with reading it. The reader
is given a number of levels and refuses a text that needs more. So what it
reads nests no deeper than that (`depth_of_value`), and more levels never
change what has been read (`value_extends`).

The second fact settles what becomes of a text that nests too deep. Some number
of levels would do for it, and then the reader would find the tree that the
text was written from; with fewer levels it finds the same tree or nothing, and
that tree is too deep for it.

## Main definitions

* `Json.depth`: How many arrays and objects stand inside one another.
* `Json.reals`: The reals of a tree.
* `Extends`: A reader that reads whatever another one reads.

## Theorems

* `legible_of_depth`: The trees that can be read back, by depth and reals.
* `membersFrom_follows`: Two readers of members, one of which follows the other.
* `value_extends`: More levels read the same.
* `value_yields_depth`, `depth_of_value`: Nothing is read that nests deeper than the levels given.
* `parse_layOut_eq_ok_iff`: Which trees are read back from their indented text.
-/

namespace LogQuery

namespace Json

mutual

/-- How many arrays and objects stand inside one another. -/
def depth : Json → Nat
  | .array items => depthOfItems items + 1
  | .object members => depthOfMembers members + 1
  | .null | .bool _ | .number _ | .string _ => 0

def depthOfItems : List Json → Nat
  | [] => 0
  | item :: rest => max (depth item) (depthOfItems rest)

def depthOfMembers : List (String × Json) → Nat
  | [] => 0
  | (_, json) :: rest => max (depth json) (depthOfMembers rest)

end

mutual

/-- The reals of a tree, in document order. -/
def reals : Json → List Binary64
  | .number (.real x) => [x]
  | .array items => realsOfItems items
  | .object members => realsOfMembers members
  | .null | .bool _ | .number (.integer ..) | .string _ => []

def realsOfItems : List Json → List Binary64
  | [] => []
  | item :: rest => reals item ++ realsOfItems rest

def realsOfMembers : List (String × Json) → List Binary64
  | [] => []
  | (_, json) :: rest => reals json ++ realsOfMembers rest

end

theorem depthOfItems_le_iff {items : List Json} {levels : Nat} :
    depthOfItems items ≤ levels ↔ ∀ item ∈ items, item.depth ≤ levels := by
  induction items with
  | nil => exact ⟨fun _ item hitem => absurd hitem List.not_mem_nil, fun _ => Nat.zero_le _⟩
  | cons item rest ih => rw [depthOfItems, Nat.max_le, ih, List.forall_mem_cons]

theorem depthOfMembers_le_iff {members : List (String × Json)} {levels : Nat} :
    depthOfMembers members ≤ levels ↔ ∀ member ∈ members, member.2.depth ≤ levels := by
  induction members with
  | nil => exact ⟨fun _ member hmember => absurd hmember List.not_mem_nil, fun _ => Nat.zero_le _⟩
  | cons member rest ih => rw [depthOfMembers, Nat.max_le, ih, List.forall_mem_cons]

/-! ### Trees that can be read back -/

mutual

/-- A tree can be read back if the levels suffice, no object repeats a key and its
    reals are read back. -/
theorem legible_of_depth {levels : Nat} :
    ∀ json : Json, json.Distinct → json.depth ≤ levels →
      (∀ x ∈ json.reals, (Number.real x).ReadsBack) → Legible levels json
  | .null, _, _, _ | .bool _, _, _, _ | .string _, _, _, _ => by
      unfold Legible
      trivial
  | .number (.integer value inRange), _, _, _ => by
      unfold Legible
      exact Number.readsBack_integer value inRange
  | .number (.real x), _, _, hreals => by
      unfold Legible
      exact hreals x (List.mem_singleton_self x)
  | .array items, hdistinct, hdepth, hreals => by
      cases levels with
      | zero => cases hdepth
      | succ levels =>
          exact legible_items items hdistinct (Nat.le_of_succ_le_succ hdepth) hreals
  | .object members, hdistinct, hdepth, hreals => by
      cases levels with
      | zero => cases hdepth
      | succ levels =>
          exact ⟨hdistinct.1,
            legible_members members hdistinct.2 (Nat.le_of_succ_le_succ hdepth) hreals⟩

theorem legible_items {levels : Nat} :
    ∀ items : List Json, DistinctItems items → depthOfItems items ≤ levels →
      (∀ x ∈ realsOfItems items, (Number.real x).ReadsBack) →
      ∀ item ∈ items, Legible levels item
  | [], _, _, _ => fun _ hitem => absurd hitem List.not_mem_nil
  | item :: rest, hdistinct, hdepth, hreals => by
      rw [depthOfItems, Nat.max_le] at hdepth
      rw [realsOfItems, List.forall_mem_append] at hreals
      rw [List.forall_mem_cons]
      exact ⟨legible_of_depth item hdistinct.1 hdepth.1 hreals.1,
        legible_items rest hdistinct.2 hdepth.2 hreals.2⟩

theorem legible_members {levels : Nat} :
    ∀ members : List (String × Json), DistinctMembers members →
      depthOfMembers members ≤ levels →
      (∀ x ∈ realsOfMembers members, (Number.real x).ReadsBack) →
      ∀ member ∈ members, Legible levels member.2
  | [], _, _, _ => fun _ hmember => absurd hmember List.not_mem_nil
  | (key, json) :: rest, hdistinct, hdepth, hreals => by
      rw [depthOfMembers, Nat.max_le] at hdepth
      rw [realsOfMembers, List.forall_mem_append] at hreals
      rw [List.forall_mem_cons]
      exact ⟨legible_of_depth json hdistinct.1 hdepth.1 hreals.1,
        legible_members rest hdistinct.2 hdepth.2 hreals.2⟩

end

namespace Reader

section Loops

variable {α ε : Type} (syntaxError : Fault → ε)

/-- Whatever the one reader reads the other reads too. -/
def Extends (read more : Reader α ε) : Prop :=
  ∀ cs a rest, read cs = .ok (a, rest) → more cs = .ok (a, rest)

theorem itemsFrom_extends {item more : Reader α ε} (h : Extends item more) (steps : Nat)
    (before : List α) :
    Extends (itemsFrom syntaxError item steps before) (itemsFrom syntaxError more steps before) := by
  induction steps generalizing before with
  | zero =>
      intro cs as rest hread
      cases hread
  | succ steps ih =>
      intro cs as rest hread
      rw [itemsFrom] at hread ⊢
      split at hread
      · cases hread
      · exact hread
      · split at hread
        · cases hread
        · next a left hitem =>
          rw [h _ a left hitem]
          exact ih _ _ _ _ hread

/-- If a reader of members follows another one step by step, it also does so to the
    end of the object. The two may keep different things and fail differently. -/
theorem membersFrom_follows {β ε' : Type} {one : String → α → Reader α ε}
    {other : String → β → Reader β ε'} {R : α → β → Prop}
    (h : ∀ {key a b cs a' rest}, R a b → one key a cs = .ok (a', rest) →
      ∃ b', other key b cs = .ok (b', rest) ∧ R a' b')
    (onFault : Fault → ε) (onFault' : Fault → ε') {steps : Nat} {first : Bool} {a a' : α} {b : β}
    {cs rest : List Char} (hR : R a b)
    (hread : membersFrom onFault one steps first a cs = .ok (a', rest)) :
    ∃ b', membersFrom onFault' other steps first b cs = .ok (b', rest) ∧ R a' b' := by
  -- The next member and its key are found in the text, so both loops find the same ones.
  induction steps generalizing first a b cs with
  | zero => cases hread
  | succ steps ih =>
      rw [membersFrom] at hread ⊢
      split at hread
      · cases hread
      · next left hnext =>
        cases hread
        exact ⟨b, rfl, hR⟩
      · next start hnext =>
        split at hread
        · cases hread
        · next key left hkey =>
          split at hread
          · cases hread
          · next next left hmember =>
            rcases h hR hmember with ⟨state, hother, hnextR⟩
            rw [hother]
            exact ih hnextR hread

theorem membersFrom_extends {member more : String → α → Reader α ε}
    (h : ∀ key state, Extends (member key state) (more key state)) (steps : Nat) (first : Bool)
    (state : α) :
    Extends (membersFrom syntaxError member steps first state)
      (membersFrom syntaxError more steps first state) := by
  intro cs last rest hread
  -- What is kept is the same here, and only where a reader fails may the two differ.
  have hfollows := membersFrom_follows (R := Eq)
    (fun hab hmember => ⟨_, hab ▸ h _ _ _ _ _ hmember, rfl⟩) syntaxError syntaxError rfl hread
  rcases hfollows with ⟨_, hmore, rfl⟩
  exact hmore

end Loops

/-! ### Levels -/

theorem anyMember_eq_ok {item : Reader Json} {key : String} {before after : List (String × Json)}
    {cs rest : List Char} (h : anyMember item key before cs = .ok (after, rest)) :
    ∃ left json, colon cs = .ok left ∧ item left = .ok (json, rest) ∧
      after = setEntry key json before := by
  rcases bind_eq_ok.mp h with ⟨left, hcolon, h⟩
  rcases bind_eq_ok.mp h with ⟨⟨json, behind⟩, hitem, h⟩
  cases h
  exact ⟨left, json, hcolon, hitem, rfl⟩

theorem anyMember_extends {item more : Reader Json} (h : Extends item more) (key : String)
    (before : List (String × Json)) : Extends (anyMember item key before)
      (anyMember more key before) := by
  intro cs after rest hread
  rcases anyMember_eq_ok hread with ⟨left, json, hcolon, hitem, rfl⟩
  simp only [anyMember, hcolon, h _ _ _ hitem, bind, Except.bind]

/-- One more level reads what was read without it. -/
theorem value_extends_succ (levels : Nat) : Extends (value levels) (value (levels + 1)) := by
  induction levels with
  | zero =>
      intro cs json rest hread
      unfold value at hread ⊢
      split at hread
      · cases hread
      · next c tail =>
        split at hread
        · cases hread
        · next hbracket =>
          rw [not_or] at hbracket
          rw [if_neg hbracket.1, if_neg hbracket.2]
          exact hread
  | succ levels ih =>
      intro cs json rest hread
      rw [value] at hread ⊢
      split at hread
      · cases hread
      · split at hread
        · next hopen =>
          rcases map_eq_ok hread with ⟨⟨items, left⟩, hitems, hjson⟩
          rw [if_pos hopen, Reader.items, itemsFrom_extends id ih _ _ _ _ _ hitems]
          exact congrArg Except.ok hjson
        · next hopen =>
          rw [if_neg hopen]
          split at hread
          · next hbrace =>
            rcases map_eq_ok hread with ⟨⟨members, left⟩, hmembers, hjson⟩
            rw [if_pos hbrace, Reader.members,
              membersFrom_extends id (anyMember_extends ih) _ _ _ _ _ _ hmembers]
            exact congrArg Except.ok hjson
          · next hbrace =>
            rw [if_neg hbrace]
            exact hread

theorem value_extends {few many : Nat} (h : few ≤ many) : Extends (value few) (value many) := by
  induction h with
  | refl => exact fun _ _ _ hread => hread
  | step _ ih => exact fun _ _ _ hread => value_extends_succ _ _ _ _ (ih _ _ _ hread)

/-- A scalar is read with no levels, whichever kind it is of. -/
theorem scalar_depth (cs : List Char) : Ensures (fun read => read.1.depth = 0) (scalar cs) := by
  unfold scalar
  split
  · trivial
  · repeat' split
    all_goals first
      | exact Ensures.map (ensures_iff.mpr fun _ _ => rfl)
      | trivial

/-- Nothing is read that nests deeper than the levels given. -/
theorem value_yields_depth (text : List Char) (levels : Nat) :
    Yields text (fun json => json.depth ≤ levels) (value levels) := by
  induction levels with
  | zero =>
      refine fun cs hcs => Ensures.and ?_ (value_leaves 0 cs)
      rw [value]
      split
      · trivial
      · split
        · trivial
        · exact (scalar_depth _).mono fun _ hdepth => Nat.le_of_eq hdepth
  | succ levels ih =>
      refine fun cs hcs => Ensures.and ?_ (value_leaves (levels + 1) cs)
      rw [value]
      split
      · trivial
      · next c rest hspace =>
        have hrest := (tail_suffix_of_skipSpace hspace).trans hcs
        split
        · refine Ensures.map ((yields_items id ih rest hrest).mono fun read hall => ?_)
          have hdepth : (array read.1).depth ≤ levels + 1 :=
            Nat.succ_le_succ (depthOfItems_le_iff.mpr hall.1)
          exact hdepth
        split
        · have hmembers : Yields text (fun members => ∀ member ∈ members, member.2.depth ≤ levels)
              (members id (anyMember (value levels)) []) :=
            yields_members id (fun key _ => anyMember_yields ih key)
              (fun _ hmem => absurd hmem List.not_mem_nil)
          refine Ensures.map ((hmembers rest hrest).mono fun read hall => ?_)
          have hdepth : (object read.1).depth ≤ levels + 1 :=
            Nat.succ_le_succ (depthOfMembers_le_iff.mpr hall.1)
          exact hdepth
        · exact (scalar_depth _).mono fun _ hdepth =>
            Nat.le_trans (Nat.le_of_eq hdepth) (Nat.zero_le _)

theorem depth_of_value {levels : Nat} {cs rest : List Char} {json : Json}
    (h : value levels cs = .ok (json, rest)) : json.depth ≤ levels :=
  (ensures_iff.mp (value_yields_depth cs levels cs (List.suffix_refl cs)) _ h).1

end Reader

/-- From its indented text a tree is read, and nothing else is, if it nests within
    the limit; and nothing is read from that text if it does not. -/
theorem parse_layOut_eq_ok_iff {json : Json} (hdistinct : json.Distinct)
    (hreals : ∀ x ∈ json.reals, (Number.real x).ReadsBack) (other : Json) :
    parse (layOut 0 json ++ ['\n']) = .ok other ↔
      other = json ∧ json.depth ≤ Reader.depthLimit := by
  constructor
  · intro h
    obtain ⟨rest, hvalue⟩ : ∃ rest,
        Reader.value Reader.depthLimit (layOut 0 json ++ ['\n']) = .ok (other, rest) := by
      rcases bind_eq_ok.mp h with ⟨⟨found, rest⟩, hvalue, h⟩
      rcases bind_eq_ok.mp h with ⟨_, _, h⟩
      cases h
      exact ⟨rest, hvalue⟩
    -- With as many levels as the tree needs, both would be found.
    have hwide := Reader.value_extends (Nat.le_max_left Reader.depthLimit json.depth) _ _ _ hvalue
    have hlegible := legible_of_depth json hdistinct (Nat.le_max_right Reader.depthLimit _) hreals
    have hread := (Reader.readsLaidOut_value hlegible 0).2 ['\n']
      (Reader.endsNumber_cons _ (by decide))
    rw [hread] at hwide
    cases hwide
    exact ⟨rfl, Reader.depth_of_value hvalue⟩
  · rintro ⟨rfl, hdepth⟩
    exact parse_layOut (legible_of_depth other hdistinct hdepth hreals)

end Json

end LogQuery
