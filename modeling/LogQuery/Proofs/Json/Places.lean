import LogQuery.Json.Basic
import LogQuery.Proofs.Bindings
import LogQuery.Query.Path

/-!
# Places in a JSON Tree

A path names a place in a tree by the keys and the indices that lead there.
`Json.at?` follows one, and leads nowhere where a key is missing, an index is
too large, or a step does not fit the kind of the value it is taken from.

`Json.strings` goes the other way and lists the strings of a tree, each with
its path, in the order in which they are written. It carries the path of the
tree it looks into, so that the lists of the parts stand in the list of the
whole just as they are. What it says of a string is true: the path leads to
that string, provided that no object on the way repeats a key
(`at?_of_mem_strings`). With a repeated key, the path of the second member
would lead to the first.

## Main definitions

* `Json.at?`: The node at a place.
* `Json.strings`: The strings of a tree in document order, with their paths.

## Theorems

* `at?_of_mem_strings`: The path of a string leads to it.
-/

namespace LogQuery

namespace Json

/-- The node that a path leads to. -/
def at? : Path → Json → Option Json
  | [], json => some json
  | .key name :: rest, .object members => (member? name members).bind (at? rest)
  | .index i :: rest, .array items => items[i]?.bind (at? rest)
  | .key _ :: _, _ | .index _ :: _, _ => none

mutual

/-- The strings in the tree at a path, in document order, with their paths. -/
def strings (path : Path) : Json → List (Path × String)
  | .string s => [(path, s)]
  | .array items => itemStrings path 0 items
  | .object members => memberStrings path members
  | .null | .bool _ | .number _ => []

/-- The strings in items, the first of which has the given index. -/
def itemStrings (path : Path) (i : Nat) : List Json → List (Path × String)
  | [] => []
  | item :: rest => strings (path.element i) item ++ itemStrings path (i + 1) rest

def memberStrings (path : Path) : List (String × Json) → List (Path × String)
  | [] => []
  | (key, json) :: rest => strings (path.child key) json ++ memberStrings path rest

end

/-- A member is not found under a key that is not there. -/
theorem ne_of_member? {key other : String} {members : List (String × Json)} {json : Json}
    (hkey : key ∉ members.map Prod.fst) (h : member? other members = some json) :
    key ≠ other := by
  rintro rfl
  exact hkey ((lookupEntry_isSome_iff key members).mp (Option.isSome_of_eq_some h))

/-- The element behind the first ones. -/
theorem getElem?_behind (before : List Json) (item : Json) (rest : List Json) :
    (before ++ item :: rest)[before.length]? = some item := by
  rw [List.getElem?_append_right (Nat.le_refl _), Nat.sub_self, List.getElem?_cons_zero]

mutual

/-- The list gives whole paths, so a string of a tree has a path that begins
    with that of the tree; the rest of it leads there from the tree. -/
theorem at?_of_mem_strings {path place : Path} {s : String} :
    ∀ json : Json, json.Distinct → (place, s) ∈ strings path json →
      ∃ rest, place = path ++ rest ∧ at? rest json = some (.string s)
  | .string value, _, h => by
      rw [strings, List.mem_singleton, Prod.mk.injEq] at h
      rcases h with ⟨rfl, rfl⟩
      exact ⟨[], (List.append_nil _).symm, rfl⟩
  | .array items, hdistinct, h => by
      rw [strings] at h
      rw [Distinct] at hdistinct
      rcases at?_of_mem_itemStrings items hdistinct h with ⟨i, rest, item, rfl, hitem, hat⟩
      refine ⟨.index i :: rest, by rw [Nat.zero_add], ?_⟩
      rw [at?, hitem]
      exact hat
  | .object members, hdistinct, h => by
      rw [strings] at h
      rw [Distinct] at hdistinct
      rcases at?_of_mem_memberStrings members hdistinct.1 hdistinct.2 h with
        ⟨key, rest, json, rfl, hmember, hat⟩
      refine ⟨.key key :: rest, rfl, ?_⟩
      rw [at?, hmember]
      exact hat
  | .null, _, h | .bool _, _, h | .number _, _, h => by
      rw [strings] at h
      cases h

theorem at?_of_mem_itemStrings {path place : Path} {s : String} {i : Nat} :
    ∀ items : List Json, DistinctItems items → (place, s) ∈ itemStrings path i items →
      ∃ j rest item, place = path ++ .index (i + j) :: rest ∧ items[j]? = some item ∧
        at? rest item = some (.string s)
  | [], _, h => by
      rw [itemStrings] at h
      cases h
  | item :: rest, hdistinct, h => by
      rw [itemStrings, List.mem_append] at h
      rw [DistinctItems] at hdistinct
      rcases h with h | h
      · rcases at?_of_mem_strings item hdistinct.1 h with ⟨below, rfl, hat⟩
        exact ⟨0, below, item, List.append_assoc _ _ _, rfl, hat⟩
      · rcases at?_of_mem_itemStrings rest hdistinct.2 h with ⟨j, below, found, rfl, hitem, hat⟩
        refine ⟨j + 1, below, found, ?_, hitem, hat⟩
        rw [Nat.add_assoc, Nat.add_comm 1 j]

theorem at?_of_mem_memberStrings {path place : Path} {s : String} :
    ∀ members : List (String × Json), (members.map Prod.fst).Nodup → DistinctMembers members →
      (place, s) ∈ memberStrings path members →
      ∃ key rest json, place = path ++ .key key :: rest ∧ member? key members = some json ∧
        at? rest json = some (.string s)
  | [], _, _, h => by
      rw [memberStrings] at h
      cases h
  | (key, json) :: rest, hnodup, hdistinct, h => by
      rw [memberStrings, List.mem_append] at h
      rw [DistinctMembers] at hdistinct
      rw [List.map_cons, List.nodup_cons] at hnodup
      rcases h with h | h
      · rcases at?_of_mem_strings json hdistinct.1 h with ⟨below, rfl, hat⟩
        refine ⟨key, below, json, List.append_assoc _ _ _, ?_, hat⟩
        rw [member?, lookupEntry, if_pos rfl]
      · rcases at?_of_mem_memberStrings rest hnodup.2 hdistinct.2 h with
          ⟨other, below, found, rfl, hmember, hat⟩
        refine ⟨other, below, found, rfl, ?_, hat⟩
        rw [member?, lookupEntry, if_neg (ne_of_member? hnodup.1 hmember)]
        exact hmember

end

end Json

end LogQuery
