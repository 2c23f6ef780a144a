import LogQuery.Proofs.Json.Places
import LogQuery.Value
import Mathlib.Data.List.Nodup

/-!
# Scalars of a JSON Tree

A tree is its scalars and the places they stand at, up to containers that hold
none. `Json.scalars` lists them. That the list is the right one takes two
statements, and neither of them looks at how it is computed. It has a scalar
with a path if and only if the path leads to that scalar (`mem_scalars_iff`),
and it has them in the order in which they are written (`pairwise_scalars`).

The order is a relation between places, since a list that happened to be
sorted by something else could have the same members. Two places part at some
container, and there the one that goes into the earlier element, or into the
member with the earlier key, comes first. An object that repeats a key would
have two members at one place, so all of this is about trees that repeat none.

## Main definitions

* `Json.Precedes`: One place is written before another.
* `Json.scalars`: The scalars of a tree in that order, with their paths.

## Theorems

* `at?_append`: Following a path in two parts.
* `mem_scalars_iff`: The list has exactly the scalars that paths lead to.
* `pairwise_scalars`: They are listed in document order.
* `Precedes.ne`: No place is written before itself.
* `nodup_scalars`: No place is listed twice.
-/

namespace LogQuery

namespace Json

/-! ### Paths through a tree -/

theorem at?_append (front rest : Path) (json : Json) :
    at? (front ++ rest) json = (at? front json).bind (at? rest) := by
  induction front generalizing json with
  | nil => rfl
  | cons step front ih =>
      -- A step is taken in the kind of node that it fits, and leads nowhere from all others.
      have ih' : at? (front ++ rest) = fun child => (at? front child).bind (at? rest) := funext ih
      cases json with
      | object members =>
          cases step with
          | key name => rw [List.cons_append, at?, at?, ih', Option.bind_assoc]
          | index i => rfl
      | array items =>
          cases step with
          | key name => rfl
          | index i => rw [List.cons_append, at?, at?, ih', Option.bind_assoc]
      | null | bool | number | string => cases step <;> rfl

theorem mem_of_member? {name : String} {json : Json} {members : List (String × Json)}
    (h : member? name members = some json) : (name, json) ∈ members := by
  induction members with
  | nil => cases h
  | cons first rest ih =>
      rw [member?, lookupEntry] at h
      split at h
      case isTrue heq =>
        rw [Option.some.injEq] at h
        subst heq h
        exact List.mem_cons_self
      case isFalse => exact List.mem_cons_of_mem _ (ih h)

theorem DistinctItems.getElem? :
    ∀ {items : List Json} {i : Nat} {item : Json}, DistinctItems items → items[i]? = some item →
      item.Distinct
  | first :: rest, 0, item, h, hitem => by
      rw [List.getElem?_cons_zero, Option.some.injEq] at hitem
      exact hitem ▸ h.1
  | first :: rest, i + 1, item, h, hitem => by
      rw [List.getElem?_cons_succ] at hitem
      exact h.2.getElem? hitem

theorem DistinctMembers.member? :
    ∀ {members : List (String × Json)} {name : String} {json : Json}, DistinctMembers members →
      member? name members = some json → json.Distinct
  | (key, first) :: rest, name, json, h, hmember => by
      rw [Json.member?, lookupEntry] at hmember
      split at hmember
      · rw [Option.some.injEq] at hmember
        exact hmember ▸ h.1
      · exact h.2.member? hmember

/-! ### Document order -/

/-- The first place is written before the second. -/
inductive Precedes : Json → Path → Path → Prop where
  /-- They lie in different elements. -/
  | items {items : List Json} {i j : Nat} (h : i < j) (p q : Path) :
      Precedes (.array items) (.index i :: p) (.index j :: q)
  /-- They lie in different members. -/
  | members {members : List (String × Json)} {k l : String}
      (h : [k, l].Sublist (members.map Prod.fst)) (p q : Path) :
      Precedes (.object members) (.key k :: p) (.key l :: q)
  | inItem {items : List Json} {i : Nat} {item : Json} {p q : Path} (h : items[i]? = some item) :
      Precedes item p q → Precedes (.array items) (.index i :: p) (.index i :: q)
  | inMember {members : List (String × Json)} {k : String} {json : Json} {p q : Path}
      (h : member? k members = some json) :
      Precedes json p q → Precedes (.object members) (.key k :: p) (.key k :: q)

theorem Precedes.ne {json : Json} {p q : Path} (h : Precedes json p q) :
    json.Distinct → p ≠ q := by
  induction h with
  | items hlt p q =>
      intro _ heq
      rw [List.cons.injEq, Segment.index.injEq] at heq
      exact Nat.ne_of_lt hlt heq.1
  | members hkeys p q =>
      -- A key that is written before itself is there twice.
      intro hdistinct heq
      rw [List.cons.injEq, Segment.key.injEq] at heq
      exact List.nodup_iff_sublist.mp hdistinct.1 _ (heq.1 ▸ hkeys)
  | inItem hitem _ ih =>
      intro hdistinct heq
      exact ih (DistinctItems.getElem? hdistinct hitem) (List.cons.inj heq).2
  | inMember hmember _ ih =>
      intro hdistinct heq
      exact ih (hdistinct.2.member? hmember) (List.cons.inj heq).2

/-! ### The scalars -/

mutual

/-- The scalars of a tree in document order, with their paths. -/
def scalars : Json → List (Path × Value)
  | .null => [([], .absent)]
  | .bool b => [([], .boolean b)]
  | .number n => [([], .number n)]
  | .string s => [([], .string s)]
  | .array items => itemScalars 0 items
  | .object members => memberScalars members

/-- The scalars in items, the first of which has the given index. -/
def itemScalars (i : Nat) : List Json → List (Path × Value)
  | [] => []
  | item :: rest =>
    (scalars item).map (fun leaf => (.index i :: leaf.1, leaf.2)) ++ itemScalars (i + 1) rest

def memberScalars : List (String × Json) → List (Path × Value)
  | [] => []
  | (key, json) :: rest =>
    (scalars json).map (fun leaf => (.key key :: leaf.1, leaf.2)) ++ memberScalars rest

end

/-- A list of leaves that all go one more step. -/
theorem mem_map_cons {step : Segment} {leaves : List (Path × Value)} {path : Path} {v : Value} :
    (path, v) ∈ leaves.map (fun leaf => (step :: leaf.1, leaf.2)) ↔
      ∃ rest, path = step :: rest ∧ (rest, v) ∈ leaves := by
  simp only [List.mem_map, Prod.mk.injEq, Prod.exists]
  constructor
  · rintro ⟨rest, w, hmem, rfl, rfl⟩
    exact ⟨rest, rfl, hmem⟩
  · rintro ⟨rest, rfl, hmem⟩
    exact ⟨rest, v, hmem, rfl, rfl⟩

/-- A scalar that is the whole tree is at the root and nowhere else. -/
theorem root_iff {json : Json} {value : Value} (hjson : value.toJson = json) (path : Path)
    (v : Value) : (path, v) ∈ [([], value)] ↔ at? path json = some v.toJson := by
  subst hjson
  rw [List.mem_singleton, Prod.mk.injEq]
  cases path with
  | nil => cases value <;> cases v <;> simp [at?, Value.toJson, eq_comm]
  | cons step rest => cases step <;> cases value <;> simp [at?, Value.toJson]

mutual

/-- The list has a scalar with a path exactly if the path leads to it. -/
theorem mem_scalars_iff :
    ∀ json : Json, json.Distinct → ∀ (path : Path) (v : Value),
      (path, v) ∈ scalars json ↔ at? path json = some v.toJson
  | .null, _, path, v | .bool _, _, path, v | .number _, _, path, v | .string _, _, path, v =>
      root_iff rfl path v
  | .array items, h, path, v => by
      rw [scalars, mem_itemScalars_iff items h]
      constructor
      · rintro ⟨j, rest, item, rfl, hitem, hat⟩
        rw [at?, Nat.zero_add, hitem]
        exact hat
      · -- An array is no scalar and has no keys, so the path begins with an index.
        intro hat
        rcases path with _ | ⟨_ | i, rest⟩
        · cases v <;> cases hat
        · cases hat
        · rw [at?, Option.bind_eq_some_iff] at hat
          rcases hat with ⟨item, hitem, hat⟩
          exact ⟨i, rest, item, by rw [Nat.zero_add], hitem, hat⟩
  | .object members, h, path, v => by
      rw [scalars, mem_memberScalars_iff members h.1 h.2]
      constructor
      · rintro ⟨key, rest, json, rfl, hmember, hat⟩
        rw [at?, hmember]
        exact hat
      · intro hat
        rcases path with _ | ⟨key | _, rest⟩
        · cases v <;> cases hat
        · rw [at?, Option.bind_eq_some_iff] at hat
          rcases hat with ⟨json, hmember, hat⟩
          exact ⟨key, rest, json, rfl, hmember, hat⟩
        · cases hat

theorem mem_itemScalars_iff :
    ∀ items : List Json, DistinctItems items → ∀ (i : Nat) (path : Path) (v : Value),
      (path, v) ∈ itemScalars i items ↔
        ∃ j rest item, path = .index (i + j) :: rest ∧ items[j]? = some item ∧
          at? rest item = some v.toJson
  | [], _, i, path, v => by simp [itemScalars]
  | first :: items, h, i, path, v => by
      rw [itemScalars, List.mem_append, mem_map_cons, mem_itemScalars_iff items h.2]
      constructor
      · rintro (⟨rest, rfl, hmem⟩ | ⟨j, rest, item, rfl, hitem, hat⟩)
        · exact ⟨0, rest, first, rfl, rfl, (mem_scalars_iff first h.1 rest v).mp hmem⟩
        · exact ⟨j + 1, rest, item, by rw [Nat.add_assoc, Nat.add_comm 1 j], hitem, hat⟩
      · rintro ⟨_ | j, rest, item, rfl, hitem, hat⟩
        · rw [List.getElem?_cons_zero, Option.some.injEq] at hitem
          subst hitem
          exact .inl ⟨rest, rfl, (mem_scalars_iff first h.1 rest v).mpr hat⟩
        · exact .inr ⟨j, rest, item, by rw [Nat.add_assoc, Nat.add_comm 1 j], hitem, hat⟩

theorem mem_memberScalars_iff :
    ∀ members : List (String × Json), (members.map Prod.fst).Nodup → DistinctMembers members →
      ∀ (path : Path) (v : Value), (path, v) ∈ memberScalars members ↔
        ∃ key rest json, path = .key key :: rest ∧ member? key members = some json ∧
          at? rest json = some v.toJson
  | [], _, _, path, v => by simp [memberScalars, member?, lookupEntry]
  | (first, value) :: members, hnodup, h, path, v => by
      rw [List.map_cons, List.nodup_cons] at hnodup
      rw [memberScalars, List.mem_append, mem_map_cons,
        mem_memberScalars_iff members hnodup.2 h.2]
      constructor
      · rintro (⟨rest, rfl, hmem⟩ | ⟨key, rest, json, rfl, hmember, hat⟩)
        · refine ⟨first, rest, value, rfl, ?_, (mem_scalars_iff value h.1 rest v).mp hmem⟩
          rw [member?, lookupEntry, if_pos rfl]
        · refine ⟨key, rest, json, rfl, ?_, hat⟩
          rw [member?, lookupEntry, if_neg (ne_of_member? hnodup.1 hmember)]
          exact hmember
      · rintro ⟨key, rest, json, rfl, hmember, hat⟩
        rw [member?, lookupEntry] at hmember
        split at hmember
        case isTrue heq =>
          rw [Option.some.injEq] at hmember
          subst heq hmember
          exact .inl ⟨rest, rfl, (mem_scalars_iff value h.1 rest v).mpr hat⟩
        case isFalse => exact .inr ⟨key, rest, json, rfl, hmember, hat⟩

end

mutual

theorem pairwise_scalars :
    ∀ json : Json, json.Distinct → (scalars json).Pairwise fun a b => Precedes json a.1 b.1
  | .null, _ | .bool _, _ | .number _, _ | .string _, _ => List.pairwise_singleton _ _
  | .array items, h => pairwise_itemScalars [] items h
  | .object members, h => pairwise_memberScalars [] members h.1 h.2

/-- Items are listed one after the other, so what is said of the order has to be
    said of items that come after others. -/
theorem pairwise_itemScalars :
    ∀ before items : List Json, DistinctItems items →
      (itemScalars before.length items).Pairwise fun a b =>
        Precedes (.array (before ++ items)) a.1 b.1
  | before, [], _ => List.Pairwise.nil
  | before, item :: rest, h => by
      have hitem := getElem?_behind before item rest
      rw [itemScalars, List.pairwise_append, List.pairwise_map]
      refine ⟨(pairwise_scalars item h.1).imp (.inItem hitem), ?_, ?_⟩
      · have ih := pairwise_itemScalars (before ++ [item]) rest h.2
        rwa [List.length_append, List.length_singleton, List.append_assoc,
          List.singleton_append] at ih
      · -- What is in the element at hand comes before what is in those behind it.
        rintro ⟨p, v⟩ hp ⟨q, w⟩ hq
        rcases mem_map_cons.mp hp with ⟨p, rfl, -⟩
        rcases (mem_itemScalars_iff rest h.2 _ q w).mp hq with ⟨j, q, _, rfl, -, -⟩
        exact .items (by omega) p q

theorem pairwise_memberScalars :
    ∀ before members : List (String × Json), ((before ++ members).map Prod.fst).Nodup →
      DistinctMembers members → (memberScalars members).Pairwise fun a b =>
        Precedes (.object (before ++ members)) a.1 b.1
  | before, [], _, _ => List.Pairwise.nil
  | before, (key, json) :: rest, hnodup, h => by
      have hmember : member? key (before ++ (key, json) :: rest) = some json :=
        (lookupEntry_eq_some_iff hnodup).mpr (List.mem_append_right _ List.mem_cons_self)
      have hrest : (rest.map Prod.fst).Nodup :=
        (((List.sublist_cons_self _ _).trans (List.sublist_append_right _ _)).map _).nodup hnodup
      rw [memberScalars, List.pairwise_append, List.pairwise_map]
      refine ⟨(pairwise_scalars json h.1).imp (.inMember hmember), ?_, ?_⟩
      · have ih := pairwise_memberScalars (before ++ [(key, json)]) rest
        rw [List.append_assoc, List.singleton_append] at ih
        exact ih hnodup h.2
      · rintro ⟨p, v⟩ hp ⟨q, w⟩ hq
        rcases mem_map_cons.mp hp with ⟨p, rfl, -⟩
        rcases (mem_memberScalars_iff rest hrest h.2 q w).mp hq with ⟨l, q, found, rfl, hl, -⟩
        have hmem : l ∈ rest.map Prod.fst :=
          (lookupEntry_isSome_iff l rest).mp (Option.isSome_of_eq_some hl)
        refine .members ?_ p q
        rw [List.map_append, List.map_cons]
        exact ((List.singleton_sublist.mpr hmem).cons_cons key).trans
          (List.sublist_append_right _ _)

end

theorem nodup_scalars {json : Json} (h : json.Distinct) : ((scalars json).map Prod.fst).Nodup :=
  List.pairwise_map.mpr ((pairwise_scalars json h).imp fun hab => hab.ne h)

end Json

end LogQuery
