import LogQuery.Proofs.Json.Numerals
import LogQuery.Proofs.Json.Scalars
import LogQuery.Record.Flatten

/-!
# Flattening Loses No Scalar

The record of an object has its scalars for fields, in the order in which they
are written, under the names of their places. Flattening carries a name down the
tree and makes it longer at every step. As long as it is the name of the place
that has been reached, the scalars below get the names of their places
(`fields_joined`), so what is left to say is what happens to the names, and that
is a question about two maps.

The first takes a place to the components on the way to it. It forgets which
components are keys and which are indices, but a step that is taken in a tree
goes into an object or into an array, so two places of one tree that have the
same components are the same place (`component_injOn_at?`).

The second joins the components by points. A component without a point is
found again between them, and so the map loses nothing on lists of such
components, even if some of them are empty (`components_of_joined`). An index is written
without a point, and a tree in which no key has one has no two scalars of one
name. With points in keys two scalars may share a name. What the record then
holds is what bindings hold after they are set twice: the place of the first
and the value of the last.

## Main definitions

* `Path.joined`: The name of a place.
* `Json.DotFree`: No key in a tree has a point.
* `Json.namedAt`: Scalars of a tree under the names that they have at a place.

## Theorems

* `Path.joined_concat`: The name of a place one step further.
* `fields_joined`: Flattening gives every scalar the name of its place.
* `flatten_eq`: A record is made of the scalars of its object.
* `component_injOn_at?`: The components of a place determine it in a tree.
* `components_of_joined`: The name of a place determines its components, if they
  have no points.
* `flatten_keeps_scalars`: The fields of a flattened object.
-/

namespace LogQuery

/-- A step as a part of a name. -/
def Segment.component : Segment → String
  | .key name => name
  | .index i => String.ofList (decimalDigits i)

/-- The name of a place: its components, joined by points. -/
def Path.joined (path : Path) : String := ".".intercalate (path.map Segment.component)

namespace Json

/-- No key at any depth of the tree has a point. -/
def DotFree (json : Json) : Prop :=
  ∀ (path : Path) (name : String) (child : Json),
    at? (path.child name) json = some child → '.' ∉ name.toList

theorem dotFree_scalar (v : Value) : v.toJson.DotFree := by
  intro path name child hat
  rcases path with _ | ⟨_ | _, path⟩ <;> cases v <;> cases hat

theorem dotFree_array {items : List Json} (h : ∀ item ∈ items, item.DotFree) :
    (array items).DotFree := by
  rintro (_ | ⟨_ | i, path⟩) name child hat
  · cases hat
  · cases hat
  · rcases Option.bind_eq_some_iff.mp hat with ⟨item, hitem, hat⟩
    exact h item (List.mem_of_getElem? hitem) path name child hat

theorem dotFree_object {members : List (String × Json)}
    (h : ∀ member ∈ members, '.' ∉ member.1.toList ∧ member.2.DotFree) :
    (object members).DotFree := by
  rintro (_ | ⟨_ | _, path⟩) name child hat
  · rcases Option.bind_eq_some_iff.mp hat with ⟨json, hmember, -⟩
    exact (h _ (mem_of_member? hmember)).1
  · rcases Option.bind_eq_some_iff.mp hat with ⟨json, hmember, hat⟩
    exact (h _ (mem_of_member? hmember)).2 path name child hat
  · cases hat

/-! ### The names of scalars -/

end Json

/-- One more step on a path adds a point and a component to the name. -/
theorem Path.joined_concat {place : Path} (h : place ≠ []) (step : Segment) :
    joined (place ++ [step]) = place.joined ++ "." ++ step.component := by
  have hcomponents : place.map Segment.component ≠ [] := by
    rwa [ne_eq, List.map_eq_nil_iff]
  rw [joined, joined, List.map_append, List.map_singleton,
    String.intercalate_append_of_ne_nil hcomponents (List.cons_ne_nil _ _),
    String.intercalate_singleton]

namespace Json

/-- The scalars of a tree under the names that they have at a place. -/
def namedAt (place : Path) (scalars : List (Path × Value)) : List (String × Value) :=
  scalars.map fun leaf => ((place ++ leaf.1).joined, leaf.2)

theorem namedAt_append (place : Path) (xs ys : List (Path × Value)) :
    namedAt place (xs ++ ys) = namedAt place xs ++ namedAt place ys :=
  List.map_append

/-- A step that all of them go is a step of the place. -/
theorem namedAt_map_cons (place : Path) (step : Segment) (scalars : List (Path × Value)) :
    namedAt place (scalars.map fun leaf => (step :: leaf.1, leaf.2)) =
      namedAt (place ++ [step]) scalars := by
  rw [namedAt, namedAt, List.map_map]
  refine List.map_congr_left fun leaf _ => ?_
  rw [Function.comp_apply, List.append_assoc, List.singleton_append]

theorem namedAt_scalar (place : Path) (v : Value) :
    namedAt place [([], v)] = [(place.joined, v)] := by
  rw [namedAt, List.map_singleton, List.append_nil]

mutual

/-- A tree whose name is that of a place gives its scalars the names of their places. -/
theorem fields_joined {place : Path} (h : place ≠ []) :
    ∀ json : Json, fields place.joined json = namedAt place (scalars json)
  | .null | .bool _ | .number _ | .string _ => (namedAt_scalar place _).symm
  | .array items => fieldsOfItems_joined h 0 items
  | .object members => fieldsOfMembers_joined h members

theorem fieldsOfItems_joined {place : Path} (h : place ≠ []) (i : Nat) :
    ∀ items : List Json,
      fieldsOfItems place.joined i items = namedAt place (itemScalars i items)
  | [] => rfl
  | item :: rest => by
      have hname := Path.joined_concat h (.index i)
      rw [Segment.component] at hname
      rw [fieldsOfItems, itemScalars, namedAt_append, namedAt_map_cons, ← hname,
        fields_joined (List.concat_ne_nil _ _) item, fieldsOfItems_joined h (i + 1) rest]

theorem fieldsOfMembers_joined {place : Path} (h : place ≠ []) :
    ∀ members : List (String × Json),
      fieldsOfMembers place.joined members = namedAt place (memberScalars members)
  | [] => rfl
  | (key, json) :: rest => by
      have hname := Path.joined_concat h (.key key)
      rw [Segment.component] at hname
      rw [fieldsOfMembers, memberScalars, namedAt_append, namedAt_map_cons, ← hname,
        fields_joined (List.concat_ne_nil _ _) json, fieldsOfMembers_joined h rest]

end

/-! ### Places and their components -/

/-- An index is written by its digits, and they determine it. -/
theorem decimalDigits_inj {i j : Nat} (h : decimalDigits i = decimalDigits j) : i = j := by
  rw [← ofDigitChars_decimalDigits i, h, ofDigitChars_decimalDigits]

/-- Two steps from one node that read alike go to one node. -/
theorem step_eq_of_component {json : Json} {s t : Segment} {p q : Path} {v w : Json}
    (hs : at? (s :: p) json = some v) (ht : at? (t :: q) json = some w)
    (h : s.component = t.component) : s = t := by
  -- A node has its parts by key or by index, and never by both.
  cases json with
  | object members =>
      rcases s with k | i
      · rcases t with l | j
        · exact congrArg Segment.key h
        · cases ht
      · cases hs
  | array items =>
      rcases s with k | i
      · cases hs
      · rcases t with l | j
        · cases ht
        · exact congrArg Segment.index (decimalDigits_inj (String.ofList_injective h))
  | null | bool | number | string => cases s <;> cases hs

/-- Two paths that both go the same first step lead on from one node. -/
theorem exists_at?_of_cons {json : Json} {step : Segment} {p q : Path} {v w : Json}
    (hp : at? (step :: p) json = some v) (hq : at? (step :: q) json = some w) :
    ∃ child, at? p child = some v ∧ at? q child = some w := by
  rw [← List.singleton_append, at?_append, Option.bind_eq_some_iff] at hp hq
  rcases hp with ⟨child, hchild, hp⟩
  rcases hq with ⟨other, hother, hq⟩
  rw [hchild, Option.some.injEq] at hother
  subst hother
  exact ⟨child, hp, hq⟩

/-- Two places of one tree with the same components are the same place. -/
theorem component_injOn_at? {json : Json} {p q : Path} {v w : Json} (hp : at? p json = some v)
    (hq : at? q json = some w) (h : p.map Segment.component = q.map Segment.component) :
    p = q := by
  induction p generalizing json q with
  | nil => exact (List.map_eq_nil_iff.mp h.symm).symm
  | cons s p ih =>
      rcases q with _ | ⟨t, q⟩
      · cases h
      · rw [List.map_cons, List.map_cons, List.cons.injEq] at h
        rcases step_eq_of_component hp hq h.1 with rfl
        rcases exists_at?_of_cons hp hq with ⟨child, hp, hq⟩
        rw [ih hp hq h.2]

/-! ### Joining components -/

/-- Components without points are found again between the points of the name. -/
theorem components_of_joined {p q : Path} (hp : ∀ step ∈ p, '.' ∉ step.component.toList)
    (hq : ∀ step ∈ q, '.' ∉ step.component.toList) (hp0 : p ≠ []) (hq0 : q ≠ [])
    (h : p.joined = q.joined) : p.map Segment.component = q.map Segment.component := by
  have hsplit : ∀ r : Path, (∀ step ∈ r, '.' ∉ step.component.toList) → r ≠ [] →
      r.joined.toList.splitOn '.' = (r.map Segment.component).map String.toList := by
    intro r hr hr0
    -- The name is cut at its points, and there are no others than those that join it.
    have hpoint : ".".toList = ['.'] := rfl
    rw [Path.joined, String.toList_intercalate, hpoint]
    refine List.splitOn_intercalate '.' ?_ ?_
    · simpa only [List.map_map, List.forall_mem_map, Function.comp_apply] using hr
    · rwa [ne_eq, List.map_eq_nil_iff, List.map_eq_nil_iff]
  have hlists := (hsplit p hp hp0).symm.trans (h ▸ hsplit q hq hq0)
  exact List.map_injective_iff.mpr (fun _ _ => String.toList_injective) hlists

/-- Every step to a place of a tree without points in keys is written without one. -/
theorem DotFree.component {json : Json} (h : json.DotFree) {path : Path} {v : Json}
    (hat : at? path json = some v) : ∀ step ∈ path, '.' ∉ step.component.toList := by
  intro step hstep
  cases step with
  | index i =>
      rw [Segment.component, String.toList_ofList]
      exact not_mem_decimalDigits (by decide) i
  | key name =>
      -- The key is one of the tree, at the place where the path comes to it.
      rcases List.append_of_mem hstep with ⟨front, rest, rfl⟩
      rw [List.append_cons, at?_append, Option.bind_eq_some_iff] at hat
      rcases hat with ⟨child, hchild, -⟩
      exact h front name child hchild

/-- Without points in keys, no two scalars of an object have the same name. -/
theorem DotFree.joined_inj {members : List (String × Json)} (h : (object members).DotFree)
    {p q : Path} {v w : Value} (hp : at? p (object members) = some v.toJson)
    (hq : at? q (object members) = some w.toJson) (heq : p.joined = q.joined) : p = q := by
  -- The object itself is not a scalar, so neither of the paths is empty.
  have hne : ∀ {r : Path} {u : Value}, at? r (object members) = some u.toJson → r ≠ [] := by
    rintro r u hr rfl
    cases u <;> cases hr
  exact component_injOn_at? hp hq
    (components_of_joined (h.component hp) (h.component hq) (hne hp) (hne hq) heq)

end Json

/-! ### The fields of a flattened object -/

/-- A record is made of the scalars of its object under their names. -/
theorem flatten_eq (members : List (String × Json)) :
    LogRecord.flatten members =
      .ofFields ((Json.scalars (.object members)).map fun leaf => (leaf.1.joined, leaf.2)) := by
  rw [LogRecord.flatten, Json.scalars]
  refine congrArg LogRecord.ofFields ?_
  -- The object has no name, so its members are taken one by one, each at its own place.
  change _ = Json.namedAt [] (Json.memberScalars members)
  induction members with
  | nil => rfl
  | cons member rest ih =>
      -- The name of a place of one step is the key itself.
      have hkey : Path.joined [.key member.1] = member.1 := String.intercalate_singleton
      have hmember := Json.fields_joined (List.cons_ne_nil (.key member.1) []) member.2
      rw [hkey] at hmember
      rw [List.flatMap_cons, hmember, ih, Json.memberScalars, Json.namedAt_append,
        Json.namedAt_map_cons, List.nil_append]

/-- Flattening loses nothing. The list of scalars has exactly what paths lead to, in
    document order. The record has a field for each of their names, in the order in
    which the names first occur, with the value of the last scalar of the name. If no
    key has a point, no two scalars share a name, and there are as many fields as
    scalars. -/
theorem flatten_keeps_scalars (members : List (String × Json))
    (h : (Json.object members).Distinct) :
    let scalars := Json.scalars (.object members)
    let named := scalars.map fun leaf => (leaf.1.joined, leaf.2)
    let record := LogRecord.flatten members
    (∀ (path : Path) (v : Value),
        (path, v) ∈ scalars ↔ Json.at? path (.object members) = some v.toJson) ∧
      scalars.Pairwise (fun a b => Json.Precedes (.object members) a.1 b.1) ∧
      record.text = none ∧
      record.fields.keys = (named.map Prod.fst).eraseDups ∧
      (∀ name, record.fields.get? name = lastEntry name named) ∧
      ((Json.object members).DotFree →
        (∀ a ∈ scalars, ∀ b ∈ scalars, a.1 ≠ b.1 → a.1.joined ≠ b.1.joined) ∧
          record.fields.size = scalars.length) := by
  intro scalars named record
  have hmem := Json.mem_scalars_iff _ h
  have hrecord : record = .ofFields named := flatten_eq members
  have hkeys : record.fields.keys = (named.map Prod.fst).eraseDups := by
    rw [hrecord]
    exact Bindings.keys_ofList named
  refine ⟨hmem, Json.pairwise_scalars _ h, by rw [hrecord]; rfl, hkeys, ?_, fun hfree => ?_⟩
  · intro name
    rw [hrecord]
    exact Bindings.get?_ofList named name
  · have hjoined : ∀ a ∈ scalars, ∀ b ∈ scalars, a.1 ≠ b.1 → a.1.joined ≠ b.1.joined :=
      fun a ha b hb hne heq =>
        hne (hfree.joined_inj ((hmem a.1 a.2).mp ha) ((hmem b.1 b.2).mp hb) heq)
    -- No scalar is listed twice, so no name is, and every name has its own field.
    have hnodup : (named.map Prod.fst).Nodup := by
      rw [List.map_map]
      refine List.pairwise_map.mpr ?_
      exact (List.pairwise_map.mp (Json.nodup_scalars h)).imp_of_mem fun ha hb => hjoined _ ha _ hb
    refine ⟨hjoined, ?_⟩
    calc record.fields.size = record.fields.keys.length := (List.length_map _).symm
      _ = (named.map Prod.fst).length := by rw [hkeys, eraseDups_of_nodup hnodup]
      _ = scalars.length := by rw [List.length_map, List.length_map]

/-- An empty key and a key that reads like an index, a container in a container, one
    that is empty, and nothing: two scalars, two fields. -/
theorem flatten_keeps_scalars_emptyKey :
    let members := [("", .array [.object [("0", .null)], .array []]), ("0", .bool true)]
    (Json.object members).Distinct ∧ (Json.object members).DotFree ∧
      (LogRecord.flatten members).fields.keys = [".0.0", "0"] ∧
      (LogRecord.flatten members).fields.get? ".0.0" = some .absent ∧
      (LogRecord.flatten members).fields.size = 2 := by
  intro members
  have hdistinct : (Json.object members).Distinct := by
    simp [members, Json.Distinct, Json.DistinctItems, Json.DistinctMembers]
  have hfree : (Json.object members).DotFree := by
    have hnull : Json.null.DotFree := Json.dotFree_scalar .absent
    have htrue : (Json.bool true).DotFree := Json.dotFree_scalar (.boolean true)
    have hitem : (Json.object [("0", .null)]).DotFree :=
      Json.dotFree_object (by simpa using hnull)
    have hitems : (Json.array [.object [("0", .null)], .array []]).DotFree :=
      Json.dotFree_array (by simpa using ⟨hitem, Json.dotFree_array nofun⟩)
    exact Json.dotFree_object (by simpa [members] using ⟨hitems, htrue⟩)
  rcases flatten_keeps_scalars members hdistinct with ⟨-, -, -, hkeys, hget, hsize⟩
  refine ⟨hdistinct, hfree, hkeys.trans ?_, (hget _).trans ?_, (hsize hfree).2.trans ?_⟩
  · decide
  · decide
  · decide

/-- A key with a point can be the name of another place. Its field comes first, and
    holds what is written last. -/
example :
    let members := [("a.b", .string "x"), ("c", .null), ("a", .object [("b", .bool true)])]
    (LogRecord.flatten members).fields.entries = [("a.b", .boolean true), ("c", .absent)] := by
  decide

end LogQuery
