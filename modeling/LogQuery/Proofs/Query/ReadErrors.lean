import LogQuery.Proofs.Json.Places
import LogQuery.Proofs.Query.Grammar
import LogQuery.Proofs.Query.PathText

/-!
# Where a Query Goes Wrong

A value that is not the form of a query is refused with a path and a problem.
Both are about the value at hand, whatever spelling it has: the path leads
through it, by its own keys and indices, to a node, the last step says what the
grammar wants there, and the node is not that. The path also says how far the
reader has come. A list of operations is read from the front and a condition
before the branches, so all operations with a lower index in a list on the path
are in order, and if the path goes through the second branch of an `if`, then
the whole first branch is.

The reader carries the path of the part that it is reading, and the statement
about a part speaks of that part alone: a rejection extends the path by steps
that lead from there to the fault (`Faults`). A part is reached by one step, and
`PointsInto.inMember` and `PointsInto.inItem` say what the step adds to the
fault. That is where the operations before it come in, and they are in order
because the readings before did not fail, which is what `Yields` says of them.

What stands in an error is the text of the path. Every key on such a path is a
word of the grammar, so the text says the path (`Path.ofText_text`).

## Main definitions

* `ReadBefore`: A list of operations that comes before a place.
* `Path.EndsIn`, `Path.HoldsTag`, `Path.HoldsObject`, `Path.Allows`: What the
  grammar wants at a place.
* `QueryProblem.AppliesTo`: A node at a place has a problem.
* `PointsInto`: A path and a problem are about a fault in a tree.
* `QueryReader.Faults`: A reading that fails points at a fault.

## Theorems

* `PointsInto.inMember`, `PointsInto.inItem`: A fault in a part of a tree.
* `faults_bind`: Readings in a row.
* `readExpression_faults`, `readMatch_faults`, `readEitherCondition_faults`,
  `readSet_faults`, `readOperation_faults`: Each part of the reader points at
  faults in its input.
* `read_error_points_at_fault`: The errors of the reader.
-/

namespace LogQuery

/-! ### Faults -/

/-- A list of operations comes before a place in a tree. -/
inductive ReadBefore : Json → Path → Json → Prop where
  /-- The elements with a lower index, where the place is in a list. -/
  | items (items : List Json) (i : Nat) (rest : Path) :
      ReadBefore (.array items) (.index i :: rest) (.array (items.take i))
  /-- The first branch, where the place is in the second. -/
  | thenBranch {members : List (String × Json)} {list : Json}
      (h : Json.member? "then" members = some list) (rest : Path) :
      ReadBefore (.object members) (.key "else" :: rest) list
  | inItem {items : List Json} {i : Nat} {item list : Json} {rest : Path}
      (h : items[i]? = some item) :
      ReadBefore item rest list → ReadBefore (.array items) (.index i :: rest) list
  | inMember {members : List (String × Json)} {key : String} {json list : Json} {rest : Path}
      (h : Json.member? key members = some json) :
      ReadBefore json rest list → ReadBefore (.object members) (.key key :: rest) list

namespace Path

/-- The last step to a place is one of some keys. -/
def EndsIn (keys : List String) (path : Path) : Prop :=
  ∃ front, ∃ key ∈ keys, path = child front key

/-- An object with a single key belongs here: an operation, a condition or an
    expression. -/
def HoldsTag (path : Path) : Prop :=
  (∃ front i, path = element front i) ∨ path.EndsIn ["condition", "expression", "colorBy"]

/-- An object belongs here. -/
def HoldsObject (path : Path) : Prop :=
  path = [] ∨ path.HoldsTag ∨ path.EndsIn ["if", "match", "set", "skipRecord", "skip"]

/-- The keys that an object here may have. -/
inductive Allows (path : Path) : List String → Prop where
  | root (h : path = []) : Allows path ["operations"]
  | ofBranch (h : path.EndsIn ["if"]) : Allows path ["condition", "match", "then", "else"]
  | ofMatch (h : path.EndsIn ["match"]) : Allows path ["expression", "pattern"]
  | ofSet (h : path.EndsIn ["set"]) : Allows path ["target", "expression"]

theorem endsIn_child (front : Path) {key : String} {keys : List String} (h : key ∈ keys) :
    (child front key).EndsIn keys :=
  ⟨front, key, h, rfl⟩

theorem EndsIn.mono {path : Path} {keys more : List String} (h : path.EndsIn keys)
    (hmore : keys ⊆ more) : path.EndsIn more := by
  rcases h with ⟨front, key, hkey, hpath⟩
  exact ⟨front, key, hmore hkey, hpath⟩

end Path

/-- An object without a key. -/
def Json.Lacks (key : String) (json : Json) : Prop :=
  ∃ members, json = .object members ∧ Json.member? key members = none

/-- An object with a single key, which is not among some. -/
def Json.TaggedOutside (tags : List String) (tag : String) (json : Json) : Prop :=
  ∃ body, json = .object [(tag, body)] ∧ tag ∉ tags

/-- The node at a place has the problem that is said of it: the place is one for which
    the grammar wants something, and the node is not that. -/
def QueryProblem.AppliesTo : QueryProblem → Path → Json → Prop
  | objectExpected, path, json => path.HoldsObject ∧ ∀ members, json ≠ .object members
  | stringExpected, path, json =>
    path.EndsIn ["target", "pattern", "var", "variable", "lastVarValue", "lastVariableValue",
      "field"] ∧ ∀ s, json ≠ .string s
  | arrayExpected, path, json => path = [.key "operations"] ∧ ∀ items, json ≠ .array items
  | operationsExpected, path, json =>
    path.EndsIn ["then", "else"] ∧ ∀ items, json ≠ .array items
  | emptyObjectExpected, path, json =>
    path.EndsIn ["record", "skipRecord", "skip"] ∧ json ≠ .object []
  | scalarExpected, path, json => path.EndsIn ["constant"] ∧ ∀ value : Value, json ≠ value.toJson
  | unexpectedKey key, path, json => ∃ allowed members, path.Allows allowed ∧
      json = .object members ∧ key ∈ members.map Prod.fst ∧ key ∉ allowed
  | noKey, path, json => path.HoldsTag ∧ json = .object []
  | severalKeys count, path, json => path.HoldsTag ∧ 1 < count ∧
      ∃ members, json = .object members ∧ members.length = count
  | unknownOperation tag, path, json => (∃ front i, path = Path.element front i) ∧
      json.TaggedOutside ["if", "set", "colorBy", "skipRecord", "skip"] tag
  | unknownCondition tag, path, json =>
    path.EndsIn ["condition"] ∧ json.TaggedOutside ["match"] tag
  | unknownExpression tag, path, json => path.EndsIn ["expression", "colorBy"] ∧
      json.TaggedOutside ["record", "var", "variable", "lastVarValue", "lastVariableValue",
        "field", "constant"] tag
  | bothConditions, path, json =>
    path.EndsIn ["if"] ∧ ¬ json.Lacks "condition" ∧ ¬ json.Lacks "match"
  | missingCondition, path, json =>
    path.EndsIn ["if"] ∧ json.Lacks "condition" ∧ json.Lacks "match"
  | missingOperations, path, json => path = [] ∧ json.Lacks "operations"
  | missingExpression, path, json => path.EndsIn ["match"] ∧ json.Lacks "expression"
  | missingPattern, path, json => path.EndsIn ["match"] ∧ json.Lacks "pattern"
  | missingTarget, path, json => path.EndsIn ["set"] ∧ json.Lacks "target"
  | emptyTarget, _, _ | emptyName, _, _ | malformedJson _, _, _ | malformedYaml, _, _ => False

/-- A path leads from the node at a place to a fault that has a problem, and the operations
    before it are in order. -/
structure PointsInto (place : Path) (json : Json) (below : Path) (problem : QueryProblem) :
    Prop where
  plain : below.Plain
  applies : ∃ found, Json.at? below json = some found ∧ problem.AppliesTo (place ++ below) found
  before : ∀ list, ReadBefore json below list → ∃ operations, DenotesBranch (some list) operations

theorem PointsInto.here {place : Path} {json : Json} {problem : QueryProblem}
    (h : problem.AppliesTo place json) : PointsInto place json [] problem where
  plain := nofun
  applies := ⟨json, rfl, (List.append_nil place).symm ▸ h⟩
  before := nofun

/-- A fault in a member of an object. What comes before the second branch is the
    first. -/
theorem PointsInto.inMember {place : Path} {members : List (String × Json)} {key : String}
    {json : Json} {below : Path} {problem : QueryProblem}
    (hmember : Json.member? key members = some json) (hkey : Path.PlainKey key)
    (hthen : key = "else" → ∀ list, Json.member? "then" members = some list →
      ∃ operations, DenotesBranch (some list) operations)
    (h : PointsInto (place.child key) json below problem) :
    PointsInto place (.object members) (.key key :: below) problem where
  plain := by
    intro name hname
    rcases List.mem_cons.mp hname with heq | hname
    · exact Segment.key.inj heq ▸ hkey
    · exact h.plain name hname
  applies := by
    rw [Json.at?, hmember, List.append_cons]
    exact h.applies
  before := by
    intro list hbefore
    -- The member itself shows all that comes before, but for the first branch.
    cases hbefore with
    | thenBranch hlist => exact hthen rfl list hlist
    | inMember hother hbefore =>
        rw [hmember, Option.some.injEq] at hother
        subst hother
        exact h.before list hbefore

/-- A fault in an element of a list. What comes before the element are those with a
    lower index. -/
theorem PointsInto.inItem {place : Path} {items : List Json} {i : Nat} {json : Json}
    {below : Path} {problem : QueryProblem} (hitem : items[i]? = some json)
    (hearlier : ∃ operations, DenotesOperations (items.take i) operations)
    (h : PointsInto (place.element i) json below problem) :
    PointsInto place (.array items) (.index i :: below) problem where
  plain := by
    intro name hname
    rcases List.mem_cons.mp hname with heq | hname
    · cases heq
    · exact h.plain name hname
  applies := by
    rw [Json.at?, hitem, List.append_cons]
    exact h.applies
  before := by
    intro list hbefore
    cases hbefore with
    | items =>
        rcases hearlier with ⟨operations, hdenotes⟩
        exact ⟨operations, .present hdenotes⟩
    | inItem hother hbefore =>
        rw [hitem, Option.some.injEq] at hother
        subst hother
        exact h.before list hbefore

namespace QueryReader

/-! ### Readings that fail -/

/-- A reading of the node at a place points at a fault in it if it fails. -/
def Faults {α : Type} (place : Path) (json : Json) : Reading α → Prop
  | .ok _ => True
  | .error e => ∃ below problem, e = .invalidQuery (place ++ below) problem ∧
      PointsInto place json below problem

section

variable {α β : Type} {place : Path}

theorem faults_reject {json : Json} {problem : QueryProblem} (h : problem.AppliesTo place json) :
    Faults place json (reject place problem : Reading α) :=
  ⟨[], problem, by rw [List.append_nil], .here h⟩

/-- Readings in a row. What the second is about may depend on what the first has
    found out. -/
theorem faults_bind {json : Json} {P : α → Prop} {reading : Reading α} {next : α → Reading β}
    (h : Faults place json reading) (hyields : Yields P reading)
    (hnext : ∀ a, P a → Faults place json (next a)) : Faults place json (reading >>= next) := by
  cases reading with
  | error e => exact h
  | ok a => exact hnext a hyields

theorem faults_map {json : Json} {reading : Reading α} {f : α → β}
    (h : Faults place json reading) : Faults place json (reading.map f) := by
  cases reading with
  | error e => exact h
  | ok a => trivial

/-- What is read under a key. -/
theorem faults_inMember {members : List (String × Json)} {key : String} {json : Json}
    {reading : Reading α} (hmember : Json.member? key members = some json)
    (hkey : Path.PlainKey key)
    (hthen : key = "else" → ∀ list, Json.member? "then" members = some list →
      ∃ operations, DenotesBranch (some list) operations)
    (h : Faults (place.child key) json reading) : Faults place (.object members) reading := by
  cases reading with
  | ok a => trivial
  | error e =>
      rcases h with ⟨below, problem, rfl, hpoints⟩
      refine ⟨.key key :: below, problem, ?_, hpoints.inMember hmember hkey hthen⟩
      rw [Path.child, List.append_assoc, List.singleton_append]

/-- Before all other members than the second branch there are no operations. -/
theorem faults_inPart {members : List (String × Json)} {key : String} {json : Json}
    {reading : Reading α} (hmember : Json.member? key members = some json)
    (hkey : Path.PlainKey key ∧ key ≠ "else") (h : Faults (place.child key) json reading) :
    Faults place (.object members) reading :=
  faults_inMember hmember hkey.1 (fun heq => absurd heq hkey.2) h

/-- What is read under the only key of an object. -/
theorem faults_inTag {tag : String} {body : Json} {reading : Reading α}
    (hkey : Path.PlainKey tag ∧ tag ≠ "else") (h : Faults (place.child tag) body reading) :
    Faults place (.object [(tag, body)]) reading := by
  have hmember : Json.member? tag [(tag, body)] = some body := by
    rw [Json.member?, lookupEntry, if_pos rfl]
  exact faults_inPart hmember hkey h

theorem faults_inItem {items : List Json} {i : Nat} {json : Json} {reading : Reading α}
    (hitem : items[i]? = some json)
    (hearlier : ∃ operations, DenotesOperations (items.take i) operations)
    (h : Faults (place.element i) json reading) : Faults place (.array items) reading := by
  cases reading with
  | ok a => trivial
  | error e =>
      rcases h with ⟨below, problem, rfl, hpoints⟩
      refine ⟨.index i :: below, problem, ?_, hpoints.inItem hitem hearlier⟩
      rw [Path.element, List.append_assoc, List.singleton_append]

theorem expectObject_faults (hplace : place.HoldsObject) (json : Json) :
    Faults place json (expectObject place json) := by
  cases json with
  | object members => trivial
  | null | bool _ | number _ | string _ | array _ => exact faults_reject ⟨hplace, nofun⟩

theorem expectString_faults
    (hplace : place.EndsIn ["target", "pattern", "var", "variable", "lastVarValue",
      "lastVariableValue", "field"]) (json : Json) :
    Faults place json (expectString place json) := by
  cases json with
  | string s => trivial
  | null | bool _ | number _ | array _ | object _ => exact faults_reject ⟨hplace, nofun⟩

theorem checkKeys_faults {allowed : List String} (hplace : place.Allows allowed)
    (members : List (String × Json)) :
    Faults place (.object members) (checkKeys place allowed members) := by
  unfold checkKeys
  cases hfind : members.find? fun member => !allowed.contains member.1 with
  | some member =>
      have hnot := List.find?_some hfind
      rw [Bool.not_eq_true', ← Bool.not_eq_true, List.contains_iff_mem] at hnot
      exact faults_reject ⟨allowed, members, hplace, rfl,
        List.mem_map_of_mem (List.mem_of_find?_eq_some hfind), hnot⟩
  | none => trivial

theorem singleMember_faults (hplace : place.HoldsTag) (members : List (String × Json)) :
    Faults place (.object members) (singleMember place members) := by
  rcases members with _ | ⟨member, _ | ⟨other, rest⟩⟩
  · exact faults_reject ⟨hplace, rfl⟩
  · trivial
  · exact faults_reject ⟨hplace, by simp only [List.length_cons]; omega, _, rfl, rfl⟩

theorem require_faults {key : String} {read : Path → Json → Reading α} (missing : QueryProblem)
    (hkey : Path.PlainKey key ∧ key ≠ "else")
    (hmissing : ∀ json, json.Lacks key → missing.AppliesTo place json)
    (hread : ∀ json, Faults (place.child key) json (read (place.child key) json))
    (members : List (String × Json)) :
    Faults place (.object members) (require place members key missing read) := by
  unfold require
  cases hmember : Json.member? key members with
  | none => exact faults_reject (hmissing _ ⟨members, rfl, hmember⟩)
  | some json => exact faults_inPart hmember hkey (hread json)

end

/-! ### Each part points at faults in its input -/

theorem readExpression_faults {place : Path} (hplace : place.EndsIn ["expression", "colorBy"])
    (json : Json) : Faults place json (readExpression place json) := by
  have htag : place.HoldsTag := .inr (hplace.mono (by decide))
  unfold readExpression
  refine faults_bind (expectObject_faults (.inr (.inl htag)) json) (expectObject_yields _ json) ?_
  rintro members rfl
  refine faults_bind (singleMember_faults htag members) (singleMember_yields _ members) ?_
  rintro ⟨tag, body⟩ rfl
  simp only []
  -- With a tag that is known the fault is below it, and otherwise it is the tag.
  split_ifs with hrecord hvar hlast hfield hconstant
  · subst hrecord
    refine faults_inTag (by decide) ?_
    split
    · trivial
    · trivial
    · next hempty => exact faults_reject ⟨Path.endsIn_child place (by decide), hempty⟩
  · refine faults_inTag ?_ (faults_map (expectString_faults (Path.endsIn_child place ?_) body))
    · rcases hvar with rfl | rfl <;> decide
    · rcases hvar with rfl | rfl <;> decide
  · refine faults_inTag ?_ (faults_map (expectString_faults (Path.endsIn_child place ?_) body))
    · rcases hlast with rfl | rfl <;> decide
    · rcases hlast with rfl | rfl <;> decide
  · subst hfield
    exact faults_inTag (by decide)
      (faults_map (expectString_faults (Path.endsIn_child place (by decide)) body))
  · subst hconstant
    refine faults_inTag (by decide) ?_
    cases hvalue : Value.ofJson? body with
    | some value => trivial
    | none =>
        refine faults_reject ⟨Path.endsIn_child place (by decide), ?_⟩
        rintro value rfl
        cases value <;> cases hvalue
  · rw [not_or] at hvar hlast
    refine faults_reject ⟨hplace, body, rfl, ?_⟩
    simp only [List.mem_cons, List.not_mem_nil, or_false, not_or]
    exact ⟨hrecord, hvar.1, hvar.2, hlast.1, hlast.2, hfield, hconstant⟩

theorem readMatch_faults {place : Path} (hplace : place.EndsIn ["match"]) (json : Json) :
    Faults place json (readMatch place json) := by
  have hobject : place.HoldsObject := .inr (.inr (hplace.mono (by decide)))
  unfold readMatch
  refine faults_bind (expectObject_faults hobject json) (expectObject_yields _ json) ?_
  rintro members rfl
  refine faults_bind (checkKeys_faults (.ofMatch hplace) members) (checkKeys_yields _ _ members)
    fun _ _ => ?_
  refine faults_bind
    (require_faults .missingExpression (by decide) (fun _ h => ⟨hplace, h⟩)
      (readExpression_faults (Path.endsIn_child place (by decide))) members)
    (require_yields readExpression_yields _ members _ _) fun expression _ => ?_
  exact faults_bind
    (require_faults .missingPattern (by decide) (fun _ h => ⟨hplace, h⟩)
      (expectString_faults (Path.endsIn_child place (by decide))) members)
    (require_yields expectString_yields _ members _ _) fun _ _ => trivial

theorem readCondition_faults {place : Path} (hplace : place.EndsIn ["condition"]) (json : Json) :
    Faults place json (readCondition place json) := by
  have htag : place.HoldsTag := .inr (hplace.mono (by decide))
  unfold readCondition
  refine faults_bind (expectObject_faults (.inr (.inl htag)) json) (expectObject_yields _ json) ?_
  rintro members rfl
  refine faults_bind (singleMember_faults htag members) (singleMember_yields _ members) ?_
  rintro ⟨tag, body⟩ rfl
  simp only []
  split_ifs with hmatch
  · subst hmatch
    exact faults_inTag (by decide) (readMatch_faults (Path.endsIn_child place (by decide)) body)
  · exact faults_reject ⟨hplace, body, rfl, by rwa [List.mem_singleton]⟩

theorem readEitherCondition_faults {place : Path} (hplace : place.EndsIn ["if"])
    (members : List (String × Json)) :
    Faults place (.object members) (readEitherCondition place members) := by
  unfold readEitherCondition
  cases hcondition : Json.member? "condition" members with
  | none =>
      cases hmatch : Json.member? "match" members with
      | none => exact faults_reject ⟨hplace, ⟨members, rfl, hcondition⟩, ⟨members, rfl, hmatch⟩⟩
      | some body =>
          exact faults_inPart hmatch (by decide)
            (readMatch_faults (Path.endsIn_child place (by decide)) body)
  | some json =>
      cases hmatch : Json.member? "match" members with
      | none =>
          exact faults_inPart hcondition (by decide)
            (readCondition_faults (Path.endsIn_child place (by decide)) json)
      | some body =>
          have hpresent : ∀ {key : String} {json : Json}, Json.member? key members = some json →
              ¬ (Json.object members).Lacks key := by
            rintro key json h ⟨_, heq, hnone⟩
            cases heq
            rw [h] at hnone
            cases hnone
          exact faults_reject ⟨hplace, hpresent hcondition, hpresent hmatch⟩

theorem readSet_faults {place : Path} (hplace : place.EndsIn ["set"]) (json : Json) :
    Faults place json (readSet place json) := by
  have hobject : place.HoldsObject := .inr (.inr (hplace.mono (by decide)))
  unfold readSet
  refine faults_bind (expectObject_faults hobject json) (expectObject_yields _ json) ?_
  rintro members rfl
  refine faults_bind (checkKeys_faults (.ofSet hplace) members) (checkKeys_yields _ _ members)
    fun _ _ => ?_
  refine faults_bind
    (require_faults .missingTarget (by decide) (fun _ h => ⟨hplace, h⟩)
      (expectString_faults (Path.endsIn_child place (by decide))) members)
    (require_yields expectString_yields _ members _ _) fun target _ => ?_
  cases hsource : Json.member? "expression" members with
  | none => trivial
  | some json =>
      exact faults_bind
        (faults_inPart hsource (by decide)
          (readExpression_faults (Path.endsIn_child place (by decide)) json))
        (readExpression_yields _ json) fun _ _ => trivial

theorem readSkip_faults {place : Path} (hplace : place.EndsIn ["skipRecord", "skip"])
    (json : Json) : Faults place json (readSkip place json) := by
  have hobject : place.HoldsObject := .inr (.inr (hplace.mono (by decide)))
  unfold readSkip
  refine faults_bind (expectObject_faults hobject json) (expectObject_yields _ json) ?_
  rintro members rfl
  cases members with
  | nil => trivial
  | cons member rest => exact faults_reject ⟨hplace.mono (by decide), nofun⟩

/-- A branch is read from the member with its key. -/
theorem readBranch_faults {members : List (String × Json)} {key : String}
    (hkey : Path.PlainKey key)
    (hthen : key = "else" → ∀ list, Json.member? "then" members = some list →
      ∃ operations, DenotesBranch (some list) operations)
    {place : Path} (hbody : ∀ json, Json.member? key members = some json →
      Faults (place.child key) json (readBranchBody (place.child key) json)) :
    Faults place (.object members) (readBranch place key members) := by
  rw [readBranch_eq]
  cases hmember : Json.member? key members with
  | none => trivial
  | some json => exact faults_inMember hmember hkey hthen (hbody json hmember)

theorem denotesOperations_concat {items : List Json} {operations : List Operation} {item : Json}
    {operation : Operation} (hitems : DenotesOperations items operations)
    (hitem : DenotesOperation item operation) :
    DenotesOperations (items ++ [item]) (operations ++ [operation]) := by
  induction items generalizing operations with
  | nil =>
      cases hitems
      exact .cons hitem .nil
  | cons first rest ih =>
      cases hitems with
      | cons head tail => exact .cons head (ih tail)

mutual

theorem readOperation_faults :
    ∀ (json : Json) (front : Path) (i : Nat),
      Faults (front.element i) json (readOperation (front.element i) json)
  | .object [(tag, body)], front, i => by
      rw [readOperation]
      split_ifs with hif hset hcolor hskip
      · subst hif
        exact faults_inTag (by decide) (readIf_faults body (Path.endsIn_child _ (by decide)))
      · subst hset
        exact faults_inTag (by decide) (readSet_faults (Path.endsIn_child _ (by decide)) body)
      · subst hcolor
        exact faults_inTag (by decide)
          (faults_map (readExpression_faults (Path.endsIn_child _ (by decide)) body))
      · refine faults_inTag ?_ (readSkip_faults (Path.endsIn_child _ ?_) body)
        · rcases hskip with rfl | rfl <;> decide
        · rcases hskip with rfl | rfl <;> decide
      · rw [not_or] at hskip
        refine faults_reject ⟨⟨front, i, rfl⟩, body, rfl, ?_⟩
        simp only [List.mem_cons, List.not_mem_nil, or_false, not_or]
        exact ⟨hif, hset, hcolor, hskip.1, hskip.2⟩
  | .object [], front, i => by
      rw [readOperation]
      exact faults_reject ⟨.inl ⟨front, i, rfl⟩, rfl⟩
  | .object (first :: second :: rest), front, i => by
      rw [readOperation]
      · exact faults_reject
          ⟨.inl ⟨front, i, rfl⟩, by simp only [List.length_cons]; omega, _, rfl, rfl⟩
      all_goals simp
  | .null, front, i | .bool _, front, i | .number _, front, i | .string _, front, i
  | .array _, front, i => by
      rw [readOperation]
      · exact faults_reject ⟨.inr (.inl (.inl ⟨front, i, rfl⟩)), nofun⟩
      all_goals simp

theorem readIf_faults :
    ∀ (json : Json) {place : Path}, place.EndsIn ["if"] → Faults place json (readIf place json)
  | .object members, place, hplace => by
      rw [readIf]
      refine faults_bind (checkKeys_faults (.ofBranch hplace) members)
        (checkKeys_yields place _ members) fun _ _ => ?_
      refine faults_bind (readEitherCondition_faults hplace members)
        (readEitherCondition_yields place members) fun condition _ => ?_
      refine faults_bind
        (readBranch_faults (by decide) (fun h => absurd h (by decide)) fun json hmember =>
          readMember_faults members "then" json hmember (Path.endsIn_child place (by decide)))
        (readBranch_yields place "then" members) fun thenOps hthen => ?_
      -- From here on the first branch has been read, so it denotes operations.
      have hfirst : ∀ list, Json.member? "then" members = some list →
          ∃ operations, DenotesBranch (some list) operations :=
        fun list hlist => ⟨thenOps, hlist ▸ hthen⟩
      exact faults_bind
        (readBranch_faults (by decide) (fun _ => hfirst) fun json hmember =>
          readMember_faults members "else" json hmember (Path.endsIn_child place (by decide)))
        (readBranch_yields place "else" members) fun _ _ => trivial
  | .null, place, hplace | .bool _, place, hplace | .number _, place, hplace
  | .string _, place, hplace | .array _, place, hplace => by
      rw [readIf]
      · exact faults_reject ⟨.inr (.inr (hplace.mono (by decide))), nofun⟩
      all_goals simp

theorem readMember_faults :
    ∀ (members : List (String × Json)) (key : String) (json : Json),
      Json.member? key members = some json →
      ∀ {place : Path}, place.EndsIn ["then", "else"] →
        Faults place json (readBranchBody place json)
  | (name, first) :: rest, key, json, h, place, hplace => by
      rw [Json.member?, lookupEntry] at h
      split at h
      · rw [Option.some.injEq] at h
        exact h ▸ readBranchBody_faults first hplace
      · exact readMember_faults rest key json h hplace

theorem readBranchBody_faults :
    ∀ (json : Json) {place : Path}, place.EndsIn ["then", "else"] →
      Faults place json (readBranchBody place json)
  | .array items, place, hplace => by
      rw [readBranchBody]
      exact readOperations_faults items [] [] .nil place
  | .null, place, hplace | .bool _, place, hplace | .number _, place, hplace
  | .string _, place, hplace | .object _, place, hplace => by
      rw [readBranchBody]
      · exact faults_reject ⟨hplace, nofun⟩
      all_goals simp

/-- Operations are read after others that are in order already. -/
theorem readOperations_faults :
    ∀ (items before : List Json) (operations : List Operation),
      DenotesOperations before operations → ∀ place : Path,
      Faults place (.array (before ++ items)) (readOperations place before.length items)
  | [], before, operations, hbefore, place => by
      rw [readOperations]
      trivial
  | item :: rest, before, operations, hbefore, place => by
      have hitem := Json.getElem?_behind before item rest
      have hearlier : ∃ operations,
          DenotesOperations ((before ++ item :: rest).take before.length) operations := by
        rw [List.take_left]
        exact ⟨operations, hbefore⟩
      rw [readOperations]
      refine faults_bind (faults_inItem hitem hearlier (readOperation_faults item _ _))
        (readOperation_yields _ item) fun operation hoperation => ?_
      -- Now this one is in order too, and stands before the rest.
      have hrest := readOperations_faults rest (before ++ [item]) (operations ++ [operation])
        (denotesOperations_concat hbefore hoperation) place
      rw [List.append_assoc, List.singleton_append, List.length_append, List.length_singleton]
        at hrest
      exact faults_bind hrest (readOperations_yields _ _ rest) fun _ _ => trivial

end

end QueryReader

/-! ### The errors of the reader -/

open QueryReader

theorem Query.ofJson_faults (json : Json) : Faults [] json (Query.ofJson json) := by
  unfold Query.ofJson
  refine faults_bind (expectObject_faults (.inl rfl) json) (expectObject_yields [] json) ?_
  rintro members rfl
  refine faults_bind (checkKeys_faults (.root rfl) members) (checkKeys_yields [] _ members)
    fun _ _ => ?_
  cases hmember : Json.member? "operations" members with
  | none => exact faults_reject ⟨rfl, members, rfl, hmember⟩
  | some found =>
      have hpart : ∀ {α : Type} {reading : Reading α},
          Faults [.key "operations"] found reading → Faults [] (.object members) reading :=
        fun h => faults_inPart hmember (by decide) h
      cases found with
      | array items =>
          exact faults_bind (hpart (readOperations_faults items [] [] .nil _))
            (readOperations_yields _ 0 items) fun _ _ => trivial
      | null | bool _ | number _ | string _ | object _ => exact hpart (faults_reject ⟨rfl, nofun⟩)

/-- An operation that denotes something is read on its own. -/
theorem Query.ofJson_singleton {item : Json} {operation : Operation}
    (h : DenotesOperation item operation) :
    Query.ofJson (.object [("operations", .array [item])]) = .ok ⟨[operation]⟩ := by
  have hkeys : KeysAmong ["operations"] [("operations", Json.array [item])] := by
    intro member hmember
    rw [List.mem_singleton.mp hmember]
    exact List.mem_cons_self
  exact Query.ofJson_of_denotes (.intro hkeys rfl (.cons h .nil))

theorem DenotesOperations.of_mem {items : List Json} {operations : List Operation} {item : Json}
    (h : DenotesOperations items operations) (hmem : item ∈ items) :
    ∃ operation, DenotesOperation item operation := by
  induction items generalizing operations with
  | nil => cases hmem
  | cons first rest ih =>
      cases h with
      | cons head tail =>
          rcases List.mem_cons.mp hmem with rfl | hmem
          · exact ⟨_, head⟩
          · exact ih tail hmem

/-- Read errors point at the fault. The text of the path says a path, which leads to
    a node of the value that was read, and the node has the problem that the error
    names: it is not what the grammar wants at that place. What comes before the place
    are lists, and each operation in them is read without error on its own. -/
theorem read_error_points_at_fault (json : Json) (e : QueryError)
    (h : Query.ofJson json = .error e) :
    Path.ofText e.path.text = e.path ∧
      (∃ problem found, e = .invalidQuery e.path problem ∧
        Json.at? e.path json = some found ∧ problem.AppliesTo e.path found) ∧
      ∀ list, ReadBefore json e.path list → ∃ items, list = .array items ∧
        ∀ item ∈ items, ∃ operation,
          Query.ofJson (.object [("operations", .array [item])]) = .ok ⟨[operation]⟩ := by
  have hfaults := Query.ofJson_faults json
  rw [h] at hfaults
  rcases hfaults with ⟨below, problem, rfl, hpoints⟩
  rcases hpoints.applies with ⟨found, hfound, happlies⟩
  refine ⟨Path.ofText_text hpoints.plain, ⟨problem, found, rfl, hfound, happlies⟩, ?_⟩
  intro list hbefore
  rcases hpoints.before list hbefore with ⟨operations, hdenotes⟩
  cases hdenotes with
  | @present items _ hdenotes =>
      refine ⟨items, rfl, fun item hitem => ?_⟩
      rcases hdenotes.of_mem hitem with ⟨operation, hoperation⟩
      exact ⟨operation, Query.ofJson_singleton hoperation⟩

/-- A target that is no string, in a second branch, after operations in other spellings. -/
theorem read_error_points_at_fault_inElse :
    let record := Json.object [("record", .null)]
    let condition := Json.object [("pattern", .string "a"), ("expression", record)]
    let color := Json.object [("colorBy", .object [("variable", .string "x")])]
    let skip := Json.object [("skip", .object [])]
    let set := Json.object [("set", .object [("target", .bool true)])]
    let json := Json.object [("operations", .array [skip, .object [("if", .object
      [("else", .array [skip, set]), ("match", condition), ("then", .array [color])])]])]
    let place : Path := [.key "operations", .index 1, .key "if", .key "else", .index 1, .key "set",
      .key "target"]
    Query.ofJson json = .error (.invalidQuery place .stringExpected) ∧
      Path.ofText "operations[1].if.else[1].set.target" = place ∧
      (∃ found, Json.at? place json = some found ∧
        QueryProblem.stringExpected.AppliesTo place found) ∧
      ∃ operation, Query.ofJson (.object [("operations", .array [color])]) = .ok ⟨[operation]⟩ := by
  intro record condition color skip set json place
  have herror : Query.ofJson json = .error (.invalidQuery place .stringExpected) := by rfl
  have hbefore : ReadBefore json place (.array [color]) :=
    .inMember rfl (.inItem rfl (.inMember rfl (.thenBranch rfl _)))
  rcases read_error_points_at_fault json _ herror with
    ⟨htext, ⟨_, found, heq, hfound, hfault⟩, hread⟩
  cases heq
  rcases hread _ hbefore with ⟨items, hitems, hread⟩
  cases hitems
  exact ⟨herror, htext, ⟨found, hfound, hfault⟩, hread color List.mem_cons_self⟩

end LogQuery
