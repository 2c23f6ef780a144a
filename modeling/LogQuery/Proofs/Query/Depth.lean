import LogQuery.Proofs.Json.Nesting
import LogQuery.Proofs.Query.Grammar

/-!
# Depth of the Full Form

A query can be written in short forms, and its full form nests deeper than
these. An inline condition gets an object around it and a null body becomes an
object, but each of this happens once on the way into a tree: a condition has
no operations inside, and an expression is where the way ends. So the full form
nests at most two levels deeper than whatever denotes the query
(`DenotesQuery.depth_le`).

## Theorems

* `DenotesExpression.depth_le`, `DenotesCondition.depth_le`: The parts of an
  operation.
* `DenotesOperation.depth_le`: An operation and those in its branches.
* `DenotesQuery.depth_le`: A whole query.
-/

namespace LogQuery

open Json

theorem depth_le_of_member? {key : String} {json : Json} {members : List (String × Json)}
    (h : member? key members = some json) : json.depth ≤ depthOfMembers members := by
  induction members with
  | nil => cases h
  | cons member rest ih =>
      rcases member with ⟨name, found⟩
      rw [member?, lookupEntry] at h
      rw [depthOfMembers]
      split at h
      · cases h
        exact Nat.le_max_left _ _
      · exact Nat.le_trans (ih h) (Nat.le_max_right _ _)

theorem Value.depth_toJson (v : Value) : v.toJson.depth = 0 := by
  cases v <;> rfl

/-- A null body becomes an object. -/
theorem DenotesExpression.depth_le {json : Json} {e : Expression} (h : DenotesExpression json e) :
    e.toJson.depth ≤ json.depth + 1 := by
  cases h with
  | record empty => rcases empty with rfl | rfl <;> decide
  | var _ => simp [Expression.toJson, depth, depthOfMembers]
  | lastVarValue _ => simp [Expression.toJson, depth, depthOfMembers]
  | field => simp [Expression.toJson, depth, depthOfMembers]
  | constant => simp [Expression.toJson, depth, depthOfMembers, Value.depth_toJson]

/-- The object around what is matched counts here for the object with the key. -/
theorem DenotesMatch.depth_le {json : Json} {c : Condition} (h : DenotesMatch json c) :
    c.toJson.depth ≤ json.depth + 2 := by
  cases h with
  | intro _ hasExpression denotes _ =>
      have hmember := depth_le_of_member? hasExpression
      have hexpression := denotes.depth_le
      simp only [Condition.toJson, depth, depthOfMembers]
      omega

/-- An inline condition gets an object of its own. -/
theorem DenotesCondition.depth_le {members : List (String × Json)} {c : Condition}
    (h : DenotesCondition members c) : c.toJson.depth ≤ depthOfMembers members + 2 := by
  cases h with
  | wrapped hasCondition _ denotes =>
      have hmember := depth_le_of_member? hasCondition
      have hmatch := denotes.depth_le
      simp only [depth, depthOfMembers] at hmember
      omega
  | inline _ hasMatch denotes =>
      have hmember := depth_le_of_member? hasMatch
      have hmatch := denotes.depth_le
      omega

/-- The body of a `set` that says no expression is that of an empty text. -/
theorem DenotesSource.depth_le {found : Option Json} {e : Expression} (h : DenotesSource found e)
    {key : String} {members : List (String × Json)} (hfound : member? key members = found) :
    e.toJson.depth ≤ depthOfMembers members + 1 := by
  cases h with
  | absent => exact Nat.le_add_left 1 _
  | present denotes =>
      have hmember := depth_le_of_member? hfound
      have hexpression := denotes.depth_le
      omega

mutual

theorem DenotesOperation.depth_le {json : Json} {op : Operation} :
    DenotesOperation json op → op.toJson.depth ≤ json.depth + 2
  | .branch _ hasCondition hasThen hasElse => by
      have hcondition := hasCondition.depth_le
      have hthen := hasThen.depth_le rfl
      have helse := hasElse.depth_le rfl
      simp only [Operation.toJson, depth, depthOfMembers]
      omega
  | .set _ _ hasSource => by
      have hexpression := hasSource.depth_le rfl
      simp only [Operation.toJson, depth, depthOfMembers]
      omega
  | .colorBy denotes => by
      have hexpression := denotes.depth_le
      simp only [Operation.toJson, depth, depthOfMembers]
      omega
  | .skipRecord _ => by simp [Operation.toJson, depth, depthOfMembers]

/-- The list of a branch has a level of its own in both forms. -/
theorem DenotesBranch.depth_le {found : Option Json} {ops : List Operation} {key : String}
    {members : List (String × Json)} :
    DenotesBranch found ops → member? key members = found →
      depthOfItems (Operation.listToJson ops) ≤ depthOfMembers members + 1
  | .absent, _ => by
      rw [Operation.listToJson, depthOfItems]
      exact Nat.zero_le _
  | .present denotes, hfound => by
      have hmember := depth_le_of_member? hfound
      have hlist := denotes.depth_le
      rw [depth] at hmember
      omega

theorem DenotesOperations.depth_le {items : List Json} {ops : List Operation} :
    DenotesOperations items ops →
      depthOfItems (Operation.listToJson ops) ≤ depthOfItems items + 2
  | .nil => by
      rw [Operation.listToJson, depthOfItems]
      exact Nat.zero_le _
  | .cons head tail => by
      have hhead := head.depth_le
      have htail := tail.depth_le
      simp only [Operation.listToJson, depthOfItems]
      omega

end

/-- The full form of a query nests at most two levels deeper than the form that it
    was read from. -/
theorem DenotesQuery.depth_le {json : Json} {q : Query} (h : DenotesQuery json q) :
    q.toJson.depth ≤ json.depth + 2 := by
  cases h with
  | intro _ hasOperations denotes =>
      have hmember := depth_le_of_member? hasOperations
      have hlist := denotes.depth_le
      rw [depth] at hmember
      simp only [Query.toJson, depth, depthOfMembers]
      omega

end LogQuery
