import LogQuery.Proofs.Bindings

/-!
# Commits Compose

A run commits the scope of one pass after the other. What the persistent scope
holds in the end does not depend on where one pass stops and the next begins: the
same comes of a single pass that binds everything in turn (`foldl_commit`).

That holds of the order of names too, which is not obvious. A name that the
second of two scopes binds first may have its place from the store or from the
first scope, and a name that both bind is written over in place. But a commit is
a replay, and replays can be bracketed in any way, so nothing has to be said
about single places here.

## Theorems

* `foldl_commit`: Any number of commits are one.
* `commits_compose`: What two commits leave.
-/

namespace LogQuery

namespace Scope

/-- Committing scopes one after the other is committing the one scope in which all
    their bindings have been made in turn. -/
theorem foldl_commit (store : Scope) (scopes : List Scope) :
    scopes.foldl commit store = store.commit (.ofList (scopes.flatMap Bindings.entries)) := by
  induction scopes generalizing store with
  | nil => rfl
  | cons scope rest ih =>
      have hscope : Bindings.ofList (scope.entries ++ rest.flatMap Bindings.entries) =
          Bindings.override scope (.ofList (rest.flatMap Bindings.entries)) := by
        rw [Bindings.ofList_append, Bindings.ofList_entries, Bindings.override_ofList]
      rw [List.foldl_cons, ih, List.flatMap_cons, hscope]
      exact Bindings.override_override store scope _

end Scope

/-- Two scopes, each made by any bindings in turn, are committed to a store. Then
    every name has its value from the second, or else from the first, or else its
    former one, where a binding to nothing is a binding. The names that were stored
    are where they were, and the new ones follow in the order in which they were
    first bound. The same comes of one commit of the scope in which both have been
    replayed, and nothing changes if the second is committed again. -/
theorem commits_compose (store : Scope) (first second : List (String × Value)) :
    let a : Scope := .ofList first
    let b : Scope := .ofList second
    let twice := (store.commit a).commit b
    (∀ name, twice.get? name = (b.get? name).or ((a.get? name).or (store.get? name))) ∧
      twice.keys = store.keys ++
        (((first ++ second).map Prod.fst).filter fun name => name ∉ store.keys).eraseDups ∧
      twice = store.commit (.ofList (a.entries ++ b.entries)) ∧
      twice.commit b = twice := by
  intro a b twice
  have hone : twice = store.commit (.ofList (a.entries ++ b.entries)) := by
    have hfold := store.foldl_commit [a, b]
    rwa [List.flatMap_cons, List.flatMap_singleton] at hfold
  have hreplay : twice = Bindings.setAll store (first ++ second) := by
    rw [Bindings.setAll_append, ← Bindings.override_ofList, ← Bindings.override_ofList]
    rfl
  refine ⟨fun name => ?_, ?_, hone, ?_⟩
  · calc twice.get? name = (b.get? name).or ((store.commit a).get? name) :=
          Bindings.get?_override _ b name
      _ = (b.get? name).or ((a.get? name).or (store.get? name)) := by
          rw [Scope.commit, Bindings.get?_override]
  · rw [hreplay]
    exact Bindings.keys_setAll_eq_append store (first ++ second)
  · calc twice.commit b = (store.commit a).commit (Bindings.override b b) :=
          Bindings.override_override _ b b
      _ = twice := by rw [Bindings.override_self]

/-- A binding to nothing is a value like any other: it stays in the place of the name. -/
example :
    let store : Scope := .ofList [("x", .boolean true), ("y", .string "1")]
    let a : Scope := .ofList [("z", .string "2"), ("x", .string "3")]
    let b : Scope := .ofList [("x", .absent), ("w", .absent)]
    ((store.commit a).commit b).entries =
      [("x", .absent), ("y", .string "1"), ("z", .string "2"), ("w", .absent)] := by
  decide

end LogQuery
