import LogQuery.Value

/-!
# Scopes

The variables of a run live in two scopes. A pass binds variables in its own
transient scope, which starts empty. The persistent scope holds what the
passes before it bound; when a pass ends, its bindings are committed to it and
a name that the pass did not bind keeps its older value.

A name bound to nothing is bound: it hides an older value when it is
committed.

## Main definitions

* `Scope`: Variables and their values, in order of first binding.
* `Scope.commit`: The persistent scope after a pass.
* `Scope.read`: The value of a variable, absent if it is not bound.
-/

namespace LogQuery

/-- Variables and their values. -/
abbrev Scope := Bindings Value

namespace Scope

/-- The value of a variable; one that is not bound is absent. -/
def read (s : Scope) (name : String) : Value := (Bindings.get? s name).getD .absent

/-- Folds the bindings of a finished pass into the persistent scope. -/
def commit (persistent transient : Scope) : Scope := Bindings.override persistent transient

end Scope

end LogQuery
