import LogQuery.Proofs.Outcome
import LogQuery.Query.Compiled

/-!
# What a Compiled Query Is Made Of

Compilation either fails or gives steps of the same shape as the operations.
This module reads that shape off a compilation that succeeded, one constructor
at a time, so that statements about a compiled query can be proved along the
operations it comes from and no proof has to unfold the compiler.

The places that errors point to play no part in what is compiled. They stay
universally quantified here, because the branches of an `if` and the rest of a
list are compiled at places of their own.

## Main definitions

* `Condition.captures?`: What a condition binds when it is put to a text.

## Theorems

* `captures?_of_compile`: A compiled condition matches as its pattern does.
* `compile_branch_eq_ok`, `compile_set_eq_ok`, `compile_colorBy_eq_ok`: The
  parts of a compiled operation.
* `compileList_cons_eq_ok`: The parts of a compiled list.
-/

namespace LogQuery

/-- The groups that a condition binds when its expression has the given text.
    There are none to be had when the pattern does not match, and none either
    when its source is no pattern at all, but then the query has not been
    compiled. -/
def Condition.captures? (c : Condition) (text : String) : Option (List (String × String)) :=
  (Pattern.compile? c.pattern).bind fun pattern => pattern.captures text

theorem Condition.captures?_of_compile {path : Path} {c : Condition} {pattern : Pattern}
    (h : c.compile path = .ok pattern) (text : String) :
    c.captures? text = pattern.captures text := by
  unfold Condition.compile at h
  rcases bind_eq_ok.mp h with ⟨_, _, hmatch⟩
  unfold Condition.captures?
  cases hp : Pattern.compile? c.pattern with
  | none =>
      rw [hp] at hmatch
      cases hmatch
  | some accepted =>
      rw [hp] at hmatch
      cases hmatch
      rfl

namespace Operation

theorem compile_branch_eq_ok {path : Path} {condition : Condition}
    {thenOps elseOps : List Operation} {step : Step}
    (h : (branch condition thenOps elseOps).compile path = .ok step) :
    ∃ place thenPlace elsePlace pattern thenSteps elseSteps,
      condition.compile place = .ok pattern ∧
      compileList thenPlace 0 thenOps = .ok thenSteps ∧
      compileList elsePlace 0 elseOps = .ok elseSteps ∧
      step = .branch condition.expression pattern thenSteps elseSteps := by
  unfold compile at h
  rcases bind_eq_ok.mp h with ⟨pattern, hpattern, h⟩
  rcases bind_eq_ok.mp h with ⟨thenSteps, hthen, h⟩
  rcases bind_eq_ok.mp h with ⟨elseSteps, helse, h⟩
  cases h
  exact ⟨_, _, _, pattern, thenSteps, elseSteps, hpattern, hthen, helse, rfl⟩

theorem compile_set_eq_ok {path : Path} {target : String} {expression : Expression} {step : Step}
    (h : (set target expression).compile path = .ok step) : step = .set target expression := by
  unfold compile at h
  by_cases htarget : target = ""
  · rw [if_pos htarget] at h
    cases h
  · rw [if_neg htarget] at h
    rcases bind_eq_ok.mp h with ⟨_, _, h⟩
    cases h
    rfl

theorem compile_colorBy_eq_ok {path : Path} {expression : Expression} {step : Step}
    (h : (colorBy expression).compile path = .ok step) : step = .colorBy expression := by
  unfold compile at h
  rcases bind_eq_ok.mp h with ⟨_, _, h⟩
  cases h
  rfl

theorem compileList_cons_eq_ok {path : Path} {i : Nat} {operation : Operation}
    {rest : List Operation} {steps : List Step}
    (h : compileList path i (operation :: rest) = .ok steps) :
    ∃ step restSteps, operation.compile (path.element i) = .ok step ∧
      compileList path (i + 1) rest = .ok restSteps ∧ steps = step :: restSteps := by
  unfold compileList at h
  rcases bind_eq_ok.mp h with ⟨step, hstep, h⟩
  rcases bind_eq_ok.mp h with ⟨restSteps, hrest, h⟩
  cases h
  exact ⟨step, restSteps, hstep, hrest, rfl⟩

end Operation

/-- The steps of a compiled query are its compiled operations. -/
theorem Query.compile_eq_ok {q : Query} {compiled : CompiledQuery}
    (h : q.compile = .ok compiled) :
    Operation.compileList [.key "operations"] 0 q.operations = .ok compiled.steps := by
  unfold Query.compile at h
  cases hsteps : Operation.compileList [.key "operations"] 0 q.operations with
  | error e =>
      rw [hsteps] at h
      cases h
  | ok steps =>
      rw [hsteps] at h
      cases h
      rfl

end LogQuery
