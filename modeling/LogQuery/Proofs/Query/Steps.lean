import LogQuery.Proofs.Query.Compiled

/-!
# Steps Without Places

Where an operation stands in a query decides what an error about it says, and
nothing else. If it compiles, it compiles to the same steps at every place. So an
operation can be moved to another index or another branch, and what has been
compiled of it can be kept.

`Operation.steps?` is the compiler with the places left out and with every error
made the same. It goes through a query by its structure: the steps of two lists in
a row are the steps of the one and then those of the other, and an `if` compiles
as its parts do. Whoever changes a query in the middle can say with these equations
what that does to its steps.

## Main definitions

* `Operation.step?`, `Operation.steps?`: What operations compile to, if they do.
* `Condition.pattern?`: The pattern of a condition, if it compiles.

## Theorems

* `compile_toOption`, `compileList_toOption`: Compilation at any place.
* `steps?_cons`, `steps?_append`, `step?_branch`: Compilation by structure.
* `compileList_append_eq_ok`: Operations in a row at their own places.
* `Query.compile_eq_ok_iff`: The same for whole queries.
-/

namespace LogQuery

/-! ### No place matters -/

theorem Expression.check_toOption (place place' : Path) (e : Expression) :
    (e.check place).toOption = (e.check place').toOption := by
  unfold check
  by_cases h : e.name? = some ""
  · rw [if_pos h, if_pos h]
    rfl
  · rw [if_neg h, if_neg h]

theorem Condition.compile_toOption (place place' : Path) (c : Condition) :
    (c.compile place).toOption = (c.compile place').toOption := by
  unfold compile
  rw [toOption_bind, toOption_bind,
    Expression.check_toOption (place.child "expression") (place'.child "expression")]
  cases Pattern.compile? c.pattern <;> rfl

namespace Operation

mutual

/-- An operation compiles to the same step at any two places. -/
theorem compile_toOption (place place' : Path) :
    ∀ op : Operation, (op.compile place).toOption = (op.compile place').toOption
  | branch c thenOps elseOps => by
      unfold compile
      simp only [toOption_bind]
      rw [Condition.compile_toOption _ (((place'.child "if").child "condition").child "match"),
        compileList_toOption _ ((place'.child "if").child "then") 0 0 thenOps,
        compileList_toOption _ ((place'.child "if").child "else") 0 0 elseOps]
  | set target e => by
      unfold compile
      by_cases htarget : target = ""
      · simp only [if_pos htarget]
        rfl
      · simp only [if_neg htarget, toOption_bind]
        rw [Expression.check_toOption _ ((place'.child "set").child "expression")]
  | colorBy e => by
      unfold compile
      simp only [toOption_bind]
      rw [Expression.check_toOption _ (place'.child "colorBy")]
  | skipRecord => rfl

/-- Operations compile to the same steps at any two places, from any two indices. -/
theorem compileList_toOption (place place' : Path) (i j : Nat) :
    ∀ ops : List Operation,
      (compileList place i ops).toOption = (compileList place' j ops).toOption
  | [] => rfl
  | op :: rest => by
      unfold compileList
      simp only [toOption_bind]
      rw [compile_toOption _ (place'.element j) op,
        compileList_toOption place place' (i + 1) (j + 1) rest]

end

end Operation

/-! ### Steps by structure -/

/-- The pattern of a condition, if the condition compiles. -/
def Condition.pattern? (c : Condition) : Option Pattern := (c.compile []).toOption

namespace Operation

/-- What an operation compiles to, if it does. -/
def step? (op : Operation) : Option Step := (op.compile []).toOption

/-- What operations compile to, if all of them do. -/
def steps? (ops : List Operation) : Option (List Step) := (compileList [] 0 ops).toOption

theorem steps?_eq_some_iff (place : Path) (i : Nat) {ops : List Operation} {steps : List Step} :
    steps? ops = some steps ↔ compileList place i ops = .ok steps := by
  rw [steps?, compileList_toOption [] place 0 i, toOption_eq_some_iff]

@[simp]
theorem steps?_nil : steps? [] = some [] := rfl

theorem steps?_cons (op : Operation) (rest : List Operation) :
    steps? (op :: rest) = op.step?.bind fun step => (steps? rest).map (step :: ·) := by
  rw [steps?, compileList]
  simp only [toOption_bind]
  rw [compile_toOption _ [] op, compileList_toOption _ [] _ 0 rest]
  simp only [Option.map_eq_bind]
  rfl

/-- Lists in a row compile one after the other. -/
theorem steps?_append (xs ys : List Operation) :
    steps? (xs ++ ys) = (steps? xs).bind fun a => (steps? ys).map (a ++ ·) := by
  induction xs with
  | nil => simp
  | cons op rest ih =>
      rw [List.cons_append, steps?_cons, ih, steps?_cons]
      cases op.step? <;> cases steps? rest <;> cases steps? ys <;> rfl

/-- Where operations in a row compile, each of the two lists does at its own place,
    and the steps are those of the one and then those of the other. -/
theorem compileList_append_eq_ok {place : Path} {i : Nat} {xs ys : List Operation}
    {steps : List Step} (h : compileList place i (xs ++ ys) = .ok steps) :
    ∃ a b, compileList place i xs = .ok a ∧ compileList place (i + xs.length) ys = .ok b ∧
      steps = a ++ b := by
  rw [← steps?_eq_some_iff, steps?_append, Option.bind_eq_some_iff] at h
  rcases h with ⟨a, ha, h⟩
  rcases Option.map_eq_some_iff.mp h with ⟨b, hb, rfl⟩
  exact ⟨a, b, (steps?_eq_some_iff place i).mp ha,
    (steps?_eq_some_iff place (i + xs.length)).mp hb, rfl⟩

theorem steps?_singleton (op : Operation) : steps? [op] = op.step?.map fun step => [step] := by
  rw [steps?_cons, steps?_nil]
  cases op.step? <;> rfl

theorem step?_branch (c : Condition) (thenOps elseOps : List Operation) :
    (branch c thenOps elseOps).step? =
      c.pattern?.bind fun pattern => (steps? thenOps).bind fun thenSteps =>
        (steps? elseOps).map fun elseSteps =>
          .branch c.expression pattern thenSteps elseSteps := by
  unfold step? compile
  simp only [toOption_bind]
  rw [Condition.compile_toOption _ [] c, compileList_toOption _ [] 0 0 thenOps,
    compileList_toOption _ [] 0 0 elseOps]
  simp only [Option.map_eq_bind]
  rfl

@[simp]
theorem step?_skipRecord : skipRecord.step? = some .skip := rfl

theorem step?_set_eq_some {target : String} {e : Expression} {step : Step}
    (h : (set target e).step? = some step) : step = .set target e :=
  compile_set_eq_ok (toOption_eq_some_iff.mp h)

theorem step?_colorBy_eq_some {e : Expression} {step : Step}
    (h : (colorBy e).step? = some step) : step = .colorBy e :=
  compile_colorBy_eq_ok (toOption_eq_some_iff.mp h)

end Operation

/-- A query compiles to the steps of its operations. -/
theorem Query.compile_eq_ok_iff {q : Query} {compiled : CompiledQuery} :
    q.compile = .ok compiled ↔ Operation.steps? q.operations = some compiled.steps := by
  rw [Operation.steps?_eq_some_iff [.key "operations"] 0]
  constructor
  · exact compile_eq_ok
  · intro h
    unfold compile
    rw [h]
    rfl

end LogQuery
