import LogQuery.Proofs.Query.Context

/-!
# Restructuring Queries

What may be rewritten in a query without a change of meaning. What stands behind
an `if` may be moved to the end of both of its branches: the branches write the
same variables and the same color as the list around them, and a record that is
dropped in a branch is dropped for what stands behind the `if` too. What stands
behind a `skipRecord` may be left out. Both may be done anywhere in a query.

The laws are about operations, and the executor only knows steps. So each of them
is first a law of steps (`runAlike_branch_append`, `runAlike_append_skip`), in
which compilation has no part, and then a replacement of operations, in which
execution has none any more: there it only has to be said to which steps the
parts compile.

## Theorems

* `runAlike_branch_append`, `runAlike_append_skip`: The laws for steps.
* `replaceable_branch_append`, `replaceable_branch_append_rev`,
  `replaceable_append_skip`: The laws for operations.
* `restructuring_keeps_passes`: The laws in every context, and what it is to
  execute two lists of operations in a row.
-/

namespace LogQuery

/-! ### Laws of steps -/

namespace Step

/-- What stands behind an `if` may stand at the end of both branches. -/
theorem runAlike_branch_append (e : Expression) (pattern : Pattern) (xs ys rest : List Step) :
    RunAlike (branch e pattern xs ys :: rest)
      [branch e pattern (xs ++ rest) (ys ++ rest)] := by
  intro around p h
  rw [runList_cons, runList_singleton, run, run]
  cases pattern.captures (e.evalText around p.transient) with
  | some captures =>
      -- Binding the groups does not end the pass.
      have hbound : (p.bindAll captures).outcome = .done := h
      exact (runList_append xs rest hbound).symm
  | none => exact (runList_append ys rest h).symm

/-- Nothing behind a step that drops the record is ever reached. -/
theorem runAlike_append_skip (xs rest : List Step) :
    RunAlike (xs ++ skip :: rest) (xs ++ [skip]) := by
  refine runAlike_append (runAlike_refl xs) ?_
  intro around p _
  rw [runList_singleton, runList_cons]
  exact Pass.andThen_of_skipped (by rw [run]) _

end Step

/-! ### Laws of operations -/

namespace Operation

/-- What stands behind an `if` may be moved into both branches. -/
theorem replaceable_branch_append (c : Condition) (xs ys rest : List Operation) :
    Replaceable (branch c xs ys :: rest) [branch c (xs ++ rest) (ys ++ rest)] := by
  intro steps hsteps
  simp only [steps?_cons, step?_branch, Option.bind_eq_some_iff,
    Option.map_eq_some_iff] at hsteps
  rcases hsteps with ⟨_, ⟨pattern, hpattern, a, ha, b, hb, rfl⟩, tail, htail, rfl⟩
  refine ⟨[.branch c.expression pattern (a ++ tail) (b ++ tail)], ?_, ?_⟩
  · simp only [steps?_singleton, step?_branch, steps?_append, hpattern, ha, hb, htail,
      Option.bind_some, Option.map_some]
  · exact Step.runAlike_symm (Step.runAlike_branch_append c.expression pattern a b tail)

/-- What both branches of an `if` end with may be moved behind it. -/
theorem replaceable_branch_append_rev (c : Condition) (xs ys rest : List Operation) :
    Replaceable [branch c (xs ++ rest) (ys ++ rest)] (branch c xs ys :: rest) := by
  intro steps hsteps
  simp only [steps?_singleton, step?_branch, steps?_append, Option.bind_eq_some_iff,
    Option.map_eq_some_iff] at hsteps
  rcases hsteps with ⟨_, ⟨pattern, hpattern, _, ⟨a, ha, tail, htail, rfl⟩, _,
    ⟨b, hb, tail', htail', rfl⟩, rfl⟩, rfl⟩
  -- The same operations at the end of both branches compile to the same steps.
  obtain rfl : tail = tail' := Option.some.inj (htail.symm.trans htail')
  refine ⟨.branch c.expression pattern a b :: tail, ?_, ?_⟩
  · simp only [steps?_cons, step?_branch, hpattern, ha, hb, htail, Option.bind_some,
      Option.map_some]
  · exact Step.runAlike_branch_append c.expression pattern a b tail

/-- What stands behind a `skipRecord` may be left out. -/
theorem replaceable_append_skip (xs rest : List Operation) :
    Replaceable (xs ++ skipRecord :: rest) (xs ++ [skipRecord]) := by
  intro steps hsteps
  simp only [steps?_append, steps?_cons, step?_skipRecord, Option.bind_some,
    Option.bind_eq_some_iff, Option.map_eq_some_iff] at hsteps
  rcases hsteps with ⟨a, ha, _, ⟨tail, _, rfl⟩, rfl⟩
  refine ⟨a ++ [.skip], ?_, ?_⟩
  · simp only [steps?_append, steps?_singleton, step?_skipRecord, ha, Option.bind_some,
      Option.map_some]
  · exact Step.runAlike_symm (Step.runAlike_append_skip a tail)

end Operation

/-- Restructuring a query keeps what it does. In every context, what stands behind
    an `if` may be moved to the end of both branches and back, and what stands
    behind a `skipRecord` may be left out: the query still compiles, and every
    record has the same pass, with the same outcome, the same color and the same
    bindings in the same order. Two lists of operations in a row are executed one
    after the other, the second exactly if the first has not dropped the record. -/
theorem restructuring_keeps_passes (context : Context) (c : Condition)
    (xs ys rest : List Operation) :
    (Query.PassesLike ⟨context.fill (.branch c xs ys :: rest)⟩
        ⟨context.fill [.branch c (xs ++ rest) (ys ++ rest)]⟩ ∧
      Query.PassesLike ⟨context.fill [.branch c (xs ++ rest) (ys ++ rest)]⟩
        ⟨context.fill (.branch c xs ys :: rest)⟩) ∧
    Query.PassesLike ⟨context.fill (xs ++ .skipRecord :: ys)⟩
      ⟨context.fill (xs ++ [.skipRecord])⟩ ∧
    ∀ (place : Path) (i : Nat) (steps : List Step),
      Operation.compileList place i (xs ++ ys) = .ok steps →
      ∃ first second, Operation.compileList place i xs = .ok first ∧
        Operation.compileList place (i + xs.length) ys = .ok second ∧
        ∀ (around : Surroundings) (p : Pass), p.outcome = .done →
          ((Step.runList around first p).outcome = .skipped →
            Step.runList around steps p = Step.runList around first p) ∧
          ((Step.runList around first p).outcome = .done →
            Step.runList around steps p =
              Step.runList around second (Step.runList around first p)) := by
  refine ⟨⟨passesLike_of_replaceable (Operation.replaceable_branch_append c xs ys rest) context,
      passesLike_of_replaceable (Operation.replaceable_branch_append_rev c xs ys rest) context⟩,
    passesLike_of_replaceable (Operation.replaceable_append_skip xs ys) context,
    fun place i steps hsteps => ?_⟩
  rcases Operation.compileList_append_eq_ok hsteps with ⟨first, second, hfirst, hsecond, rfl⟩
  refine ⟨first, second, hfirst, hsecond, fun around p hp => ?_⟩
  rw [Step.runList_append first second hp]
  exact ⟨fun hskipped => Pass.andThen_of_skipped hskipped _,
    fun hdone => Pass.andThen_of_done hdone _⟩

/-- A context in which every record is red at first, and only one that is not
    empty gets to the gap. -/
def redUnlessEmpty : Context :=
  .among [.colorBy (.constant (.string "red"))] (.inElse ⟨.record, "^$"⟩ [.skipRecord] .gap)
    [.set "end" (.var "word")]

/-- A record is searched for a word. -/
def hasWord : Condition := ⟨.record, "(?<word>[a-z]+)"⟩

/-- A record is colored by its word and dropped if it has none, and then, or in both
    of these branches, the word is kept. -/
theorem restructuring_keeps_passes_redUnlessEmpty :
    (∃ compiled compiled' : CompiledQuery,
      Query.compile ⟨redUnlessEmpty.fill (.branch hasWord [.colorBy (.var "word")]
        [.skipRecord] :: [.set "seen" (.var "word")])⟩ = .ok compiled ∧
      Query.compile ⟨redUnlessEmpty.fill [.branch hasWord
        ([.colorBy (.var "word")] ++ [.set "seen" (.var "word")])
        ([.skipRecord] ++ [.set "seen" (.var "word")])]⟩ = .ok compiled' ∧
      compiled'.pass (.ofText "a1") .empty = compiled.pass (.ofText "a1") .empty) ∧
    (∃ compiled compiled' : CompiledQuery,
      Query.compile ⟨redUnlessEmpty.fill ([.colorBy (.var "word")] ++
        .skipRecord :: [.skipRecord])⟩ = .ok compiled ∧
      Query.compile ⟨redUnlessEmpty.fill ([.colorBy (.var "word")] ++ [.skipRecord])⟩ =
        .ok compiled' ∧
      compiled'.pass (.ofText "a1") .empty = compiled.pass (.ofText "a1") .empty) ∧
    ∃ first second : List Step,
      Operation.compileList [] 0 [.colorBy (.var "word")] = .ok first ∧
      Operation.compileList [] 1 [.skipRecord] = .ok second ∧
      Step.runList ⟨.ofText "a1", .empty⟩ [.colorBy (.var "word"), .skip] .start =
        Step.runList ⟨.ofText "a1", .empty⟩ second
          (Step.runList ⟨.ofText "a1", .empty⟩ first .start) := by
  rcases restructuring_keeps_passes redUnlessEmpty hasWord [.colorBy (.var "word")]
    [.skipRecord] [.set "seen" (.var "word")] with ⟨⟨hbranch, _⟩, hskip, hrow⟩
  refine ⟨?_, ?_, ?_⟩
  · have hok : (Query.compile ⟨redUnlessEmpty.fill (.branch hasWord [.colorBy (.var "word")]
        [.skipRecord] :: [.set "seen" (.var "word")])⟩).toOption.isSome := by
      decide +kernel
    rcases Option.isSome_iff_exists.mp hok with ⟨compiled, h⟩
    rcases hbranch compiled (toOption_eq_some_iff.mp h) with ⟨compiled', h', hpass⟩
    exact ⟨compiled, compiled', toOption_eq_some_iff.mp h, h', hpass _ _⟩
  · have hok : (Query.compile ⟨redUnlessEmpty.fill ([.colorBy (.var "word")] ++
        .skipRecord :: [.skipRecord])⟩).toOption.isSome := by
      decide +kernel
    rcases Option.isSome_iff_exists.mp hok with ⟨compiled, h⟩
    rcases hskip compiled (toOption_eq_some_iff.mp h) with ⟨compiled', h', hpass⟩
    exact ⟨compiled, compiled', toOption_eq_some_iff.mp h, h', hpass _ _⟩
  · rcases hrow [] 0 [.colorBy (.var "word"), .skip] rfl with
      ⟨first, second, hfirst, hsecond, hrun⟩
    have hdone : (Step.runList ⟨.ofText "a1", .empty⟩ first .start).outcome = .done := by
      cases hfirst
      rfl
    exact ⟨first, second, hfirst, hsecond, (hrun ⟨.ofText "a1", .empty⟩ .start rfl).2 hdone⟩

end LogQuery
