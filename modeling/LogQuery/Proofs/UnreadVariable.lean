import LogQuery.Proofs.Query.Context
import LogQuery.Proofs.Query.Validation
import LogQuery.Proofs.Simulation

/-!
# Variables That Nothing Reads

A variable acts on a run through the expressions that read it. If a query has no
such expression, then the operations that set the variable can be taken out of it,
wherever they stand, and nothing changes but the value of that variable.

The two queries do not bind the same names, and a pattern may still bind the name
in both of them, so neither of the two scopes is the other one without the name.
What holds at all times is that the scopes are equal once the entry of the name is
left out (`Scope.EqualBut`). It is kept by every change that is made to both of
them, and by a `set` of the name that is made to the one alone. It is enough to
evaluate an expression that does not read the name, so the two passes take the same
branches with the same groups and end in the same way.

The query without the operations is a list of other lengths at every depth. So the
steps of the two are not compared one by one: an operation is compared with the
operations that are left of it, of which there is one or none.

## Main definitions

* `Operation.Reads`, `Query.Reads`: A variable is read by an operation, or at any
  depth of a query.
* `Query.withoutSets`: A query without the operations that set a variable.
* `Scope.EqualBut`: Scopes that are equal up to the entry of one name.
* `Step.AlikeBut`: Steps that cannot be told apart up to one name.

## Theorems

* `not_occurs_withoutSets`: Nothing is left that sets the variable.
* `eval_equalBut`: An expression sees no variable but the one it reads.
* `alikeBut_append`, `alikeBut_branch`, `alikeBut_set`, `alikeBut_set_dropped`,
  `alikeBut_colorBy`, `alikeBut_skip`: Passes up to one name, step by step.
* `withoutSets_alikeBut`, `withoutSetsList_alikeBut`: What is left of operations
  compiles, and cannot be told apart from them.
* `unread_variable_unseen`: The two runs are equal up to the name.
-/

namespace LogQuery

/-! ### Readers of a variable -/

/-- The variable that an expression reads, as it stands in the pass or as the passes
    before left it. -/
def Expression.variable? : Expression → Option String
  | var name | lastVarValue name => some name
  | record | constant _ | field _ => none

namespace Operation

/-- The expression that an operation evaluates. -/
def expression? : Operation → Option Expression
  | branch condition _ _ => some condition.expression
  | set _ e | colorBy e => some e
  | skipRecord => none

/-- An operation reads a variable. This says nothing of the operations in its
    branches. -/
def Reads (op : Operation) (name : String) : Prop :=
  op.expression?.bind Expression.variable? = some name

instance (op : Operation) (name : String) : Decidable (op.Reads name) :=
  inferInstanceAs (Decidable (_ = _))

end Operation

/-- Some operation of a query, at any depth, reads a variable. -/
def Query.Reads (q : Query) (name : String) : Prop :=
  ∃ op : Operation, op.Occurs q.operations ∧ op.Reads name

/-! ### Without the operations that set a variable -/

namespace Operation

mutual

/-- What is left of an operation when those that set a variable are taken out. -/
def withoutSets (name : String) : Operation → List Operation
  | branch condition thenOps elseOps =>
    [branch condition (withoutSetsList name thenOps) (withoutSetsList name elseOps)]
  | set target e => if target = name then [] else [set target e]
  | colorBy e => [colorBy e]
  | skipRecord => [skipRecord]

/-- What is left of operations when those that set a variable are taken out. -/
def withoutSetsList (name : String) : List Operation → List Operation
  | [] => []
  | op :: rest => op.withoutSets name ++ withoutSetsList name rest

end

theorem forall_occurs_append {P : Operation → Prop} {xs ys : List Operation}
    (hxs : ∀ inner, Occurs inner xs → P inner) (hys : ∀ inner, Occurs inner ys → P inner) :
    ∀ inner, Occurs inner (xs ++ ys) → P inner := by
  induction xs with
  | nil => exact hys
  | cons op rest ih =>
      rw [forall_occurs_cons_iff] at hxs
      rw [List.cons_append, forall_occurs_cons_iff]
      exact ⟨hxs.1, ih hxs.2⟩

mutual

/-- Nothing that is left of an operation sets the variable. -/
theorem not_occurs_withoutSets (name : String) :
    ∀ op inner : Operation, inner.Occurs (op.withoutSets name) → ∀ e, inner ≠ set name e
  | branch condition thenOps elseOps => by
      rw [withoutSets, forall_occurs_branch_iff]
      refine ⟨?_, not_occurs_withoutSetsList name thenOps,
        not_occurs_withoutSetsList name elseOps⟩
      intro e hset
      cases hset
  | set target value => by
      rw [withoutSets]
      by_cases h : target = name
      · rw [if_pos h]
        exact nofun
      · rw [if_neg h, forall_occurs_leaf_iff (set target value) fun _ _ _ hb => by cases hb]
        intro e hset
        cases hset
        exact h rfl
  | colorBy value => by
      rw [withoutSets, forall_occurs_leaf_iff (colorBy value) fun _ _ _ hb => by cases hb]
      intro e hset
      cases hset
  | skipRecord => by
      rw [withoutSets, forall_occurs_leaf_iff skipRecord fun _ _ _ hb => by cases hb]
      intro e hset
      cases hset

/-- Nothing that is left of operations sets the variable. -/
theorem not_occurs_withoutSetsList (name : String) :
    ∀ (ops : List Operation) (inner : Operation), inner.Occurs (withoutSetsList name ops) →
      ∀ e, inner ≠ set name e
  | [] => by
      rw [withoutSetsList]
      exact nofun
  | op :: rest => by
      rw [withoutSetsList]
      exact forall_occurs_append (not_occurs_withoutSets name op)
        (not_occurs_withoutSetsList name rest)

end

end Operation

/-- A query without the operations, at any depth, that set a variable. -/
def Query.withoutSets (q : Query) (name : String) : Query :=
  ⟨Operation.withoutSetsList name q.operations⟩

/-! ### Scopes up to one name -/

namespace Scope

variable {name : String} {a b : Scope}

/-- Two scopes have the same entries in the same order, once the entry of a name is
    left out. -/
def EqualBut (name : String) (a b : Scope) : Prop := Bindings.erase a name = Bindings.erase b name

theorem EqualBut.read_eq (h : EqualBut name a b) {other : String} (hne : other ≠ name) :
    a.read other = b.read other := by
  rw [read, read, ← Bindings.get?_erase_of_ne a hne, ← Bindings.get?_erase_of_ne b hne, h]

/-- Scopes that are equal up to a name remain so if the same name is bound to the same
    value in both of them. -/
theorem EqualBut.set (h : EqualBut name a b) (target : String) (value : Value) :
    EqualBut name (Bindings.set a target value) (Bindings.set b target value) := by
  unfold EqualBut
  by_cases htarget : target = name
  · rw [htarget, Bindings.erase_set_self, Bindings.erase_set_self, h]
  · rw [Bindings.erase_set_of_ne a htarget, Bindings.erase_set_of_ne b htarget, h]

theorem EqualBut.setAll (h : EqualBut name a b) (pairs : List (String × Value)) :
    EqualBut name (Bindings.setAll a pairs) (Bindings.setAll b pairs) := by
  unfold EqualBut
  rw [Bindings.erase_setAll, Bindings.erase_setAll, h]

/-- A binding of the name itself in one of the scopes is not seen. -/
theorem EqualBut.set_self (h : EqualBut name a b) (value : Value) :
    EqualBut name (Bindings.set a name value) b := by
  unfold EqualBut
  rw [Bindings.erase_set_self, h]

theorem EqualBut.commit (h : EqualBut name a b) {t t' : Scope} (ht : EqualBut name t t') :
    EqualBut name (a.commit t) (b.commit t') := by
  unfold EqualBut Scope.commit
  rw [Bindings.erase_override, Bindings.erase_override, h, ht]

end Scope

/-! ### Passes up to one name -/

section

variable {name : String}

/-- An expression that does not read a variable has the same value in scopes that are
    equal up to it. -/
theorem eval_equalBut {e : Expression} (h : e.variable? ≠ some name) (r : LogRecord)
    {a b t t' : Scope} (hpast : a.EqualBut name b) (hown : t.EqualBut name t') :
    e.eval ⟨r, a⟩ t = e.eval ⟨r, b⟩ t' := by
  cases e with
  | var other => exact hown.read_eq fun heq => h (congrArg some heq)
  | lastVarValue other => exact hpast.read_eq fun heq => h (congrArg some heq)
  | record | constant _ | field _ => rfl

theorem evalText_equalBut {e : Expression} (h : e.variable? ≠ some name) (r : LogRecord)
    {a b t t' : Scope} (hpast : a.EqualBut name b) (hown : t.EqualBut name t') :
    e.evalText ⟨r, a⟩ t = e.evalText ⟨r, b⟩ t' := by
  rw [Expression.evalText_eq, Expression.evalText_eq, eval_equalBut h r hpast hown]

/-- What comes next does the same to passes that are alike, if it does so to those
    that have not ended. -/
theorem Pass.Alike.andThen {own : Scope → Scope → Prop} {p p' : Pass} (h : p.Alike own p')
    {next next' : Pass → Pass}
    (hnext : p.outcome = .done → (next p).Alike own (next' p')) :
    (p.andThen next).Alike own (p'.andThen next') := by
  have houtcome := h.outcome
  cases hp : p.outcome with
  | done =>
      rw [andThen_of_done hp, andThen_of_done (houtcome ▸ hp)]
      exact hnext hp
  | skipped =>
      rw [andThen_of_skipped hp, andThen_of_skipped (houtcome ▸ hp)]
      exact h

namespace Step

/-- Two lists of steps take a record, with scopes that are equal up to a name, to
    passes that are equal up to this name. -/
def AlikeBut (name : String) (xs ys : List Step) : Prop :=
  ∀ (r : LogRecord) (a b : Scope) (p p' : Pass), a.EqualBut name b →
    p.Alike (Scope.EqualBut name) p' → p.outcome = .done →
    (runList ⟨r, a⟩ xs p).Alike (Scope.EqualBut name) (runList ⟨r, b⟩ ys p')

theorem alikeBut_nil : AlikeBut name [] [] := by
  intro r a b p p' _ hp _
  rw [runList_nil, runList_nil]
  exact hp

theorem alikeBut_append {xs xs' ys ys' : List Step} (hxs : AlikeBut name xs xs')
    (hys : AlikeBut name ys ys') : AlikeBut name (xs ++ ys) (xs' ++ ys') := by
  intro r a b p p' hpast hp hdone
  have hdone' : p'.outcome = .done := hp.outcome ▸ hdone
  rw [runList_append xs ys hdone, runList_append xs' ys' hdone']
  have hfirst := hxs r a b p p' hpast hp hdone
  exact hfirst.andThen fun h => hys r a b _ _ hpast hfirst h

/-- An `if` that does not read the variable takes the same branch in both passes and
    binds the same groups, the variable itself perhaps among them. -/
theorem alikeBut_branch {e : Expression} (h : e.variable? ≠ some name) (pattern : Pattern)
    {xs xs' ys ys' : List Step} (hxs : AlikeBut name xs xs') (hys : AlikeBut name ys ys') :
    AlikeBut name [branch e pattern xs ys] [branch e pattern xs' ys'] := by
  intro r a b p p' hpast hp hdone
  rw [runList_singleton, runList_singleton, run, run,
    evalText_equalBut h r hpast hp.transient]
  -- One and the same text is left to match, so there is one case for both passes.
  cases pattern.captures (e.evalText ⟨r, b⟩ p'.transient) with
  | some captures =>
      have hbound : (p.bindAll captures).Alike (Scope.EqualBut name) (p'.bindAll captures) :=
        ⟨hp.outcome, hp.color, hp.transient.setAll _⟩
      exact hxs r a b _ _ hpast hbound hdone
  | none => exact hys r a b p p' hpast hp hdone

theorem alikeBut_set {e : Expression} (h : e.variable? ≠ some name) (target : String) :
    AlikeBut name [set target e] [set target e] := by
  intro r a b p p' hpast hp _
  rw [runList_singleton, runList_singleton, run, run, eval_equalBut h r hpast hp.transient]
  exact ⟨hp.outcome, hp.color, hp.transient.set target _⟩

/-- A step that sets the variable may be left out. -/
theorem alikeBut_set_dropped (e : Expression) : AlikeBut name [set name e] [] := by
  intro r a b p p' _ hp _
  rw [runList_singleton, runList_nil, run]
  exact ⟨hp.outcome, hp.color, hp.transient.set_self _⟩

theorem alikeBut_colorBy {e : Expression} (h : e.variable? ≠ some name) :
    AlikeBut name [colorBy e] [colorBy e] := by
  intro r a b p p' hpast hp _
  rw [runList_singleton, runList_singleton, run, run, evalText_equalBut h r hpast hp.transient]
  exact ⟨hp.outcome, rfl, hp.transient⟩

theorem alikeBut_skip : AlikeBut name [skip] [skip] := by
  intro r a b p p' _ hp _
  rw [runList_singleton, runList_singleton, run, run]
  exact ⟨rfl, hp.color, hp.transient⟩

end Step

/-! ### Operations and what is left of them -/

namespace Operation

mutual

/-- If an operation that does not read the variable, at any depth, compiles, then so
    does what is left of it, and the steps of the two cannot be told apart. -/
theorem withoutSets_alikeBut : ∀ op : Operation,
    (∀ inner, Occurs inner [op] → ¬ inner.Reads name) → ∀ step, op.step? = some step →
      ∃ left, steps? (op.withoutSets name) = some left ∧ Step.AlikeBut name [step] left
  | branch c thenOps elseOps, hunread, step, hstep => by
      rw [forall_occurs_branch_iff] at hunread
      rcases hunread with ⟨hcondition, hthen, helse⟩
      simp only [step?_branch, Option.bind_eq_some_iff, Option.map_eq_some_iff] at hstep
      rcases hstep with ⟨pattern, hpattern, a, ha, b, hb, rfl⟩
      rcases withoutSetsList_alikeBut thenOps hthen a ha with ⟨a', ha', hruna⟩
      rcases withoutSetsList_alikeBut elseOps helse b hb with ⟨b', hb', hrunb⟩
      refine ⟨[.branch c.expression pattern a' b'], ?_,
        Step.alikeBut_branch hcondition pattern hruna hrunb⟩
      simp only [withoutSets, steps?_singleton, step?_branch, hpattern, ha', hb',
        Option.bind_some, Option.map_some]
  | set target e, hunread, step, hstep => by
      have hexpression : ¬ (set target e).Reads name := hunread _ .head
      obtain rfl := step?_set_eq_some hstep
      rw [withoutSets]
      by_cases htarget : target = name
      · -- Nothing is left of it, and nothing has to compile.
        rw [if_pos htarget, htarget]
        exact ⟨[], rfl, Step.alikeBut_set_dropped e⟩
      · rw [if_neg htarget, steps?_singleton, hstep]
        exact ⟨_, rfl, Step.alikeBut_set hexpression target⟩
  | colorBy e, hunread, step, hstep => by
      have hexpression : ¬ (colorBy e).Reads name := hunread _ .head
      obtain rfl := step?_colorBy_eq_some hstep
      rw [withoutSets, steps?_singleton, hstep]
      exact ⟨_, rfl, Step.alikeBut_colorBy hexpression⟩
  | skipRecord, _, step, hstep => by
      obtain rfl := Option.some.inj hstep
      exact ⟨[.skip], rfl, Step.alikeBut_skip⟩

/-- The same for operations in a row. -/
theorem withoutSetsList_alikeBut : ∀ ops : List Operation,
    (∀ inner, Occurs inner ops → ¬ inner.Reads name) → ∀ steps, steps? ops = some steps →
      ∃ left, steps? (withoutSetsList name ops) = some left ∧ Step.AlikeBut name steps left
  | [], _, steps, hsteps => by
      obtain rfl := Option.some.inj hsteps
      exact ⟨[], rfl, Step.alikeBut_nil⟩
  | op :: rest, hunread, steps, hsteps => by
      rw [forall_occurs_cons_iff] at hunread
      simp only [steps?_cons, Option.bind_eq_some_iff, Option.map_eq_some_iff] at hsteps
      rcases hsteps with ⟨step, hstep, tail, htail, rfl⟩
      rcases withoutSets_alikeBut op hunread.1 step hstep with ⟨left, hleft, hrun⟩
      rcases withoutSetsList_alikeBut rest hunread.2 tail htail with ⟨left', hleft', hrun'⟩
      -- The one step stands against none or one, and the lists grow on both sides.
      refine ⟨left ++ left', ?_, Step.alikeBut_append hrun hrun'⟩
      simp only [withoutSetsList, steps?_append, hleft, hleft', Option.bind_some,
        Option.map_some]

end

end Operation

end

/-! ### Whole runs -/

/-- Runs of a query and of what is left of it go in step, up to the variable. -/
theorem Query.inStep_withoutSets {q : Query} {compiled : CompiledQuery}
    (hcompile : q.compile = .ok compiled) {name : String} (hunread : ¬ q.Reads name) :
    ∃ compiled', (q.withoutSets name).compile = .ok compiled' ∧
      compiled.InStep Eq (Scope.EqualBut name) (Scope.EqualBut name) compiled' := by
  have hops : ∀ op, Operation.Occurs op q.operations → ¬ op.Reads name :=
    fun op hoccurs hreads => hunread ⟨op, hoccurs, hreads⟩
  rcases Operation.withoutSetsList_alikeBut q.operations hops compiled.steps
    (compile_eq_ok_iff.mp hcompile) with ⟨left, hleft, hrun⟩
  refine ⟨⟨left⟩, compile_eq_ok_iff.mpr hleft, ⟨?_, fun hpast hown => hpast.commit hown⟩⟩
  rintro r _ a a' rfl hpast
  exact hrun r a a' .start .start hpast ⟨rfl, rfl, rfl⟩ rfl

/-- A variable acts on nothing but its readers. Let a query compile, and let no
    expression in it read some variable, be it as the pass has it or as the passes
    before left it. Take every operation out of the query, at any depth, that sets the
    variable. What is left compiles. On every list of records the two runs drop the
    same places and give out the others with the same colors. Their variables and
    their persistent scopes are the same in the same order, once the entry of the
    variable is left out on both sides. -/
theorem unread_variable_unseen {q : Query} {compiled : CompiledQuery}
    (hcompile : q.compile = .ok compiled) {name : String} (hunread : ¬ q.Reads name) :
    (∀ e, ¬ (Operation.set name e).Occurs (q.withoutSets name).operations) ∧
    ∃ compiled', (q.withoutSets name).compile = .ok compiled' ∧
      ∀ records : List LogRecord,
        List.Forall₂ (Option.Rel (OutputRecord.Alike Eq (Scope.EqualBut name)))
            (compiled.start.feed records).1 (compiled'.start.feed records).1 ∧
          List.Forall₂ (OutputRecord.Alike Eq (Scope.EqualBut name))
            (compiled.run records).records (compiled'.run records).records ∧
          Scope.EqualBut name (compiled.start.feed records).2.persistent
            (compiled'.start.feed records).2.persistent := by
  constructor
  · intro e hoccurs
    exact Operation.not_occurs_withoutSetsList name q.operations _ hoccurs e rfl
  · rcases q.inStep_withoutSets hcompile hunread with ⟨compiled', hcompile', hstep⟩
    refine ⟨compiled', hcompile', fun records => ?_⟩
    have hsame : List.Forall₂ Eq records records := List.forall₂_same.mpr fun _ _ => rfl
    have hempty : Scope.EqualBut name .empty .empty := rfl
    rcases QueryRun.feed_inStep hstep hsame hempty with ⟨hanswers, hpersistent⟩
    exact ⟨hanswers, QueryRun.processAll_inStep hstep hsame hempty, hpersistent⟩

/-- A query that notes something of every record and never reads it, and has a pattern
    that binds the same name. -/
def notingQuery : Query :=
  ⟨[.branch ⟨.record, "(?P<level>[a-z])(?P<note>[0-9])"⟩
      [.set "seen" (.lastVarValue "level"), .colorBy (.var "level")]
      [.set "note" (.constant (.string "odd")), .set "level" .record],
    .set "note" .record]⟩

/-- Without the operations that set it, the note is what the pattern binds, or is not
    bound at all. The other variables and the colors are as they were, and so is what
    one pass reads of the one before. -/
theorem unread_variable_unseen_notingQuery :
    ¬ notingQuery.Reads "note" ∧
    ∃ compiled compiled' : CompiledQuery, notingQuery.compile = .ok compiled ∧
      (notingQuery.withoutSets "note").compile = .ok compiled' ∧
      (compiled.run [.ofText "-", .ofText "a1"]).records.map (fun o => o.vars.entries) =
        [[("note", .string "-"), ("level", .string "-")],
          [("level", .string "a"), ("note", .string "a1"), ("seen", .string "-")]] ∧
      (compiled'.run [.ofText "-", .ofText "a1"]).records.map (fun o => o.vars.entries) =
        [[("level", .string "-")],
          [("level", .string "a"), ("note", .string "1"), ("seen", .string "-")]] ∧
      List.Forall₂ (OutputRecord.Alike Eq (Scope.EqualBut "note"))
        (compiled.run [.ofText "-", .ofText "a1"]).records
        (compiled'.run [.ofText "-", .ofText "a1"]).records := by
  have hrun : (notingQuery.compile.toOption.map fun compiled =>
      (compiled.run [.ofText "-", .ofText "a1"]).records.map fun o => o.vars.entries) =
      some [[("note", .string "-"), ("level", .string "-")],
        [("level", .string "a"), ("note", .string "a1"), ("seen", .string "-")]] := by
    decide +kernel
  have hrun' : ((notingQuery.withoutSets "note").compile.toOption.map fun compiled =>
      (compiled.run [.ofText "-", .ofText "a1"]).records.map fun o => o.vars.entries) =
      some [[("level", .string "-")],
        [("level", .string "a"), ("note", .string "1"), ("seen", .string "-")]] := by
    decide +kernel
  have hunread : ¬ notingQuery.Reads "note" := by
    -- None of the six operations reads the name, going down into the branches.
    have hops : ∀ op, Operation.Occurs op notingQuery.operations → ¬ op.Reads "note" := by
      have hleaf : ∀ target e, ¬ (Operation.set target e).Reads "note" →
          ∀ op, Operation.Occurs op [.set target e] → ¬ op.Reads "note" := by
        intro target e h
        exact (Operation.forall_occurs_leaf_iff _ fun _ _ _ hb => by cases hb).mpr h
      rw [notingQuery, Operation.forall_occurs_cons_iff, Operation.forall_occurs_branch_iff]
      refine ⟨⟨by decide, ?_, ?_⟩, hleaf _ _ (by decide)⟩
      · rw [Operation.forall_occurs_cons_iff]
        exact ⟨hleaf _ _ (by decide),
          (Operation.forall_occurs_leaf_iff _ fun _ _ _ hb => by cases hb).mpr (by decide)⟩
      · rw [Operation.forall_occurs_cons_iff]
        exact ⟨hleaf _ _ (by decide), hleaf _ _ (by decide)⟩
    rintro ⟨op, hoccurs, hreads⟩
    exact hops op hoccurs hreads
  refine ⟨hunread, ?_⟩
  rcases Option.map_eq_some_iff.mp hrun with ⟨compiled, hc, hvars⟩
  rcases Option.map_eq_some_iff.mp hrun' with ⟨left, hleft, hvars'⟩
  rw [toOption_eq_some_iff] at hc hleft
  rcases (unread_variable_unseen hc hunread).2 with ⟨compiled', hc', halike⟩
  obtain rfl : left = compiled' := Except.ok.inj (hleft.symm.trans hc')
  exact ⟨compiled, left, hc, hc', hvars, hvars', (halike _).2.1⟩

end LogQuery
