import LogQuery.Proofs.Run

/-!
# What a Pass Reads of the Past

The only way from one record to a later one is a variable that the later pass
reads by `lastVarValue`. The names that a query reads in this way stand in its
steps, so the past of a pass can be cut down to the values of these names: two
scopes that agree on them cannot be told apart by any pass of the query.

A difference in a single value could choose another branch, and with it other
groups, other variables and another end of the pass. So the statement about one
expression (`eval_congr`) is carried through the steps with everything that a
pass has done so far held equal, and not only its outcome. What comes out is
that the two passes are equal. Nor has the record to be the very same one. All
that an expression asks of it is its text or the value of a field, so two records
that give the same answers (`ReadsLike`) have equal passes as well.

Along a run the scopes change, but in step: both are overwritten by the same
bindings, so they go on agreeing (`agreeOn_commit`). Hence two runs that start
from scopes that agree give out the same for ever, and a query that reads
nothing of the past treats every record as if it were the first.

## Main definitions

* `CompiledQuery.pastNames`: The names that a query reads by `lastVarValue`.
* `Scope.AgreeOn`: Two scopes give the same value for each of some names.
* `LogRecord.ReadsLike`: Two records look the same to every expression.

## Theorems

* `eval_congr`: An expression sees no more of the past than the name it reads.
* `run_congr`, `runList_congr`: Neither do steps.
* `pass_congr`: Records that look the same have equal passes.
* `agreeOn_commit`: Scopes that agree still agree after the same bindings.
* `processAll_congr`: Runs from scopes that agree give out the same.
* `pass_reads_names`: A pass depends on the past through the names it reads.
-/

namespace LogQuery

/-! ### Names of the past -/

/-- The variable of the passes before that an expression reads. -/
def Expression.pastName? : Expression → Option String
  | lastVarValue name => some name
  | record | var _ | constant _ | field _ => none

mutual

/-- The variables of the passes before that a step reads, at any depth. -/
def Step.pastNames : Step → List String
  | .branch expression _ thenSteps elseSteps =>
    expression.pastName?.toList ++
      (Step.pastNamesOfList thenSteps ++ Step.pastNamesOfList elseSteps)
  | .set _ expression => expression.pastName?.toList
  | .colorBy expression => expression.pastName?.toList
  | .skip => []

/-- The variables of the passes before that steps read, at any depth. -/
def Step.pastNamesOfList : List Step → List String
  | [] => []
  | step :: rest => step.pastNames ++ Step.pastNamesOfList rest

end

/-- The variables of the passes before that a query reads. -/
def CompiledQuery.pastNames (q : CompiledQuery) : List String := Step.pastNamesOfList q.steps

namespace Scope

/-- Two scopes give the same value for each of some names. A name that is not
    bound gives the same value as one that is bound to nothing. -/
def AgreeOn (names : List String) (a b : Scope) : Prop :=
  ∀ name ∈ names, a.read name = b.read name

theorem agreeOn_append_iff {xs ys : List String} {a b : Scope} :
    AgreeOn (xs ++ ys) a b ↔ AgreeOn xs a b ∧ AgreeOn ys a b := by
  constructor
  · intro h
    exact ⟨fun name hname => h name (List.mem_append_left ys hname),
      fun name hname => h name (List.mem_append_right xs hname)⟩
  · rintro ⟨hxs, hys⟩ name hname
    rcases List.mem_append.mp hname with hx | hy
    · exact hxs name hx
    · exact hys name hy

theorem read_commit (persistent transient : Scope) (name : String) :
    (persistent.commit transient).read name =
      (transient.get? name).getD (persistent.read name) := by
  rw [read, commit, Bindings.get?_override, read]
  cases Bindings.get? transient name with
  | none => rw [Option.none_or, Option.getD_none]
  | some value => rw [Option.some_or, Option.getD_some, Option.getD_some]

/-- Scopes that agree still agree when the same bindings are committed to
    both. -/
theorem agreeOn_commit {names : List String} {a b : Scope} (h : AgreeOn names a b)
    (transient : Scope) : AgreeOn names (a.commit transient) (b.commit transient) := by
  intro name hname
  rw [read_commit, read_commit, h name hname]

end Scope

/-! ### One pass -/

/-- Two records look the same to every expression: they have the same text, and
    the same value in every field. -/
structure LogRecord.ReadsLike (r r' : LogRecord) : Prop where
  render : r.render = r'.render
  get : ∀ name, r.get name = r'.get name

theorem LogRecord.ReadsLike.refl (r : LogRecord) : r.ReadsLike r := ⟨rfl, fun _ => rfl⟩

section

variable {r r' : LogRecord} {a b : Scope}

/-- An expression sees no more of the past than the name it reads, and no more of
    the record than its text or a field. -/
theorem eval_congr (hrecord : r.ReadsLike r') {e : Expression}
    (h : Scope.AgreeOn e.pastName?.toList a b) (transient : Scope) :
    e.eval ⟨r, a⟩ transient = e.eval ⟨r', b⟩ transient := by
  cases e with
  | lastVarValue name => exact h name (List.mem_singleton_self name)
  | record => exact congrArg Value.string hrecord.render
  | var name => rfl
  | constant value => rfl
  | field name => exact hrecord.get name

theorem evalText_congr (hrecord : r.ReadsLike r') {e : Expression}
    (h : Scope.AgreeOn e.pastName?.toList a b) (transient : Scope) :
    e.evalText ⟨r, a⟩ transient = e.evalText ⟨r', b⟩ transient := by
  rw [Expression.evalText_eq, Expression.evalText_eq, eval_congr hrecord h]

mutual

/-- A step does the same to a pass of records that look the same, against scopes
    that agree on what it reads. -/
theorem run_congr (hrecord : r.ReadsLike r') :
    ∀ (step : Step), Scope.AgreeOn step.pastNames a b → ∀ p : Pass,
      step.run ⟨r, a⟩ p = step.run ⟨r', b⟩ p
  | .branch expression pattern thenSteps elseSteps, h, p => by
      rw [Step.pastNames, Scope.agreeOn_append_iff, Scope.agreeOn_append_iff] at h
      rcases h with ⟨hexpression, hthen, helse⟩
      -- The same text is matched, so the same branch is taken with the same groups.
      rw [Step.run, Step.run, evalText_congr hrecord hexpression]
      cases pattern.captures (expression.evalText ⟨r', b⟩ p.transient) with
      | none => exact runList_congr hrecord elseSteps helse p
      | some captures => exact runList_congr hrecord thenSteps hthen (p.bindAll captures)
  | .set target expression, h, p => by
      rw [Step.pastNames] at h
      rw [Step.run, Step.run, eval_congr hrecord h]
  | .colorBy expression, h, p => by
      rw [Step.pastNames] at h
      rw [Step.run, Step.run, evalText_congr hrecord h]
  | .skip, _, p => by
      rw [Step.run, Step.run]

/-- Steps do the same to a pass of records that look the same, against scopes that
    agree on what they read. -/
theorem runList_congr (hrecord : r.ReadsLike r') :
    ∀ (steps : List Step), Scope.AgreeOn (Step.pastNamesOfList steps) a b → ∀ p : Pass,
      Step.runList ⟨r, a⟩ steps p = Step.runList ⟨r', b⟩ steps p
  | [], _, p => by
      rw [Step.runList, Step.runList]
  | step :: rest, h, p => by
      rw [Step.pastNamesOfList, Scope.agreeOn_append_iff] at h
      rw [Step.runList, Step.runList, run_congr hrecord step h.1 p]
      cases (step.run ⟨r', b⟩ p).outcome with
      | skipped => rfl
      | done => exact runList_congr hrecord rest h.2 (step.run ⟨r', b⟩ p)

end

end

/-- Two passes are equal if their records look the same and are read against
    scopes that agree on the names that the query reads. -/
theorem CompiledQuery.pass_congr {q : CompiledQuery} {a b : Scope} {r r' : LogRecord}
    (hrecord : r.ReadsLike r') (h : Scope.AgreeOn q.pastNames a b) : q.pass r a = q.pass r' b :=
  runList_congr hrecord q.steps h .start

/-! ### Whole runs -/

namespace QueryRun

/-- Of two runs from scopes that agree, a record gets the same answer, and behind
    it the scopes still agree. -/
theorem process_congr {q : CompiledQuery} {a b : Scope} (h : Scope.AgreeOn q.pastNames a b)
    (record : LogRecord) :
    (process ⟨q, a⟩ record).1 = (process ⟨q, b⟩ record).1 ∧
      ∃ a' b', (process ⟨q, a⟩ record).2 = ⟨q, a'⟩ ∧ (process ⟨q, b⟩ record).2 = ⟨q, b'⟩ ∧
        Scope.AgreeOn q.pastNames a' b' := by
  have hpass := CompiledQuery.pass_congr (.refl record) h
  refine ⟨?_, _, _, rfl, rfl, ?_⟩
  · rw [process, process]
    simp only [hpass]
  · rw [hpass]
    exact Scope.agreeOn_commit h _

/-- Runs from scopes that agree on the names that are read give out the same. -/
theorem processAll_congr {q : CompiledQuery} {a b : Scope} (h : Scope.AgreeOn q.pastNames a b)
    (records : List LogRecord) :
    (processAll ⟨q, a⟩ records).1 = (processAll ⟨q, b⟩ records).1 := by
  induction records generalizing a b with
  | nil => rfl
  | cons record rest ih =>
      rcases process_congr h record with ⟨hanswer, a', b', ha, hb, hagree⟩
      rw [processAll_cons, processAll_cons, hanswer, ha, hb, ih hagree]

/-- A run of a query that reads nothing of the past gives every record the answer
    that it would get if it came first. -/
theorem processAll_of_no_past {q : CompiledQuery} (h : q.pastNames = []) (a : Scope)
    (records : List LogRecord) :
    (processAll ⟨q, a⟩ records).1 = records.filterMap fun record => (q.start.process record).1 := by
  -- Any two scopes agree on no names at all.
  have hagree : ∀ a b, Scope.AgreeOn q.pastNames a b := by
    intro a b name hname
    rw [h] at hname
    cases hname
  induction records generalizing a with
  | nil => rfl
  | cons record rest ih =>
      rcases process_congr (hagree a .empty) record with ⟨hanswer, a', _, hrun, _, _⟩
      rw [processAll_cons, hrun, ih a', hanswer, List.filterMap_cons]
      have hstart : process ⟨q, .empty⟩ record = q.start.process record := rfl
      rw [hstart]
      cases (q.start.process record).1 with
      | none => rfl
      | some o => rfl

end QueryRun

/-- A pass depends on the records before it through nothing but the names that
    the query reads by `lastVarValue`. Against two scopes that give the same values
    for these, a record has equal passes, with one outcome, one color and the same
    bindings in the same order, and whole runs from there give out the same. If
    there are no such names, every record gets the answer that a fresh run gives
    it, whatever comes before or behind it, and a run over two lists gives out what
    two fresh runs do. -/
theorem pass_reads_names (q : CompiledQuery) :
    (∀ (record : LogRecord) (a b : Scope), Scope.AgreeOn q.pastNames a b →
      (q.pass record a).outcome = (q.pass record b).outcome ∧
      (q.pass record a).color = (q.pass record b).color ∧
      (q.pass record a).transient.entries = (q.pass record b).transient.entries) ∧
    (∀ (records : List LogRecord) (a b : Scope), Scope.AgreeOn q.pastNames a b →
      (QueryRun.processAll ⟨q, a⟩ records).1 = (QueryRun.processAll ⟨q, b⟩ records).1) ∧
    (q.pastNames = [] → ∀ xs ys : List LogRecord,
      (q.run xs).records = xs.filterMap (fun record => (q.start.process record).1) ∧
      (q.run (xs ++ ys)).records = (q.run xs).records ++ (q.run ys).records) := by
  refine ⟨fun record a b h => ?_, fun records a b h => QueryRun.processAll_congr h records,
    fun h xs ys => ?_⟩
  · rw [CompiledQuery.pass_congr (.refl record) h]
    exact ⟨rfl, rfl, rfl⟩
  · have hrun : ∀ records, (q.run records).records =
        records.filterMap fun record => (q.start.process record).1 :=
      QueryRun.processAll_of_no_past h .empty
    refine ⟨hrun xs, ?_⟩
    rw [hrun, hrun, hrun, List.filterMap_append]

/-- A scope that binds the one name that the nested query reads, but to nothing,
    and a name besides. -/
def forgottenWord : Scope := .ofList [("word", .absent), ("other", .string "x")]

/-- A query that colors a record by one of its own fields. -/
def staticQuery : CompiledQuery := ⟨[.set "own" (.field "level"), .colorBy (.var "own")]⟩

/-- The nested query cannot tell the scope from an empty one, in the branch that
    reads the name either. The records of the other query are independent. -/
theorem pass_reads_names_forgottenWord :
    (∃ compiled : CompiledQuery, nestedQuery.compile = .ok compiled ∧
      compiled.pastNames = ["word"] ∧
      Scope.AgreeOn compiled.pastNames forgottenWord .empty ∧
      (compiled.pass (.ofText "0") forgottenWord).transient.entries =
        (compiled.pass (.ofText "0") .empty).transient.entries) ∧
    staticQuery.pastNames = [] ∧
      (staticQuery.run ([.ofText "0"] ++ [.ofText "1"])).records =
        (staticQuery.run [.ofText "0"]).records ++ (staticQuery.run [.ofText "1"]).records := by
  have hnames : (nestedQuery.compile.toOption.map fun compiled => compiled.pastNames) =
      some ["word"] := by
    decide +kernel
  constructor
  · cases hc : nestedQuery.compile with
    | error e =>
        rw [hc] at hnames
        cases hnames
    | ok compiled =>
        rw [hc] at hnames
        have hword : compiled.pastNames = ["word"] := Option.some.inj hnames
        have hagree : Scope.AgreeOn compiled.pastNames forgottenWord .empty := by
          intro name hname
          rw [hword, List.mem_singleton] at hname
          rw [hname]
          rfl
        exact ⟨compiled, rfl, hword, hagree,
          ((pass_reads_names compiled).1 (.ofText "0") forgottenWord .empty hagree).2.2⟩
  · refine ⟨rfl, ?_⟩
    exact ((pass_reads_names staticQuery).2.2 rfl [.ofText "0"] [.ofText "1"]).2

end LogQuery
