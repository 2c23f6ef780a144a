import LogQuery.Proofs.Run
import Mathlib.Data.List.Perm.Subperm

/-!
# The Names That a Query Binds

A run may go on for ever, and its variables must not grow with it. They cannot,
because every name that is ever bound is written in the query: it is the target
of a `set` or a named group of a pattern. Nothing that comes from a record is
made a name.

The names are read off the steps at every depth (`boundNames`), without regard
to whether a branch is ever taken. A step adds no other name to a pass
(`run_keys`), so a pass binds none (`pass_keys`), and a commit takes over what
the pass has bound, so neither does the run. `OwnNames` is the invariant of the
persistent scope. That compilation has refused empty targets, and that a pattern
has no empty group, keeps empty names out (`boundNames_ne_empty`).

Scopes only grow at the end. What stands in the persistent scope is a prefix of
what stands there after the next commit, so no name is ever lost or moved.

## Main definitions

* `CompiledQuery.boundNames`: The names that a query may bind.
* `CompiledQuery.OwnNames`: A scope has names of the query only.

## Theorems

* `captures_names`: A match binds groups of its pattern, in their order.
* `run_keys`, `runList_keys`: What steps bind is written in them.
* `boundNames_ne_empty`: A query that compiles binds no empty name.
* `size_le_of_ownNames`: A scope is no larger than the set of names.
* `keys_commit_prefix`: A commit appends to the persistent scope.
* `run_binds_own_names`: The variables of a run stay bounded by its query.
-/

namespace LogQuery

/-! ### Names of steps -/

mutual

/-- The names that a step may bind, at any depth: its targets and the groups of
    its patterns. -/
def Step.boundNames : Step → List String
  | .branch _ pattern thenSteps elseSteps =>
    pattern.groups ++ (Step.boundNamesOfList thenSteps ++ Step.boundNamesOfList elseSteps)
  | .set target _ => [target]
  | .colorBy _ => []
  | .skip => []

/-- The names that steps may bind, at any depth. -/
def Step.boundNamesOfList : List Step → List String
  | [] => []
  | step :: rest => step.boundNames ++ Step.boundNamesOfList rest

end

/-- The names that a query may bind. -/
def CompiledQuery.boundNames (q : CompiledQuery) : List String := Step.boundNamesOfList q.steps

/-! ### What a pass binds -/

/-- The groups that take part in a match keep the order of the pattern. -/
theorem Pattern.capturesFrom_names (text : String) (slots : Regex.Slots) (i : Nat)
    (names : List String) :
    ((capturesFrom text slots i names).map Prod.fst).Sublist names := by
  induction names generalizing i with
  | nil => exact List.Sublist.slnil
  | cons name rest ih =>
      rw [capturesFrom]
      cases capture? text slots i with
      | none => exact (ih (i + 1)).cons name
      | some held => exact (ih (i + 1)).cons_cons name

theorem Pattern.captures_names {p : Pattern} {text : String} {captures : List (String × String)}
    (h : p.captures text = some captures) : (captures.map Prod.fst).Sublist p.groups := by
  unfold Pattern.captures at h
  split at h
  · -- Without groups there is nothing to report.
    split at h
    · cases h
      exact List.nil_sublist _
    · cases h
  · rcases Option.map_eq_some_iff.mp h with ⟨slots, _, rfl⟩
    exact capturesFrom_names text slots 0 p.groups

theorem Bindings.mem_keys_setAll {α : Type} {b : Bindings α} {pairs : List (String × α)}
    {name : String} :
    name ∈ (b.setAll pairs).keys ↔ name ∈ b.keys ∨ name ∈ pairs.map Prod.fst := by
  rw [keys_setAll, List.mem_eraseDups, List.mem_append]

/-- Binding the groups of a match binds no other names. -/
theorem Pass.bindAll_keys {p : Pass} {pattern : Pattern} {text : String}
    {captures : List (String × String)} (h : pattern.captures text = some captures)
    {name : String} (hname : name ∈ (p.bindAll captures).transient.keys) :
    name ∈ p.transient.keys ∨ name ∈ pattern.groups := by
  rw [bindAll, Bindings.mem_keys_setAll, List.map_map] at hname
  rcases hname with hold | hnew
  · exact .inl hold
  · exact .inr ((Pattern.captures_names h).subset hnew)

section

variable {around : Surroundings} {name : String}

mutual

/-- Whatever name a step binds is written in it. -/
theorem run_keys : ∀ (step : Step) (p : Pass), name ∈ (step.run around p).transient.keys →
    name ∈ p.transient.keys ∨ name ∈ step.boundNames
  | .branch expression pattern thenSteps elseSteps, p, h => by
      rw [Step.boundNames, List.mem_append, List.mem_append]
      rw [Step.run] at h
      cases hcaptures : pattern.captures (expression.evalText around p.transient) with
      | none =>
          rw [hcaptures] at h
          rcases runList_keys elseSteps p h with hold | helse
          · exact .inl hold
          · exact .inr (.inr (.inr helse))
      | some captures =>
          rw [hcaptures] at h
          rcases runList_keys thenSteps (p.bindAll captures) h with hbound | hthen
          · -- Bound before the branch, so by an earlier step or by the match itself.
            rcases Pass.bindAll_keys hcaptures hbound with hold | hgroup
            · exact .inl hold
            · exact .inr (.inl hgroup)
          · exact .inr (.inr (.inl hthen))
  | .set target expression, p, h => by
      have hkeys := Bindings.keys_set p.transient target (expression.eval around p.transient)
      rw [Step.run, hkeys] at h
      rw [Step.boundNames]
      by_cases hmem : target ∈ p.transient.keys
      · rw [if_pos hmem] at h
        exact .inl h
      · rw [if_neg hmem] at h
        exact List.mem_append.mp h
  | .colorBy expression, p, h => by
      rw [Step.run] at h
      exact .inl h
  | .skip, p, h => by
      rw [Step.run] at h
      exact .inl h

/-- Whatever name steps bind is written in them, whether they all run or not. -/
theorem runList_keys : ∀ (steps : List Step) (p : Pass),
    name ∈ (Step.runList around steps p).transient.keys →
    name ∈ p.transient.keys ∨ name ∈ Step.boundNamesOfList steps
  | [], p, h => by
      rw [Step.runList] at h
      exact .inl h
  | step :: rest, p, h => by
      rw [Step.boundNamesOfList, List.mem_append]
      rw [Step.runList] at h
      have hfirst : name ∈ (step.run around p).transient.keys →
          name ∈ p.transient.keys ∨ name ∈ step.boundNames ∨
            name ∈ Step.boundNamesOfList rest := by
        intro hbound
        rcases run_keys step p hbound with hold | hstep
        · exact .inl hold
        · exact .inr (.inl hstep)
      cases houtcome : (step.run around p).outcome with
      | skipped =>
          simp only [houtcome] at h
          exact hfirst h
      | done =>
          simp only [houtcome] at h
          rcases runList_keys rest (step.run around p) h with hbound | hrest
          · exact hfirst hbound
          · exact .inr (.inr hrest)

end

end

/-! ### Scopes of a query -/

namespace CompiledQuery

/-- A scope has names of the query only. -/
def OwnNames (q : CompiledQuery) (scope : Scope) : Prop := ∀ name ∈ scope.keys, name ∈ q.boundNames

theorem ownNames_empty (q : CompiledQuery) : q.OwnNames .empty := nofun

theorem pass_ownNames (q : CompiledQuery) (record : LogRecord) (persistent : Scope) :
    q.OwnNames (q.pass record persistent).transient := by
  intro name hname
  rcases runList_keys q.steps .start hname with hstart | hbound
  · cases hstart
  · exact hbound

theorem ownNames_commit {q : CompiledQuery} {persistent transient : Scope}
    (hpersistent : q.OwnNames persistent) (htransient : q.OwnNames transient) :
    q.OwnNames (persistent.commit transient) := by
  intro name hname
  rcases Bindings.mem_keys_setAll.mp hname with hold | hnew
  · exact hpersistent name hold
  · exact htransient name hnew

/-- The names of a scope are distinct, so there are no more of them than the query
    has. -/
theorem size_le_of_ownNames {q : CompiledQuery} {scope : Scope} (h : q.OwnNames scope) :
    scope.size ≤ q.boundNames.eraseDups.length := by
  have hsubset : scope.keys ⊆ q.boundNames.eraseDups := by
    intro name hname
    exact List.mem_eraseDups.mpr (h name hname)
  have hkeys : scope.keys.length = scope.size := List.length_map _
  rw [← hkeys]
  exact (List.subperm_of_subset scope.nodup hsubset).length_le

end CompiledQuery

/-- A commit leaves the names that are there in their places and puts new ones
    behind them. -/
theorem Scope.keys_commit_prefix (persistent transient : Scope) :
    persistent.keys <+: (persistent.commit transient).keys := by
  have hold : persistent.keys.eraseDups = persistent.keys := eraseDups_of_nodup persistent.nodup
  rw [commit, Bindings.keys_override, List.eraseDups_append, hold]
  exact List.prefix_append _ _

/-! ### No empty names -/

namespace Operation

mutual

/-- Compilation has refused empty targets, and patterns have no empty groups. -/
theorem boundNames_ne_empty (place : Path) :
    ∀ (op : Operation) {step : Step}, op.compile place = .ok step →
      ∀ name ∈ step.boundNames, name ≠ ""
  | branch c thenOps elseOps, step, h => by
      rcases compile_branch_eq_ok h with
        ⟨_, thenPlace, elsePlace, pattern, thenSteps, elseSteps, _, hthen, helse, rfl⟩
      intro name hname
      rw [Step.boundNames, List.mem_append, List.mem_append] at hname
      rcases hname with hgroup | hname | hname
      · exact pattern.groups_nonempty name hgroup
      · exact boundNamesOfList_ne_empty thenPlace thenOps hthen name hname
      · exact boundNamesOfList_ne_empty elsePlace elseOps helse name hname
  | set target e, step, h => by
      have htarget : target ≠ "" := by
        rintro rfl
        unfold compile at h
        cases h
      rw [compile_set_eq_ok h]
      intro name hname
      rw [Step.boundNames, List.mem_singleton] at hname
      rwa [hname]
  | colorBy e, step, h => by
      rw [compile_colorBy_eq_ok h]
      intro name hname
      cases hname
  | skipRecord, step, h => by
      cases h
      intro name hname
      cases hname

theorem boundNamesOfList_ne_empty (place : Path) :
    ∀ (ops : List Operation) {i : Nat} {steps : List Step}, compileList place i ops = .ok steps →
      ∀ name ∈ Step.boundNamesOfList steps, name ≠ ""
  | [], i, steps, h => by
      cases h
      intro name hname
      cases hname
  | op :: rest, i, steps, h => by
      rcases compileList_cons_eq_ok h with ⟨step, restSteps, hstep, hrest, rfl⟩
      intro name hname
      rw [Step.boundNamesOfList, List.mem_append] at hname
      rcases hname with hname | hname
      · exact boundNames_ne_empty (place.element i) op hstep name hname
      · exact boundNamesOfList_ne_empty place rest hrest name hname

end

end Operation

/-! ### Along a run -/

namespace QueryRun

/-- A run whose scope has names of its query only keeps it so, and gives out no
    other names. -/
theorem processAll_ownNames (run : QueryRun) (h : run.query.OwnNames run.persistent)
    (records : List LogRecord) :
    run.query.OwnNames (run.processAll records).2.persistent ∧
      ∀ o ∈ (run.processAll records).1, run.query.OwnNames o.vars := by
  induction records generalizing run with
  | nil => exact ⟨h, nofun⟩
  | cons record rest ih =>
      have hpass := run.query.pass_ownNames record run.persistent
      have hnext : (run.process record).2.query.OwnNames (run.process record).2.persistent :=
        CompiledQuery.ownNames_commit h hpass
      rcases ih (run.process record).2 hnext with ⟨hpersistent, houtputs⟩
      rw [processAll_cons]
      refine ⟨hpersistent, fun o ho => ?_⟩
      rcases List.mem_append.mp ho with hfirst | hrest
      · -- An output shows the variables of its own pass.
        rw [Option.mem_toList, process, output?] at hfirst
        cases houtcome : (run.query.pass record run.persistent).outcome with
        | skipped =>
            simp only [houtcome] at hfirst
            cases hfirst
        | done =>
            simp only [houtcome] at hfirst
            cases hfirst
            exact hpass
      · exact houtputs o hrest

/-- Names of the persistent scope stay where they are, however far a run goes. -/
theorem keys_prefix_processAll (run : QueryRun) (records : List LogRecord) :
    run.persistent.keys <+: (run.processAll records).2.persistent.keys := by
  induction records generalizing run with
  | nil => exact List.prefix_refl _
  | cons record rest ih =>
      rw [processAll_cons]
      exact (Scope.keys_commit_prefix run.persistent _).trans (ih (run.process record).2)

end QueryRun

/-- The variables of a run stay bounded by its query. At every point of every run,
    each name in the persistent scope, and each name among the variables of what
    the run gives out, is a target or a group of the query and not empty; no name
    stands twice, so there are at most as many as the query has names; and the
    names that stand in the persistent scope are still there at any later point,
    in the same places. -/
theorem run_binds_own_names {q : Query} {compiled : CompiledQuery} (h : q.compile = .ok compiled)
    (records : List LogRecord) :
    let scope := fun i => (compiled.start.processAll (records.take i)).2.persistent
    (∀ i, (∀ name ∈ (scope i).keys, name ∈ compiled.boundNames ∧ name ≠ "") ∧
      (scope i).keys.Nodup ∧ (scope i).size ≤ compiled.boundNames.eraseDups.length) ∧
    (∀ i j, i ≤ j → (scope i).keys <+: (scope j).keys) ∧
    ∀ o ∈ (compiled.start.processAll records).1,
      (∀ name ∈ o.vars.keys, name ∈ compiled.boundNames ∧ name ≠ "") ∧ o.vars.keys.Nodup := by
  intro scope
  have hnames : ∀ name ∈ compiled.boundNames, name ≠ "" :=
    Operation.boundNamesOfList_ne_empty _ q.operations (Query.compile_eq_ok h)
  have hown := compiled.start.processAll_ownNames compiled.ownNames_empty
  refine ⟨fun i => ⟨fun name hname => ?_, (scope i).nodup, ?_⟩, fun i j hij => ?_,
    fun o ho => ⟨fun name hname => ?_, o.vars.nodup⟩⟩
  · have hbound := (hown (records.take i)).1 name hname
    exact ⟨hbound, hnames name hbound⟩
  · exact CompiledQuery.size_le_of_ownNames (hown (records.take i)).1
  · -- The records up to the later point begin with those up to the earlier one.
    rcases List.take_prefix_take_left (l := records) hij with ⟨later, hlater⟩
    have hscope : scope j =
        ((compiled.start.processAll (records.take i)).2.processAll later).2.persistent := by
      simp only [scope]
      rw [← hlater, QueryRun.processAll_append]
    rw [hscope]
    exact QueryRun.keys_prefix_processAll _ later
  · have hbound := (hown records).2 o ho name hname
    exact ⟨hbound, hnames name hbound⟩

/-- The nested query may bind four names, one of them by a target and by a group,
    and one behind a step that drops the record. The first record binds one name,
    which keeps its place through the records behind it. -/
theorem run_binds_own_names_nestedRecords :
    ∃ compiled : CompiledQuery, nestedQuery.compile = .ok compiled ∧
      compiled.boundNames.eraseDups = ["word", "value", "late", "seen"] ∧
      (compiled.start.processAll (nestedRecords.take 3)).2.persistent.size ≤ 4 ∧
      ["word"] <+: (compiled.start.processAll (nestedRecords.take 3)).2.persistent.keys := by
  have hrun : (nestedQuery.compile.toOption.map fun compiled =>
      (compiled.boundNames.eraseDups,
        (compiled.start.processAll (nestedRecords.take 1)).2.persistent.keys)) =
      some (["word", "value", "late", "seen"], ["word"]) := by
    decide +kernel
  cases hc : nestedQuery.compile with
  | error e =>
      rw [hc] at hrun
      cases hrun
  | ok compiled =>
      rw [hc] at hrun
      rcases Prod.mk.inj (Option.some.inj hrun) with ⟨hnames, hfirst⟩
      rcases run_binds_own_names hc nestedRecords with ⟨hscope, hprefix, _⟩
      refine ⟨compiled, rfl, hnames, ?_, ?_⟩
      · have hsize := (hscope 3).2.2
        rwa [hnames] at hsize
      · have hkept := hprefix 1 3 (by decide)
        simp only [hfirst] at hkept
        exact hkept

end LogQuery
