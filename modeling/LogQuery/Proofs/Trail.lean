import LogQuery.Pass
import LogQuery.Proofs.Bindings
import LogQuery.Proofs.Query.Compiled

/-!
# The Trail of a Pass

What a pass means, said without running it. A record leads a pass along some of
the operations of a query, and the trail lists those operations in the order in
which they are met, each with the one expression that it reads and the value
that the expression has there. Everything that the pass leaves behind can be
read off the trail: its variables are the bindings of the trail replayed from
nothing, and its color is that of the last operation that chose one.

`Walk` says which trail an operation list has. It walks over one flat list: at
an `if` the branch that is taken is put in front of the operations that follow
it, so a `skipRecord` ends the walk where it is met, at any depth, and there is
no signal to be handed outwards. The pass itself does work by nesting and by
handing a signal outwards, and that is what the proof has to bridge. `Crosses`
is the bridge. It says that a list can be walked across whatever follows it,
which is the form in which the two branches of an `if` and the rest of a list
fit together.

An expression is read against the bindings that precede it on the trail, so a
walk has to know the trail behind it. That is its first list of visits.

## Main definitions

* `Visit`: An operation on a trail, with the value that it has read.
* `Trail.scope`, `Trail.color`: The variables and the color that a trail makes.
* `Walk`: The trail of an operation list and how it ends.
* `IsTrail`: The one trail that a list of operations has.
* `Crosses`: A list of operations walked across, whatever follows it.
* `Follows`: A pass that has gone along operations and left what they make.

## Theorems

* `walk_unique`: An operation list has at most one trail.
* `walk_value`: Every expression is read against what precedes it.
* `crosses_append`: Lists are crossed one after the other.
* `run_follows`, `runList_follows`: Compiled operations follow the operations
  that they come from.
* `pass_isTrail`: A pass of a compiled query has a trail and leaves what the
  trail makes.
* `pass_replays_trail`: The reference meaning of a pass.
-/

namespace LogQuery

/-! ### Trails -/

/-- What an operation does with the value that it has read. -/
inductive Effect where
  /-- An `if` matches it. There are captures exactly if its pattern is found. -/
  | test (captures : Option (List (String × String)))
  | set (target : String)
  | colorBy

/-- An operation on a trail. -/
structure Visit where
  /-- The expression that the operation reads. -/
  expression : Expression
  /-- The value of the expression at that point. -/
  value : Value
  effect : Effect

namespace Visit

/-- The names that a visit binds, with their values. -/
def bindings (v : Visit) : List (String × Value) :=
  match v.effect with
  | .test captures => (captures.getD []).map fun capture => (capture.1, .string capture.2)
  | .set target => [(target, v.value)]
  | .colorBy => []

/-- The color that a visit chooses. -/
def color? (v : Visit) : Option String :=
  match v.effect with
  | .colorBy => some v.value.text
  | .test _ | .set _ => none

end Visit

/-- The operations met by a pass, in order. -/
abbrev Trail := List Visit

namespace Trail

/-- All bindings of a trail, in order. -/
def bindings (t : Trail) : List (String × Value) := t.flatMap Visit.bindings

/-- The variables that a trail makes out of nothing. -/
def scope (t : Trail) : Scope := Bindings.ofList t.bindings

/-- The color chosen last on a trail. -/
def color (t : Trail) : Option String := (t.filterMap Visit.color?).getLast?

/-- The visit of an operation that reads an expression behind a trail. -/
def visit (around : Surroundings) (t : Trail) (e : Expression) (effect : Effect) : Visit :=
  ⟨e, e.eval around t.scope, effect⟩

end Trail

/-- Walks over an operation list: behind a trail, it goes on along another one
    and ends in the given way. -/
inductive Walk (around : Surroundings) : Trail → List Operation → Trail → Outcome → Prop
  /-- Every operation has been passed. -/
  | nil (before : Trail) : Walk around before [] [] .done
  /-- The record is dropped, and nothing behind that counts. -/
  | skipRecord (before : Trail) (rest : List Operation) :
      Walk around before (.skipRecord :: rest) [] .skipped
  | set {before : Trail} {target : String} {e : Expression} {rest : List Operation}
      {later : Trail} {ending : Outcome}
      (hrest : Walk around (before ++ [before.visit around e (.set target)]) rest later ending) :
      Walk around before (.set target e :: rest)
        (before.visit around e (.set target) :: later) ending
  | colorBy {before : Trail} {e : Expression} {rest : List Operation} {later : Trail}
      {ending : Outcome}
      (hrest : Walk around (before ++ [before.visit around e .colorBy]) rest later ending) :
      Walk around before (.colorBy e :: rest) (before.visit around e .colorBy :: later) ending
  /-- The pattern is found in the text of the expression. -/
  | thenBranch {before : Trail} {c : Condition} {thenOps elseOps rest : List Operation}
      {captures : List (String × String)} {later : Trail} {ending : Outcome}
      (hmatch : c.captures? (c.expression.evalText around before.scope) = some captures)
      (hrest : Walk around (before ++ [before.visit around c.expression (.test (some captures))])
        (thenOps ++ rest) later ending) :
      Walk around before (.branch c thenOps elseOps :: rest)
        (before.visit around c.expression (.test (some captures)) :: later) ending
  /-- The pattern is not found there. -/
  | elseBranch {before : Trail} {c : Condition} {thenOps elseOps rest : List Operation}
      {later : Trail} {ending : Outcome}
      (hmatch : c.captures? (c.expression.evalText around before.scope) = none)
      (hrest : Walk around (before ++ [before.visit around c.expression (.test none)])
        (elseOps ++ rest) later ending) :
      Walk around before (.branch c thenOps elseOps :: rest)
        (before.visit around c.expression (.test none) :: later) ending

/-- The one trail that a list of operations has, and how it ends. -/
def IsTrail (around : Surroundings) (ops : List Operation) (t : Trail) (ending : Outcome) : Prop :=
  ∀ (t' : Trail) (ending' : Outcome),
    Walk around [] ops t' ending' ↔ t' = t ∧ ending' = ending

/-- An operation list has at most one trail, every operation leaving a walk one
    way to go on. -/
theorem walk_unique {around : Surroundings} {before : Trail} {ops : List Operation}
    {t t' : Trail} {ending ending' : Outcome} (h : Walk around before ops t ending)
    (h' : Walk around before ops t' ending') : t' = t ∧ ending' = ending := by
  induction h generalizing t' ending' with
  | nil before =>
      cases h'
      exact ⟨rfl, rfl⟩
  | skipRecord before rest =>
      cases h'
      exact ⟨rfl, rfl⟩
  | set _ ih =>
      cases h' with
      | set hrest' =>
          rcases ih hrest' with ⟨rfl, rfl⟩
          exact ⟨rfl, rfl⟩
  | colorBy _ ih =>
      cases h' with
      | colorBy hrest' =>
          rcases ih hrest' with ⟨rfl, rfl⟩
          exact ⟨rfl, rfl⟩
  | thenBranch hmatch _ ih =>
      -- Both walks have put the condition to the same text.
      cases h' with
      | thenBranch hmatch' hrest' =>
          rw [hmatch, Option.some.injEq] at hmatch'
          subst hmatch'
          rcases ih hrest' with ⟨rfl, rfl⟩
          exact ⟨rfl, rfl⟩
      | elseBranch hmatch' _ =>
          rw [hmatch] at hmatch'
          cases hmatch'
  | elseBranch hmatch _ ih =>
      cases h' with
      | thenBranch hmatch' _ =>
          rw [hmatch] at hmatch'
          cases hmatch'
      | elseBranch _ hrest' =>
          rcases ih hrest' with ⟨rfl, rfl⟩
          exact ⟨rfl, rfl⟩

/-- The values of a trail whose first operation has been met: that operation
    has read against what came before it, and the others are as they are behind
    it. -/
theorem value_of_visit_cons {around : Surroundings} {before : Trail} {e : Expression}
    {effect : Effect} {later : Trail}
    (hlater : ∀ (front : Trail) (v : Visit) (back : Trail), later = front ++ v :: back →
      v.value = v.expression.eval around
        (Trail.scope (before ++ [before.visit around e effect] ++ front))) :
    ∀ (front : Trail) (v : Visit) (back : Trail),
      before.visit around e effect :: later = front ++ v :: back →
      v.value = v.expression.eval around (Trail.scope (before ++ front)) := by
  intro front v back hsplit
  cases front with
  | nil =>
      rw [List.nil_append, List.cons.injEq] at hsplit
      rw [← hsplit.1, List.append_nil]
      rfl
  | cons first front =>
      rw [List.cons_append, List.cons.injEq] at hsplit
      rw [← hsplit.1, List.append_cons]
      exact hlater front v back hsplit.2

/-- Every expression on a trail is read against the bindings that precede it
    there, and against nothing else that the pass does. -/
theorem walk_value {around : Surroundings} {before : Trail} {ops : List Operation} {t : Trail}
    {ending : Outcome} (h : Walk around before ops t ending) :
    ∀ (front : Trail) (v : Visit) (back : Trail), t = front ++ v :: back →
      v.value = v.expression.eval around (Trail.scope (before ++ front)) := by
  induction h with
  | nil before =>
      intro front v back hsplit
      cases front <;> cases hsplit
  | skipRecord before rest =>
      intro front v back hsplit
      cases front <;> cases hsplit
  | set _ ih => exact value_of_visit_cons ih
  | colorBy _ ih => exact value_of_visit_cons ih
  | thenBranch _ _ ih => exact value_of_visit_cons ih
  | elseBranch _ _ ih => exact value_of_visit_cons ih

/-! ### Walking across a list -/

/-- A list of operations can be walked across, whatever follows it: where it
    does not drop the record, any walk over what follows completes it, and where
    it does, nothing has to. -/
def Crosses (around : Surroundings) (before : Trail) (ops : List Operation) (t : Trail) :
    Outcome → Prop
  | .done => ∀ (rest : List Operation) (later : Trail) (ending : Outcome),
      Walk around (before ++ t) rest later ending →
      Walk around before (ops ++ rest) (t ++ later) ending
  | .skipped => ∀ rest : List Operation, Walk around before (ops ++ rest) t .skipped

/-- Crossing a list with nothing behind it is a walk over it. -/
theorem walk_of_crosses {around : Surroundings} {before : Trail} {ops : List Operation} {t : Trail}
    {ending : Outcome} (h : Crosses around before ops t ending) :
    Walk around before ops t ending := by
  cases ending with
  | done =>
      have hwalk := h [] [] .done (Walk.nil (before ++ t))
      rwa [List.append_nil, List.append_nil] at hwalk
  | skipped =>
      have hwalk := h []
      rwa [List.append_nil] at hwalk

theorem crosses_nil (around : Surroundings) (before : Trail) :
    Crosses around before [] [] .done := by
  intro rest later ending hwalk
  rwa [List.append_nil] at hwalk

/-- Two lists are crossed one after the other if the first does not drop the
    record. -/
theorem crosses_append {around : Surroundings} {before : Trail} {xs ys : List Operation}
    {t u : Trail} {ending : Outcome} (hxs : Crosses around before xs t .done)
    (hys : Crosses around (before ++ t) ys u ending) :
    Crosses around before (xs ++ ys) (t ++ u) ending := by
  cases ending with
  | done =>
      intro rest later ending hwalk
      rw [← List.append_assoc] at hwalk
      rw [List.append_assoc, List.append_assoc]
      exact hxs _ _ _ (hys rest later ending hwalk)
  | skipped =>
      intro rest
      rw [List.append_assoc]
      exact hxs _ _ _ (hys rest)

/-- A list that drops the record is crossed by itself. -/
theorem crosses_append_of_skipped {around : Surroundings} {before : Trail}
    {xs : List Operation} {t : Trail} (hxs : Crosses around before xs t .skipped)
    (ys : List Operation) : Crosses around before (xs ++ ys) t .skipped := by
  intro rest
  rw [List.append_assoc]
  exact hxs (ys ++ rest)

/-- An operation is crossed by meeting it and crossing what it puts in front of
    the operations behind it: the branch taken, or nothing. -/
theorem crosses_of_visit {around : Surroundings} {before : Trail} {op : Operation} {v : Visit}
    {ops : List Operation} {t : Trail} {ending : Outcome}
    (hstep : ∀ (rest : List Operation) (later : Trail) (ending : Outcome),
      Walk around (before ++ [v]) (ops ++ rest) later ending →
      Walk around before (op :: rest) (v :: later) ending)
    (hcross : Crosses around (before ++ [v]) ops t ending) :
    Crosses around before [op] (v :: t) ending := by
  cases ending with
  | done =>
      intro rest later ending hwalk
      rw [List.append_cons] at hwalk
      exact hstep rest (t ++ later) ending (hcross rest later ending hwalk)
  | skipped =>
      intro rest
      exact hstep rest t .skipped (hcross rest)

/-! ### What a pass makes of a trail -/

namespace Trail

/-- What a pass leaves that has gone along a trail and ended in the given
    way. -/
def pass (t : Trail) (ending : Outcome) : Pass := ⟨ending, t.scope, t.color⟩

theorem scope_append (t u : Trail) : (t ++ u).scope = Bindings.setAll t.scope u.bindings := by
  unfold scope bindings
  rw [List.flatMap_append, Bindings.ofList_append]

theorem color_append (t u : Trail) : (t ++ u).color = u.color.or t.color := by
  unfold color
  rw [List.filterMap_append, List.getLast?_append]

/-- A visit adds its bindings to the variables and hides the older color with
    its own. -/
theorem pass_append_visit (t : Trail) (v : Visit) (ending : Outcome) :
    Trail.pass (t ++ [v]) ending =
      ⟨ending, Bindings.setAll t.scope v.bindings, v.color?.or t.color⟩ := by
  have hbindings : Trail.bindings [v] = v.bindings := by
    simp only [bindings, List.flatMap_cons, List.flatMap_nil, List.append_nil]
  have hcolor : Trail.color [v] = v.color? := by
    cases hv : v.color? <;> simp only [color, List.filterMap_cons, List.filterMap_nil, hv] <;> rfl
  rw [pass, scope_append, color_append, hbindings, hcolor]

end Trail

/-- A pass has gone from one trail along operations and left what they make of
    it. -/
def Follows (around : Surroundings) (before : Trail) (ops : List Operation) (p : Pass) : Prop :=
  ∃ (t : Trail) (ending : Outcome),
    p = Trail.pass (before ++ t) ending ∧ Crosses around before ops t ending

theorem follows_nil (around : Surroundings) (before : Trail) :
    Follows around before [] (before.pass .done) := by
  refine ⟨[], .done, ?_, crosses_nil around before⟩
  rw [List.append_nil]

/-- A pass that follows what an operation has put in front, from behind the
    visit of the operation, follows the operation. -/
theorem follows_of_visit {around : Surroundings} {before : Trail} {op : Operation} {v : Visit}
    {ops : List Operation} {p : Pass}
    (hstep : ∀ (rest : List Operation) (later : Trail) (ending : Outcome),
      Walk around (before ++ [v]) (ops ++ rest) later ending →
      Walk around before (op :: rest) (v :: later) ending)
    (hfollows : Follows around (before ++ [v]) ops p) : Follows around before [op] p := by
  rcases hfollows with ⟨t, ending, hpass, hcross⟩
  refine ⟨v :: t, ending, ?_, crosses_of_visit hstep hcross⟩
  rw [List.append_cons]
  exact hpass

theorem follows_set (around : Surroundings) (before : Trail) (target : String) (e : Expression) :
    Follows around before [.set target e]
      ((Step.set target e).run around (before.pass .done)) := by
  have hrun : (Step.set target e).run around (before.pass .done) =
      Trail.pass (before ++ [before.visit around e (.set target)]) .done := by
    rw [Trail.pass_append_visit]
    rfl
  rw [hrun]
  exact follows_of_visit (fun _ _ _ => Walk.set) (follows_nil around _)

theorem follows_colorBy (around : Surroundings) (before : Trail) (e : Expression) :
    Follows around before [.colorBy e] ((Step.colorBy e).run around (before.pass .done)) := by
  have hrun : (Step.colorBy e).run around (before.pass .done) =
      Trail.pass (before ++ [before.visit around e .colorBy]) .done := by
    rw [Trail.pass_append_visit, Step.run, Expression.evalText_eq]
    rfl
  rw [hrun]
  exact follows_of_visit (fun _ _ _ => Walk.colorBy) (follows_nil around _)

theorem follows_skipRecord (around : Surroundings) (before : Trail) :
    Follows around before [.skipRecord] (Step.skip.run around (before.pass .done)) := by
  refine ⟨[], .skipped, ?_, fun rest => Walk.skipRecord before rest⟩
  rw [List.append_nil]
  rfl

/-- An `if` follows the branch that is taken. A pass that has only matched is as
    it was before, up to the variables that the groups of the match bind. -/
theorem follows_branch {around : Surroundings} {before : Trail} {c : Condition}
    {thenOps elseOps : List Operation} {pattern : Pattern} {thenSteps elseSteps : List Step}
    (hpattern : ∀ text, c.captures? text = pattern.captures text)
    (hthen : ∀ behind : Trail, Follows around behind thenOps
      (Step.runList around thenSteps (behind.pass .done)))
    (helse : ∀ behind : Trail, Follows around behind elseOps
      (Step.runList around elseSteps (behind.pass .done))) :
    Follows around before [.branch c thenOps elseOps]
      ((Step.branch c.expression pattern thenSteps elseSteps).run around (before.pass .done)) := by
  have hmatch := hpattern (c.expression.evalText around before.scope)
  have hscope : (before.pass .done).transient = before.scope := rfl
  rw [Step.run, hscope]
  cases hfound : pattern.captures (c.expression.evalText around before.scope) with
  | none =>
      -- A visit that binds nothing leaves the pass as it was.
      have hstart : before.pass .done =
          Trail.pass (before ++ [before.visit around c.expression (.test none)]) .done := by
        rw [Trail.pass_append_visit]
        rfl
      rw [hfound] at hmatch
      refine follows_of_visit (fun _ _ _ => Walk.elseBranch hmatch) ?_
      simp only [hstart]
      exact helse _
  | some captures =>
      -- Binding the groups is what the visit does, read off the pass.
      have hstart : (before.pass .done).bindAll captures =
          Trail.pass (before ++ [before.visit around c.expression (.test (some captures))])
            .done := by
        rw [Trail.pass_append_visit]
        rfl
      rw [hfound] at hmatch
      refine follows_of_visit (fun _ _ _ => Walk.thenBranch hmatch) ?_
      simp only [hstart]
      exact hthen _

/-- Steps follow one another as long as no step drops the record. -/
theorem follows_cons {around : Surroundings} {before : Trail} {op : Operation}
    {rest : List Operation} {step : Step} {restSteps : List Step}
    (hop : Follows around before [op] (step.run around (before.pass .done)))
    (hrest : ∀ behind : Trail, Follows around behind rest
      (Step.runList around restSteps (behind.pass .done))) :
    Follows around before (op :: rest)
      (Step.runList around (step :: restSteps) (before.pass .done)) := by
  rcases hop with ⟨t, ending, hpass, hcross⟩
  rw [Step.runList, hpass]
  cases ending with
  | skipped =>
      -- The remaining steps do not run, and the walk has ended for good.
      exact ⟨t, .skipped, rfl, crosses_append_of_skipped hcross rest⟩
  | done =>
      rcases hrest (before ++ t) with ⟨u, ending, hpass', hcross'⟩
      refine ⟨t ++ u, ending, ?_, crosses_append hcross hcross'⟩
      rw [← List.append_assoc]
      exact hpass'

mutual

/-- A compiled operation follows the operation that it comes from. The
    induction is on the operation and not on the step, since the trail is one of
    operations. -/
theorem run_follows (around : Surroundings) (place : Path) (before : Trail) :
    ∀ (op : Operation) {step : Step}, op.compile place = .ok step →
      Follows around before [op] (step.run around (before.pass .done))
  | .branch c thenOps elseOps, step, h => by
      rcases Operation.compile_branch_eq_ok h with
        ⟨_, thenPlace, elsePlace, pattern, thenSteps, elseSteps, hpattern, hthen, helse, rfl⟩
      exact follows_branch (Condition.captures?_of_compile hpattern)
        (fun behind => runList_follows around thenPlace behind thenOps hthen)
        (fun behind => runList_follows around elsePlace behind elseOps helse)
  | .set target e, step, h => by
      rw [Operation.compile_set_eq_ok h]
      exact follows_set around before target e
  | .colorBy e, step, h => by
      rw [Operation.compile_colorBy_eq_ok h]
      exact follows_colorBy around before e
  | .skipRecord, step, h => by
      cases h
      exact follows_skipRecord around before

/-- Compiled operations follow the operations that they come from. -/
theorem runList_follows (around : Surroundings) (place : Path) (before : Trail) :
    ∀ (ops : List Operation) {i : Nat} {steps : List Step},
      Operation.compileList place i ops = .ok steps →
      Follows around before ops (Step.runList around steps (before.pass .done))
  | [], i, steps, h => by
      cases h
      exact follows_nil around before
  | op :: rest, i, steps, h => by
      rcases Operation.compileList_cons_eq_ok h with ⟨step, restSteps, hstep, hrest, rfl⟩
      exact follows_cons (run_follows around (place.element i) before op hstep)
        (fun behind => runList_follows around place behind rest hrest)

end

/-! ### The meaning of a pass -/

/-- A pass of a compiled query has exactly one trail, and leaves what the trail
    makes. -/
theorem pass_isTrail {q : Query} {compiled : CompiledQuery} (h : q.compile = .ok compiled)
    (record : LogRecord) (persistent : Scope) :
    ∃ (t : Trail) (ending : Outcome), IsTrail ⟨record, persistent⟩ q.operations t ending ∧
      compiled.pass record persistent = t.pass ending := by
  rcases runList_follows ⟨record, persistent⟩ _ [] q.operations (Query.compile_eq_ok h) with
    ⟨t, ending, hpass, hcross⟩
  refine ⟨t, ending, fun t' ending' => ⟨walk_unique (walk_of_crosses hcross), ?_⟩, hpass⟩
  rintro ⟨rfl, rfl⟩
  exact walk_of_crosses hcross

/-- The reference meaning of a pass. There is one trail for the record. Every
    expression on it is read against the bindings in front of it, whatever
    happens behind it. The pass drops the record exactly if the trail ends in a
    `skipRecord`, takes the color chosen last, and binds what the captures and
    sets of the trail bind, replayed in order over nothing: a name stands where
    it was first bound and has the value bound last. -/
theorem pass_replays_trail {q : Query} {compiled : CompiledQuery} (h : q.compile = .ok compiled)
    (record : LogRecord) (persistent : Scope) :
    ∃ (t : Trail) (ending : Outcome), IsTrail ⟨record, persistent⟩ q.operations t ending ∧
      (∀ (front : Trail) (v : Visit) (back : Trail), t = front ++ v :: back →
        v.value = v.expression.eval ⟨record, persistent⟩ front.scope) ∧
      ((compiled.pass record persistent).outcome = .skipped ↔ ending = .skipped) ∧
      (compiled.pass record persistent).color = (t.filterMap Visit.color?).getLast? ∧
      (compiled.pass record persistent).transient = Bindings.ofList t.bindings ∧
      (compiled.pass record persistent).transient.keys = (t.bindings.map Prod.fst).eraseDups ∧
      ∀ name, (compiled.pass record persistent).transient.get? name =
        lastEntry name t.bindings := by
  rcases pass_isTrail h record persistent with ⟨t, ending, htrail, hpass⟩
  have hwalk : Walk ⟨record, persistent⟩ [] q.operations t ending :=
    (htrail t ending).mpr ⟨rfl, rfl⟩
  refine ⟨t, ending, htrail, walk_value hwalk, ?_⟩
  rw [hpass]
  exact ⟨Iff.rfl, rfl, rfl, Bindings.keys_ofList t.bindings, Bindings.get?_ofList t.bindings⟩

/-- A query whose trail rebinds a name by a group, reads it in a nested
    condition and may drop the record there. -/
def nestedQuery : Query :=
  ⟨[.set "word" (.constant (.string "none")),
    .branch ⟨.record, "(?P<word>[a-z]+)=(?P<value>x)?"⟩
      [.branch ⟨.var "word", "noise"⟩ [.skipRecord, .set "late" .record] [.colorBy (.var "word")]]
      [.set "seen" (.lastVarValue "word")],
    .colorBy (.field "level")]⟩

/-- A record of noise is dropped two levels deep, after the group has taken over
    the name of the first `set`. -/
theorem pass_replays_trail_nestedQuery :
    ∃ compiled : CompiledQuery, nestedQuery.compile = .ok compiled ∧
      (compiled.pass (.ofText "a noise=") .empty).outcome = .skipped ∧
      ∃ t : Trail, IsTrail ⟨.ofText "a noise=", .empty⟩ nestedQuery.operations t .skipped ∧
        (t.bindings.map Prod.fst).eraseDups = ["word"] ∧
        lastEntry "word" t.bindings = some (.string "noise") := by
  have hrun : (nestedQuery.compile.toOption.map fun compiled =>
      let p := compiled.pass (.ofText "a noise=") .empty
      (p.outcome, p.transient.entries)) = some (.skipped, [("word", .string "noise")]) := by
    decide +kernel
  cases hc : nestedQuery.compile with
  | error e =>
      rw [hc] at hrun
      cases hrun
  | ok compiled =>
      rw [hc] at hrun
      have hpass := Option.some.inj hrun
      rw [Prod.mk.injEq] at hpass
      rcases pass_replays_trail hc (.ofText "a noise=") .empty with
        ⟨t, ending, htrail, _, houtcome, _, _, hkeys, hget⟩
      rw [houtcome.mp hpass.1] at htrail
      refine ⟨compiled, rfl, hpass.1, t, htrail, ?_, ?_⟩
      · rw [← hkeys, Bindings.keys, hpass.2]
        rfl
      · rw [← hget, Bindings.get?, hpass.2]
        rfl

end LogQuery
