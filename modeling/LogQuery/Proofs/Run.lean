import LogQuery.Run
import LogQuery.Proofs.Trail

/-!
# What a Run Remembers

A run is its passes, one after the other, and all that one pass can know of
another is what stands in the persistent scope between them. This module says
what stands there without following the commits: a name has the value that the
latest pass to bind it left it with, whether the record of that pass went to
the output or not, and the names stand in the order in which they were first
committed.

`passes` keeps what the run itself throws away, every pass with what it was
read against. Committing is a replay of bindings, and replays compose, so the
persistent scope behind any number of passes is the replay of everything that
they have bound (`persistent_processAll`). Everything else is read off that
list: the latest binding of a name is its last entry there, and the order is
that of first occurrence.

Within a pass the trail tells the two kinds of variable apart. A visit that
reads `lastVarValue` gets what the passes before have left, however often its
own pass has bound the name by then; one that reads `var` gets what its own
trail has bound in front of it, and nothing from earlier passes.

## Main definitions

* `RunPass`: A pass of a run, with what it was read against.
* `QueryRun.passes`: The passes of a run over records.
* `latest?`: The value that the latest of some passes gave a name.
* `ReadsPast`: How the expressions of a pass see the passes before it.

## Theorems

* `processAll_append`: A run over two lists is two runs, one after the other.
* `persistent_processAll`: The persistent scope replays what was bound.
* `passes_split`: A pass is read against what the passes before it bound.
* `output_processAll`: The output is that of the passes that did not drop.
* `record_of_mem_processAll`: The output has no other records than the input.
* `run_remembers`: The memory of a run, in closed form.
-/

namespace LogQuery

namespace QueryRun

/-! ### Runs in pieces -/

@[simp]
theorem processAll_nil (run : QueryRun) : run.processAll [] = ([], run) := rfl

theorem processAll_cons (run : QueryRun) (record : LogRecord) (rest : List LogRecord) :
    run.processAll (record :: rest) =
      ((run.process record).1.toList ++ ((run.process record).2.processAll rest).1,
        ((run.process record).2.processAll rest).2) := rfl

/-- A run over two lists of records is a run over the first, continued over the
    second. -/
theorem processAll_append (run : QueryRun) (xs ys : List LogRecord) :
    run.processAll (xs ++ ys) =
      ((run.processAll xs).1 ++ ((run.processAll xs).2.processAll ys).1,
        ((run.processAll xs).2.processAll ys).2) := by
  induction xs generalizing run with
  | nil =>
      rfl
  | cons record rest ih =>
      rw [List.cons_append, processAll_cons, processAll_cons, ih, List.append_assoc]

end QueryRun

/-! ### The passes of a run -/

/-- A pass of a run. -/
structure RunPass where
  /-- The record, and the variables as the passes before left them. -/
  around : Surroundings
  /-- What the pass has left. -/
  left : Pass

/-- The output of a pass: its record, unless it has been dropped, with the color
    and the variables of this very pass. -/
def RunPass.output? (p : RunPass) : Option OutputRecord :=
  if p.left.outcome = .done then some ⟨p.around.record, p.left.color, p.left.transient⟩ else none

/-- The value that the latest of some passes to bind a name left it with. -/
def latest? (passes : List RunPass) (name : String) : Option Value :=
  passes.reverse.findSome? fun p => p.left.transient.get? name

/-- Everything that passes have left bound, pass by pass. -/
def bindingsLeft (passes : List RunPass) : List (String × Value) :=
  passes.flatMap fun p => p.left.transient.entries

theorem lastEntry_bindingsLeft (passes : List RunPass) (name : String) :
    lastEntry name (bindingsLeft passes) = latest? passes name := by
  unfold bindingsLeft latest?
  induction passes with
  | nil =>
      rfl
  | cons p rest ih =>
      rw [List.flatMap_cons, lastEntry_append, ih, List.reverse_cons, List.findSome?_append,
        lastEntry_of_nodup name _ p.left.transient.nodup]
      cases hp : p.left.transient.get? name with
      | none =>
          rw [show lookupEntry name p.left.transient.entries = none from hp]
          simp only [List.findSome?_cons, hp, List.findSome?_nil]
      | some value =>
          rw [show lookupEntry name p.left.transient.entries = some value from hp]
          simp only [List.findSome?_cons, hp]

theorem names_bindingsLeft (passes : List RunPass) :
    (bindingsLeft passes).map Prod.fst = passes.flatMap fun p => p.left.transient.keys :=
  List.map_flatMap

namespace QueryRun

/-- The passes that a run makes over records. -/
def passes (run : QueryRun) : List LogRecord → List RunPass
  | [] => []
  | record :: rest =>
    ⟨⟨record, run.persistent⟩, run.query.pass record run.persistent⟩ ::
      (run.process record).2.passes rest

theorem records_passes (run : QueryRun) (records : List LogRecord) :
    (run.passes records).map (fun p => p.around.record) = records := by
  induction records generalizing run with
  | nil =>
      rfl
  | cons record rest ih =>
      rw [passes, List.map_cons, ih]

theorem take_passes (run : QueryRun) (records : List LogRecord) (i : Nat) :
    (run.passes records).take i = run.passes (records.take i) := by
  induction records generalizing run i with
  | nil =>
      rw [passes, List.take_nil, List.take_nil, passes]
  | cons record rest ih =>
      cases i with
      | zero =>
          rfl
      | succ k =>
          rw [passes, List.take_succ_cons, List.take_succ_cons, ih, passes]

/-- The persistent scope behind some passes is what they have bound, replayed
    over the scope in front of them. Dropped records take part in it like any
    other. -/
theorem persistent_processAll (run : QueryRun) (records : List LogRecord) :
    (run.processAll records).2.persistent =
      Bindings.setAll run.persistent (bindingsLeft (run.passes records)) := by
  induction records generalizing run with
  | nil =>
      rfl
  | cons record rest ih =>
      rw [processAll_cons, ih, passes, bindingsLeft, bindingsLeft, List.flatMap_cons,
        Bindings.setAll_append]
      rfl

/-- A pass is read against what the passes before it have bound, and is the
    query's pass of its record there. -/
theorem passes_split (run : QueryRun) (records : List LogRecord) (earlier : List RunPass)
    (p : RunPass) (later : List RunPass) (h : run.passes records = earlier ++ p :: later) :
    p.around.persistent = Bindings.setAll run.persistent (bindingsLeft earlier) ∧
      p.left = run.query.pass p.around.record p.around.persistent := by
  induction records generalizing run earlier with
  | nil =>
      cases earlier <;> cases h
  | cons record rest ih =>
      rw [passes] at h
      cases earlier with
      | nil =>
          rw [List.nil_append, List.cons.injEq] at h
          rw [← h.1]
          exact ⟨rfl, rfl⟩
      | cons first earlier =>
          -- The passes behind the first one are those of a run that goes on from it.
          rw [List.cons_append, List.cons.injEq] at h
          rcases ih (run.process record).2 earlier h.2 with ⟨hpersistent, hleft⟩
          refine ⟨?_, hleft⟩
          rw [hpersistent, bindingsLeft, bindingsLeft, List.flatMap_cons, Bindings.setAll_append,
            ← h.1]
          rfl

/-- A run gives out what its passes give out, in the order of the records. -/
theorem output_processAll (run : QueryRun) (records : List LogRecord) :
    (run.processAll records).1 = (run.passes records).filterMap RunPass.output? := by
  induction records generalizing run with
  | nil =>
      rfl
  | cons record rest ih =>
      have houtput : (run.process record).1 =
          RunPass.output? ⟨⟨record, run.persistent⟩, run.query.pass record run.persistent⟩ := by
        unfold process output? RunPass.output?
        cases houtcome : (run.query.pass record run.persistent).outcome <;> simp only [houtcome]
        · rfl
        · rfl
      rw [processAll_cons, ih, passes, houtput, List.filterMap_cons]
      cases RunPass.output? _ <;> rfl

/-- A run gives out records that it has been given. -/
theorem record_of_mem_processAll (run : QueryRun) {records : List LogRecord} {o : OutputRecord}
    (h : o ∈ (run.processAll records).1) : o.record ∈ records := by
  rw [output_processAll] at h
  rcases List.mem_filterMap.mp h with ⟨p, hp, hout⟩
  rw [← run.records_passes records]
  unfold RunPass.output? at hout
  split at hout
  · cases hout
    exact List.mem_map.mpr ⟨p, hp, rfl⟩
  · cases hout

end QueryRun

/-! ### The memory of a run -/

/-- How the expressions of a pass see the passes before it. -/
structure ReadsPast (q : Query) (earlier : List RunPass) (p : RunPass) (t : Trail) : Prop where
  /-- The pass has gone along the trail and has ended as the trail does. -/
  isTrail : IsTrail p.around q.operations t p.left.outcome
  /-- What the pass has bound are the captures and sets of its trail. -/
  bound : ∀ name, p.left.transient.get? name = lastEntry name t.bindings
  /-- The value from the latest earlier pass that bound the name, no matter what
      the pass itself has bound. -/
  lastVarValue : ∀ (front : Trail) (v : Visit) (back : Trail) (name : String),
    t = front ++ v :: back → v.expression = .lastVarValue name →
    v.value = (latest? earlier name).getD .absent
  /-- The value bound last on the way of the pass itself. -/
  var : ∀ (front : Trail) (v : Visit) (back : Trail) (name : String),
    t = front ++ v :: back → v.expression = .var name →
    v.value = (lastEntry name front.bindings).getD .absent

/-- A pass that is read against what earlier passes have bound, and nothing
    else, reads past them. -/
theorem readsPast_of_persistent {q : Query} {compiled : CompiledQuery}
    (h : q.compile = .ok compiled) {earlier : List RunPass} {p : RunPass}
    (hpersistent : p.around.persistent = Bindings.ofList (bindingsLeft earlier))
    (hleft : p.left = compiled.pass p.around.record p.around.persistent) :
    ∃ t : Trail, ReadsPast q earlier p t := by
  rcases pass_isTrail h p.around.record p.around.persistent with ⟨t, ending, htrail, hpass⟩
  rw [← hleft] at hpass
  have hwalk : Walk p.around [] q.operations t ending := (htrail t ending).mpr ⟨rfl, rfl⟩
  refine ⟨t, ?_, ?_, ?_, ?_⟩
  · rw [hpass]
    exact htrail
  · intro name
    rw [hpass]
    exact Bindings.get?_ofList t.bindings name
  · -- Nothing in the value depends on the trail in front of the visit.
    intro front v back name hsplit hread
    rw [walk_value hwalk front v back hsplit, hread, Expression.eval, Scope.read, hpersistent,
      Bindings.get?_ofList, lastEntry_bindingsLeft]
  · intro front v back name hsplit hread
    rw [walk_value hwalk front v back hsplit, hread, Expression.eval, Scope.read,
      List.nil_append, Trail.scope, Bindings.get?_ofList]

/-- The memory of a run. Wherever a pass reads `lastVarValue`, it gets the value
    that the name had at the end of the latest earlier pass that bound it, and
    wherever it reads `var`, it gets what it has bound itself by then. Behind any
    number of passes the persistent scope holds for every name its latest
    binding, the names in the order of their first commit. The run gives out
    exactly the records whose passes did not drop them, in order. -/
theorem run_remembers {q : Query} {compiled : CompiledQuery} (h : q.compile = .ok compiled)
    (records : List LogRecord) :
    (∀ (earlier : List RunPass) (p : RunPass) (later : List RunPass),
      compiled.start.passes records = earlier ++ p :: later → ∃ t : Trail, ReadsPast q earlier p t) ∧
    (∀ i : Nat,
      (∀ name, (compiled.start.processAll (records.take i)).2.persistent.get? name =
        latest? ((compiled.start.passes records).take i) name) ∧
      (compiled.start.processAll (records.take i)).2.persistent.keys =
        (((compiled.start.passes records).take i).flatMap
          fun p => p.left.transient.keys).eraseDups) ∧
    (compiled.start.passes records).map (fun p => p.around.record) = records ∧
    (compiled.start.processAll records).1 =
      (compiled.start.passes records).filterMap RunPass.output? := by
  have hscope : ∀ passes : List RunPass,
      Bindings.setAll compiled.start.persistent (bindingsLeft passes) =
        Bindings.ofList (bindingsLeft passes) := fun _ => rfl
  refine ⟨?_, ?_, compiled.start.records_passes records, compiled.start.output_processAll records⟩
  · intro earlier p later hsplit
    rcases compiled.start.passes_split records earlier p later hsplit with ⟨hpersistent, hleft⟩
    rw [hscope] at hpersistent
    exact readsPast_of_persistent h hpersistent hleft
  · intro i
    rw [QueryRun.persistent_processAll, QueryRun.take_passes, hscope]
    constructor
    · intro name
      rw [Bindings.get?_ofList, lastEntry_bindingsLeft]
    · rw [Bindings.keys_ofList, names_bindingsLeft]

/-- Three records of the nested query, the first of which is dropped behind its
    captures and the last of which rebinds a name that it has read from before. -/
def nestedRecords : List LogRecord := [.ofText "a noise=", .ofText "quiet=x", .ofText "0"]

/-- The dropped record is remembered until the second one binds the name again,
    and the third one hides both. -/
theorem run_remembers_nestedRecords :
    ∃ compiled : CompiledQuery, nestedQuery.compile = .ok compiled ∧
      latest? ((compiled.start.passes nestedRecords).take 1) "word" = some (.string "noise") ∧
      latest? ((compiled.start.passes nestedRecords).take 2) "word" = some (.string "quiet") ∧
      ((compiled.start.passes nestedRecords).flatMap
        fun p => p.left.transient.keys).eraseDups = ["word", "value", "seen"] ∧
      ((compiled.start.passes nestedRecords).filterMap RunPass.output?).map (fun o => o.record) =
        [.ofText "quiet=x", .ofText "0"] := by
  have hrun : (nestedQuery.compile.toOption.map fun compiled =>
      let behind := fun i => (compiled.start.processAll (nestedRecords.take i)).2.persistent
      (((behind 1).get? "word", (behind 2).get? "word"), (behind 3).keys,
        (compiled.start.processAll nestedRecords).1.map (fun o => o.record))) =
      some ((some (.string "noise"), some (.string "quiet")), ["word", "value", "seen"],
        [.ofText "quiet=x", .ofText "0"]) := by
    decide +kernel
  cases hc : nestedQuery.compile with
  | error e =>
      rw [hc] at hrun
      cases hrun
  | ok compiled =>
      rw [hc] at hrun
      have hrun' := Option.some.inj hrun
      simp only [Prod.mk.injEq] at hrun'
      rcases hrun' with ⟨⟨hfirst, hsecond⟩, hkeys, houtput⟩
      rcases run_remembers hc nestedRecords with ⟨_, hscope, _, hemitted⟩
      refine ⟨compiled, rfl, ?_, ?_, ?_, ?_⟩
      · rw [← (hscope 1).1, hfirst]
      · rw [← (hscope 2).1, hsecond]
      · rw [← hkeys, (hscope 3).2, QueryRun.take_passes]
        rfl
      · rw [← hemitted, houtput]

end LogQuery
