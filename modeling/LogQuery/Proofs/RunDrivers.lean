import LogQuery.Proofs.LazyRun
import Mathlib.Data.List.ReduceOption

/-!
# Ways to Drive a Run

A run can be fed by hand, one record after the other; it can be given a list of
records; and it can be asked for one output after the other, while it takes its
records from a source by itself. This module shows that nobody can tell from the
outputs which of them it was.

Feeding by hand is the measure for the other two, because it shows the answer to
every single record. The list form keeps those answers that carry an output
(`processAll_eq_feed`), and a run over two lists is a run over the first, fed on
with the second (`feed_append`).

A lazy run is a list of calls. One call takes the records up to the first that
is not dropped, and nothing behind it, or it takes all that are left
(`next_cases`). What holds of several calls follows by induction on their
number: behind a call, the lazy run is a run that has been fed what the call has
taken, so the next call starts like a first one.

## Main definitions

* `QueryRun.feed`: Feeds records to a run by hand.
* `FilteredRecords.calls`: The first outputs of a lazy run, and what is left
  behind each.

## Theorems

* `feed_append`: Feeding two lists is feeding the second behind the first.
* `processAll_eq_feed`: A run over a list gives out what it answers by hand.
* `next_cases`: How far a call goes.
* `calls_fst`: The outputs of a lazy run, and that it stays at its end.
* `calls_some`: A call goes up to the record of its output.
* `calls_none`: A call without an output has taken all records.
* `drivers_agree`: The drivers of a run give out the same.
-/

namespace LogQuery

namespace QueryRun

/-! ### By hand -/

/-- Feeds records to a run one by one. Gives the answer to each of them, which is
    missing where the record is dropped, and the run behind them. -/
def feed (run : QueryRun) : List LogRecord → List (Option OutputRecord) × QueryRun
  | [] => ([], run)
  | record :: rest =>
    let (answer, run) := run.process record
    let (answers, run) := run.feed rest
    (answer :: answers, run)

@[simp]
theorem feed_nil (run : QueryRun) : run.feed [] = ([], run) := rfl

theorem feed_cons (run : QueryRun) (record : LogRecord) (rest : List LogRecord) :
    run.feed (record :: rest) =
      ((run.process record).1 :: ((run.process record).2.feed rest).1,
        ((run.process record).2.feed rest).2) := rfl

theorem feed_append (run : QueryRun) (xs ys : List LogRecord) :
    run.feed (xs ++ ys) =
      ((run.feed xs).1 ++ ((run.feed xs).2.feed ys).1, ((run.feed xs).2.feed ys).2) := by
  induction xs generalizing run with
  | nil => rfl
  | cons record rest ih =>
      rw [List.cons_append, feed_cons, feed_cons, ih, List.cons_append]

/-- One more record is answered by the run behind those before it. -/
theorem feed_concat (run : QueryRun) (xs : List LogRecord) (record : LogRecord) :
    run.feed (xs ++ [record]) =
      ((run.feed xs).1 ++ [((run.feed xs).2.process record).1],
        ((run.feed xs).2.process record).2) := by
  rw [feed_append, feed_cons, feed_nil]

/-- A run over a list keeps the answers that carry an output. -/
theorem processAll_eq_feed (run : QueryRun) (records : List LogRecord) :
    run.processAll records = ((run.feed records).1.reduceOption, (run.feed records).2) := by
  induction records generalizing run with
  | nil => rfl
  | cons record rest ih =>
      rw [processAll_cons, feed_cons, ih]
      cases (run.process record).1 with
      | none => rfl
      | some o => rfl

end QueryRun

namespace FilteredRecords

/-! ### By calls -/

/-- A call takes the records up to the first that is not dropped, or all of them
    if there is no such record. -/
theorem next_cases (run : QueryRun) (records : List LogRecord) :
    (∃ front record rest o, records = front ++ record :: rest ∧ (run.processAll front).1 = [] ∧
      ((run.processAll front).2.process record).1 = some o ∧
      next ⟨run, records⟩ = (some o, ⟨((run.processAll front).2.process record).2, rest⟩)) ∨
    (run.processAll records).1 = [] ∧
      next ⟨run, records⟩ = (none, ⟨(run.processAll records).2, []⟩) := by
  induction records generalizing run with
  | nil => exact .inr ⟨rfl, rfl⟩
  | cons first others ih =>
      have hnext := next_cons run first others
      cases hfirst : (run.process first).1 with
      | some o =>
          rw [hfirst] at hnext
          exact .inl ⟨[], first, others, o, rfl, rfl, hfirst, hnext⟩
      | none =>
          -- The call goes on as the first call of the run behind the dropped record.
          rw [hfirst] at hnext
          have hdropped : ∀ rest, run.processAll (first :: rest) =
              (run.process first).2.processAll rest := by
            intro rest
            rw [QueryRun.processAll_cons, hfirst]
            rfl
          rcases ih (run.process first).2 with
            ⟨front, record, rest, o, rfl, hnone, hrecord, hcall⟩ | ⟨hnone, hcall⟩
          · refine .inl ⟨first :: front, record, rest, o, rfl, ?_, ?_, ?_⟩
            · rw [hdropped, hnone]
            · rw [hdropped, hrecord]
            · rw [hdropped, hnext]
              exact hcall
          · refine .inr ⟨?_, ?_⟩
            · rw [hdropped, hnone]
            · rw [hdropped, hnext]
              exact hcall

/-- Asks a lazy run for so many outputs. Gives what each call has given, and what
    it has left. -/
def calls : Nat → FilteredRecords → List (Option OutputRecord × FilteredRecords)
  | 0, _ => []
  | k + 1, filtered => filtered.next :: calls k filtered.next.2

/-- A record that is not dropped, behind records that are, heads the outputs. -/
theorem processAll_of_first {run : QueryRun} {front : List LogRecord} {record : LogRecord}
    {o : OutputRecord} (hnone : (run.processAll front).1 = [])
    (hrecord : ((run.processAll front).2.process record).1 = some o) (rest : List LogRecord) :
    run.processAll (front ++ record :: rest) =
      (o :: (((run.processAll front).2.process record).2.processAll rest).1,
        (((run.processAll front).2.process record).2.processAll rest).2) := by
  rw [QueryRun.processAll_append, hnone, QueryRun.processAll_cons, hrecord]
  rfl

/-- The calls give the outputs of the run, and nothing for ever behind the last
    of them. -/
theorem calls_fst (k : Nat) (run : QueryRun) (records : List LogRecord) :
    (calls k ⟨run, records⟩).map Prod.fst =
      ((run.processAll records).1.take k).map some ++
        List.replicate (k - (run.processAll records).1.length) none := by
  induction k generalizing run records with
  | zero =>
      rw [calls, List.take_zero, Nat.zero_sub]
      rfl
  | succ k ih =>
      rcases next_cases run records with
        ⟨front, record, rest, o, rfl, hnone, hrecord, hcall⟩ | ⟨hnone, hcall⟩
      · -- This call gives the first output, and those behind it give the others.
        have houtputs := processAll_of_first hnone hrecord rest
        rw [calls, hcall, List.map_cons, ih, houtputs, List.take_succ_cons, List.map_cons,
          List.length_cons, Nat.add_sub_add_right, List.cons_append]
      · -- Nothing is left, so the calls behind this one give nothing either.
        rw [calls, hcall, List.map_cons, ih, hnone, QueryRun.processAll_nil]
        simp only [List.take_nil, List.map_nil, List.nil_append, List.length_nil, Nat.sub_zero,
          List.replicate_succ]

/-- A call with an output has taken the records up to that of the output. -/
theorem calls_some {k j : Nat} {run : QueryRun} {records : List LogRecord} {o : OutputRecord}
    {left : FilteredRecords} (h : (calls k ⟨run, records⟩)[j]? = some (some o, left)) :
    ∃ front record, records = front ++ record :: left.records ∧
      (run.processAll front).1 = (run.processAll records).1.take j ∧
      (run.processAll front).2.process record = (some o, left.run) := by
  induction k generalizing run records j with
  | zero => cases h
  | succ k ih =>
      rw [calls] at h
      rcases next_cases run records with
        ⟨front, record, rest, first, rfl, hnone, hrecord, hcall⟩ | ⟨hnone, hcall⟩
      · rw [hcall] at h
        cases j with
        | zero =>
            rw [List.getElem?_cons_zero, Option.some.injEq, Prod.mk.injEq,
              Option.some.injEq] at h
            rcases h with ⟨rfl, rfl⟩
            refine ⟨front, record, rfl, ?_, ?_⟩
            · rw [hnone, List.take_zero]
            · rw [← hrecord]
        | succ j =>
            -- What a later call has taken comes behind what the first one has.
            rw [List.getElem?_cons_succ] at h
            rcases ih h with ⟨behind, found, hrest, houtputs, hfound⟩
            refine ⟨front ++ record :: behind, found, ?_, ?_, ?_⟩
            · simp only [hrest, List.append_assoc, List.cons_append]
            · rw [processAll_of_first hnone hrecord, processAll_of_first hnone hrecord, houtputs,
                List.take_succ_cons]
            · rw [processAll_of_first hnone hrecord]
              exact hfound
      · -- Behind a call without an output no call has one.
        have hmem := List.mem_map_of_mem (f := Prod.fst) (List.mem_of_getElem? h)
        rw [List.map_cons, hcall, calls_fst, QueryRun.processAll_nil] at hmem
        simp only [List.take_nil, List.map_nil, List.nil_append, List.mem_cons, reduceCtorEq,
          List.mem_replicate, and_false, or_self] at hmem

/-- A call without an output has taken all records. -/
theorem calls_none {k : Nat} {run : QueryRun} {records : List LogRecord} {left : FilteredRecords}
    (h : (none, left) ∈ calls k ⟨run, records⟩) :
    left.records = [] ∧ left.run = (run.processAll records).2 := by
  induction k generalizing run records with
  | zero => cases h
  | succ k ih =>
      rw [calls] at h
      rcases next_cases run records with
        ⟨front, record, rest, o, rfl, hnone, hrecord, hcall⟩ | ⟨hnone, hcall⟩
      · rw [hcall, List.mem_cons] at h
        rcases h with hfirst | hlater
        · cases hfirst
        · rw [processAll_of_first hnone hrecord]
          exact ih hlater
      · -- Behind a call that has taken all records the next ones find none.
        rw [hcall, List.mem_cons] at h
        rcases h with hfirst | hlater
        · cases hfirst
          exact ⟨rfl, rfl⟩
        · rcases ih hlater with ⟨hrecords, hrun⟩
          exact ⟨hrecords, hrun⟩

end FilteredRecords

/-- However a run is driven, it gives out the same. The calls of a lazy run give
    the outputs of the run over the list, in order, and then nothing for ever.
    With an output, a call has taken the records up to the one that is given out,
    which comes behind as many outputs as there were calls before; without one,
    it has taken all. The outputs are the answers that a fresh run gives when it
    is fed by hand, less those of dropped records; a lazy run that is asked until
    it ends gives them too; and a run over two lists gives those of the first and
    then what the same run answers to the second. -/
theorem drivers_agree (compiled : CompiledQuery) (xs ys : List LogRecord) (k : Nat) :
    let outputs := (compiled.run xs).records
    let calls := FilteredRecords.calls k (compiled.filter xs)
    calls.map Prod.fst =
      (outputs.take k).map some ++ List.replicate (k - outputs.length) none ∧
    (∀ (j : Nat) (o : OutputRecord) (left : FilteredRecords), calls[j]? = some (some o, left) →
      ∃ front record, xs = front ++ record :: left.records ∧
        (compiled.run front).records = outputs.take j ∧
        ((compiled.start.feed front).2.process record).1 = some o) ∧
    (∀ left : FilteredRecords, (none, left) ∈ calls → left.records = []) ∧
    outputs = (compiled.start.feed xs).1.reduceOption ∧
    (compiled.filter xs).collect = (outputs, ⟨(compiled.start.feed xs).2, []⟩) ∧
    (compiled.run (xs ++ ys)).records =
      outputs ++ ((compiled.start.feed xs).2.feed ys).1.reduceOption := by
  intro outputs calls
  have hfeed : ∀ records, compiled.start.processAll records =
      ((compiled.start.feed records).1.reduceOption, (compiled.start.feed records).2) :=
    compiled.start.processAll_eq_feed
  have hrun : ∀ records, (compiled.run records).records =
      (compiled.start.feed records).1.reduceOption :=
    fun records => congrArg Prod.fst (hfeed records)
  refine ⟨FilteredRecords.calls_fst k compiled.start xs, ?_, ?_, hrun xs, ?_, ?_⟩
  · intro j o left hcall
    rcases FilteredRecords.calls_some hcall with ⟨front, record, hxs, houtputs, hrecord⟩
    refine ⟨front, record, hxs, houtputs, ?_⟩
    rw [hfeed] at hrecord
    rw [hrecord]
  · intro left hcall
    exact (FilteredRecords.calls_none hcall).1
  · have hcollect := FilteredRecords.collect_eq compiled.start xs
    rw [hfeed, ← hrun] at hcollect
    exact hcollect
  · have happend : (compiled.run (xs ++ ys)).records =
        (compiled.run xs).records ++ ((compiled.start.feed xs).2.feed ys).1.reduceOption := by
      rw [hrun, hrun xs, QueryRun.feed_append, List.reduceOption_append]
    exact happend

/-- The first call passes over the first record, which is dropped, and leaves the
    last one. -/
theorem drivers_agree_nestedRecords :
    ∃ compiled o left, nestedQuery.compile = .ok compiled ∧
      (FilteredRecords.calls 3 (compiled.filter nestedRecords))[0]? = some (some o, left) ∧
      left.records = [.ofText "0"] ∧
      ∃ front record, nestedRecords = front ++ record :: left.records ∧
        (compiled.run front).records = [] := by
  have hcall : (nestedQuery.compile.toOption.bind fun compiled =>
      (FilteredRecords.calls 3 (compiled.filter nestedRecords))[0]?.map fun call =>
        (call.1.isSome, call.2.records)) = some (true, [.ofText "0"]) := by
    decide +kernel
  cases hc : nestedQuery.compile with
  | error e =>
      rw [hc] at hcall
      cases hcall
  | ok compiled =>
      rw [hc] at hcall
      have hfound : ((FilteredRecords.calls 3 (compiled.filter nestedRecords))[0]?.map fun call =>
          (call.1.isSome, call.2.records)) = some (true, [.ofText "0"]) := hcall
      rcases Option.map_eq_some_iff.mp hfound with ⟨⟨answer, left⟩, hfirst, hleft⟩
      rcases Prod.mk.inj hleft with ⟨hanswer, hrecords⟩
      rcases Option.isSome_iff_exists.mp hanswer with ⟨o, rfl⟩
      rcases (drivers_agree compiled nestedRecords [] 3).2.1 0 o left hfirst with
        ⟨front, record, hsplit, houtputs, _⟩
      exact ⟨compiled, o, left, rfl, hfirst, hrecords, front, record, hsplit, houtputs⟩

end LogQuery
