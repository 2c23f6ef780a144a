import LogQuery.Proofs.Run

/-!
# Runs That Take Their Records from a Source

A run over a list has no say in when its records are taken. A lazy run has: it
takes records one by one, and what it has not taken is still there. To say of a
run what it takes from its source, and that a query that does not compile takes
nothing, the run has to be had in that form.

`FilteredRecords.collect` asks a lazy run for outputs until there are none. It
ends because every output costs at least one record (`next_shorter`). What it
collects is the output of the run over the list, and no record is left
(`collect_eq`), so `Query.runFrom` is `Query.run` with the rest of its source
(`runFrom_eq`).

## Main definitions

* `FilteredRecords.collect`: All outputs of a lazy run.
* `Query.runFrom`: Compiles a query and runs it over a source of records.

## Theorems

* `next_cons`: A dropped record passes the question on.
* `next_shorter`: An output costs at least one record.
* `collect_eq`: A lazy run gives out what the run over the list does.
* `runFrom_eq`: A run takes all records of its source, or none.
-/

namespace LogQuery

namespace FilteredRecords

theorem next_nil (run : QueryRun) : next ⟨run, []⟩ = (none, ⟨run, []⟩) := rfl

theorem next_cons (run : QueryRun) (record : LogRecord) (rest : List LogRecord) :
    next ⟨run, record :: rest⟩ =
      match (run.process record).1 with
      | some output => (some output, ⟨(run.process record).2, rest⟩)
      | none => next ⟨(run.process record).2, rest⟩ := rfl

/-- An output costs at least one record. -/
theorem next_shorter {filtered rest : FilteredRecords} {output : OutputRecord}
    (h : filtered.next = (some output, rest)) :
    rest.records.length < filtered.records.length := by
  rcases filtered with ⟨run, records⟩
  induction records generalizing run with
  | nil =>
      rw [next_nil] at h
      cases h
  | cons record others ih =>
      rw [next_cons] at h
      cases houtput : (run.process record).1 with
      | some found =>
          rw [houtput] at h
          cases h
          exact Nat.lt_succ_self _
      | none =>
          rw [houtput] at h
          exact Nat.lt_succ_of_lt (ih _ h)

/-- Takes outputs from a lazy run until there are none. -/
def collect (filtered : FilteredRecords) : List OutputRecord × FilteredRecords :=
  match _h : filtered.next with
  | (none, rest) => ([], rest)
  | (some output, rest) => (output :: rest.collect.1, rest.collect.2)
termination_by filtered.records.length
decreasing_by all_goals exact next_shorter _h

theorem collect_of_none {filtered rest : FilteredRecords} (h : filtered.next = (none, rest)) :
    filtered.collect = ([], rest) := by
  rw [collect]
  split
  · next hnext =>
    rw [h] at hnext
    cases hnext
    rfl
  · next hnext =>
    rw [h] at hnext
    cases hnext

theorem collect_of_some {filtered rest : FilteredRecords} {output : OutputRecord}
    (h : filtered.next = (some output, rest)) :
    filtered.collect = (output :: rest.collect.1, rest.collect.2) := by
  rw [collect]
  split
  · next hnext =>
    rw [h] at hnext
    cases hnext
  · next hnext =>
    rw [h] at hnext
    cases hnext
    rfl

/-- What two lazy runs collect depends on their next step only. -/
theorem collect_congr {a b : FilteredRecords} (h : a.next = b.next) : a.collect = b.collect := by
  rcases hb : b.next with ⟨output, rest⟩
  cases output with
  | none => rw [collect_of_none (h.trans hb), collect_of_none hb]
  | some output => rw [collect_of_some (h.trans hb), collect_of_some hb]

/-- A lazy run that is asked for all its outputs gives out what the run over the
    list does, and has then taken every record. -/
theorem collect_eq (run : QueryRun) (records : List LogRecord) :
    collect ⟨run, records⟩ =
      ((run.processAll records).1, ⟨(run.processAll records).2, []⟩) := by
  induction records generalizing run with
  | nil => exact collect_of_none (next_nil run)
  | cons record rest ih =>
      have hnext := next_cons run record rest
      rw [QueryRun.processAll_cons]
      cases houtput : (run.process record).1 with
      | some output =>
          rw [houtput] at hnext
          rw [collect_of_some hnext, ih]
          rfl
      | none =>
          rw [houtput] at hnext
          rw [collect_congr hnext, ih]
          rfl

end FilteredRecords

/-- Compiles a query and runs it over a source of records. Gives what the run
    gives out and what it leaves in the source. -/
def Query.runFrom (q : Query) (source : List LogRecord) :
    Except QueryError Results × List LogRecord :=
  match q.compile with
  | .error e => (.error e, source)
  | .ok compiled =>
    let (outputs, filtered) := (compiled.filter source).collect
    (.ok ⟨outputs⟩, filtered.records)

/-- A run takes nothing from its source if its query does not compile, and
    everything if it does. -/
theorem Query.runFrom_eq (q : Query) (source : List LogRecord) :
    q.runFrom source = (q.run source, if (q.run source).toOption.isSome then [] else source) := by
  unfold runFrom run
  cases q.compile with
  | error e => rfl
  | ok compiled =>
      have hcollect := FilteredRecords.collect_eq compiled.start source
      simp only [CompiledQuery.filter, hcollect]
      rfl

end LogQuery
