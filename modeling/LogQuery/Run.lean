import LogQuery.Pass

/-!
# Runs

A run takes records through a compiled query one after the other and carries
their variables along. Every pass commits what it has bound, whether its
record is dropped or not, and the pass behind it can read that.

The only state of a run is its persistent scope, so a run is a fold over the
records. It can also be had lazily: then records are taken from the source
only as far as the next output needs.

## Main definitions

* `QueryRun`: A run between two records.
* `QueryRun.process`: Takes one record through the query.
* `QueryRun.processAll`: Takes a list of records through the query.
* `CompiledQuery.run`: The output of a fresh run.
* `FilteredRecords.next`: The next output of a lazy run.
* `Query.run`: Compiles a query and runs it.
-/

namespace LogQuery

/-- A run between two records. -/
structure QueryRun where
  query : CompiledQuery
  /-- The variables as the passes so far left them. -/
  persistent : Scope
deriving Inhabited

/-- A run that has not seen a record. -/
def CompiledQuery.start (q : CompiledQuery) : QueryRun := ⟨q, .empty⟩

namespace QueryRun

/-- The output that a finished pass makes of its record. -/
def output? (record : LogRecord) (p : Pass) : Option OutputRecord :=
  match p.outcome with
  | .done => some ⟨record, p.color, p.transient⟩
  | .skipped => none

/-- Takes one record through the query. Gives its output, unless it is
    dropped. -/
def process (run : QueryRun) (record : LogRecord) : Option OutputRecord × QueryRun :=
  let p := run.query.pass record run.persistent
  (output? record p, { run with persistent := run.persistent.commit p.transient })

/-- Takes records through the query, in order. -/
def processAll (run : QueryRun) : List LogRecord → List OutputRecord × QueryRun
  | [] => ([], run)
  | record :: rest =>
    let (output, run) := run.process record
    let (outputs, run) := run.processAll rest
    (output.toList ++ outputs, run)

end QueryRun

/-- The output of a fresh run over the records. -/
def CompiledQuery.run (q : CompiledQuery) (records : List LogRecord) : Results :=
  ⟨(q.start.processAll records).1⟩

/-- Compiles a query and runs it over the records. -/
def Query.run (q : Query) (records : List LogRecord) : Except QueryError Results :=
  q.compile.map fun compiled => compiled.run records

/-! ### Lazy runs -/

/-- A run and the records that it has not taken yet. -/
structure FilteredRecords where
  run : QueryRun
  records : List LogRecord

/-- A lazy run over the records. -/
def CompiledQuery.filter (q : CompiledQuery) (records : List LogRecord) : FilteredRecords :=
  ⟨q.start, records⟩

/-- Takes records until one is not dropped. -/
def FilteredRecords.next (filtered : FilteredRecords) : Option OutputRecord × FilteredRecords :=
  go filtered.run filtered.records
where
  go (run : QueryRun) : List LogRecord → Option OutputRecord × FilteredRecords
    | [] => (none, ⟨run, []⟩)
    | record :: rest =>
      let (output, run) := run.process record
      match output with
      | some output => (some output, ⟨run, rest⟩)
      | none => go run rest

end LogQuery
