import LogQuery.Proofs.Run
import LogQuery.Proofs.Stream.Turns

/-!
# A Stream Is a Run Over Its Records

A stream reads, checks, parses, runs, writes and counts one line at a time. A
run knows nothing of lines. This module shows that a stream that goes on
without its bad lines is the run over the records that its lines carry,
followed by one formatter that writes what the run gives out.

`Advances` compares two states of a stream with some lines between them. It
says what becomes of everything that a stream carries along: the run has gone
over the records of these lines, the formatter has written what the run gave
out, the sink has the bytes of that, and the counts have grown by what the
lines are. It holds of no line at all, it holds of a single line in each of its
three fates (`takeLine_advances`), and it composes (`advances_append`), so it
holds of all lines of an input.

A bad line and a blank one add no record, so nothing but the counts can tell
that they were there: the variables of the run are those of a run that has not
seen them.

## Main definitions

* `OutputFormatter.writeAll`: What a formatter writes for several records.
* `Advances`: What a stream has made of some lines.

## Theorems

* `writeAll_append`: A formatter writes on where it has stopped.
* `advances_append`: A stream advances over two lists, one after the other.
* `takeLine_of_room`: What a record does to a stream whose sink does not fail.
* `takeLine_advances`, `takeLines_advances`: A stream advances over its lines.
* `runStream_advances`: A stream that can read and write ends well.
* `process_refines_run`: A stream writes what a run over its records gives out.
-/

namespace LogQuery

/-! ### Writing several records -/

namespace OutputFormatter

/-- The bytes that a formatter writes for some records, one after the other, and
    the formatter behind them. -/
def writeAll (f : OutputFormatter) : List OutputRecord → Bytes × OutputFormatter
  | [] => ([], f)
  | o :: rest =>
    (Utf8.ofString (f.write o).1 ++ ((f.write o).2.writeAll rest).1,
      ((f.write o).2.writeAll rest).2)

theorem writeAll_append (f : OutputFormatter) (xs ys : List OutputRecord) :
    f.writeAll (xs ++ ys) =
      ((f.writeAll xs).1 ++ ((f.writeAll xs).2.writeAll ys).1,
        ((f.writeAll xs).2.writeAll ys).2) := by
  induction xs generalizing f with
  | nil =>
      rfl
  | cons o rest ih =>
      rw [List.cons_append, writeAll, ih, writeAll, List.append_assoc]

theorem writeAll_singleton (f : OutputFormatter) (o : OutputRecord) :
    f.writeAll [o] = (Utf8.ofString (f.write o).1, (f.write o).2) := by
  simp only [writeAll, List.append_nil]

end OutputFormatter

/-! ### Advancing over lines -/

namespace StreamConfig

/-- The records that lines carry, in order. -/
def records (config : StreamConfig) (lines : List Bytes) : List LogRecord :=
  lines.filterMap config.record?

theorem records_append (config : StreamConfig) (xs ys : List Bytes) :
    config.records (xs ++ ys) = config.records xs ++ config.records ys :=
  List.filterMap_append

end StreamConfig

/-- What a run over the records of some lines gives out. -/
def StreamState.outputs (config : StreamConfig) (s : StreamState) (lines : List Bytes) :
    List OutputRecord :=
  (s.run.processAll (config.records lines)).1

/-- A stream has taken some lines on its way from one state to another. -/
structure Advances (config : StreamConfig) (s : StreamState) (lines : List Bytes)
    (s' : StreamState) : Prop where
  /-- The run has gone over the records that the lines carry, and over nothing
      else. -/
  run : s'.run = (s.run.processAll (config.records lines)).2
  formatter : s'.formatter = (s.formatter.writeAll (s.outputs config lines)).2
  written : s'.sink.written.toList =
    s.sink.written.toList ++ (s.formatter.writeAll (s.outputs config lines)).1
  /-- The sink fails no sooner and no later than before. -/
  room : s'.sink.room = s.sink.room
  flushFailure : s'.sink.flushFailure = s.sink.flushFailure
  linesSeen : s'.statistics.linesSeen = s.statistics.linesSeen + lines.length
  processed : s'.statistics.processed = s.statistics.processed + (config.records lines).length
  output : s'.statistics.output = s.statistics.output + (s.outputs config lines).length
  /-- Every record is either given out or dropped. -/
  skipped : s'.statistics.skipped + (s.outputs config lines).length =
    s.statistics.skipped + (config.records lines).length
  errors : s'.statistics.errors =
    s.statistics.errors + lines.countP fun line => (config.complaint? line).isSome
  badLines : s'.statistics.badLines.toList =
    s.statistics.badLines.toList ++ config.badLinesFrom (s.statistics.linesSeen + 1) lines

theorem advances_nil (config : StreamConfig) (s : StreamState) : Advances config s [] s where
  run := rfl
  formatter := rfl
  written := (List.append_nil _).symm
  room := rfl
  flushFailure := rfl
  linesSeen := rfl
  processed := rfl
  output := rfl
  skipped := rfl
  errors := rfl
  badLines := (List.append_nil _).symm

/-- A stream that has advanced over some lines and then over others has advanced
    over both. -/
theorem advances_append {config : StreamConfig} {s s₁ s₂ : StreamState} {xs ys : List Bytes}
    (hxs : Advances config s xs s₁) (hys : Advances config s₁ ys s₂) :
    Advances config s (xs ++ ys) s₂ := by
  have hrecords := config.records_append xs ys
  -- The second run goes on from where the first has stopped.
  have houtputs : s.outputs config (xs ++ ys) = s.outputs config xs ++ s₁.outputs config ys := by
    unfold StreamState.outputs
    rw [hrecords, QueryRun.processAll_append, hxs.run]
  have hwrite := OutputFormatter.writeAll_append s.formatter (s.outputs config xs)
    (s₁.outputs config ys)
  rw [← hxs.formatter] at hwrite
  exact {
    run := by rw [hys.run, hrecords, QueryRun.processAll_append, hxs.run]
    formatter := by rw [houtputs, hwrite, hys.formatter]
    written := by rw [houtputs, hwrite, hys.written, hxs.written, List.append_assoc]
    room := by rw [hys.room, hxs.room]
    flushFailure := by rw [hys.flushFailure, hxs.flushFailure]
    linesSeen := by rw [hys.linesSeen, hxs.linesSeen, List.length_append, Nat.add_assoc]
    processed := by
      rw [hys.processed, hxs.processed, hrecords, List.length_append, Nat.add_assoc]
    output := by rw [hys.output, hxs.output, houtputs, List.length_append, Nat.add_assoc]
    skipped := by
      have hfirst := hxs.skipped
      have hsecond := hys.skipped
      rw [houtputs, hrecords, List.length_append, List.length_append]
      omega
    errors := by rw [hys.errors, hxs.errors, List.countP_append, Nat.add_assoc]
    badLines := by
      rw [hys.badLines, hxs.badLines, StreamConfig.badLinesFrom_append, List.append_assoc,
        hxs.linesSeen, Nat.add_right_comm] }

/-! ### One line -/

theorem StreamConfig.records_singleton (config : StreamConfig) (line : Bytes) :
    config.records [line] = (config.record? line).toList := by
  unfold StreamConfig.records
  rw [List.filterMap_cons]
  cases config.record? line <;> rfl

/-- Without a record, a line is seen, and noted if it is bad, and that is all. -/
theorem advances_of_no_record {config : StreamConfig} {s : StreamState} {line : Bytes}
    {statistics : Statistics} (hrecord : config.record? line = none)
    (hlinesSeen : statistics.linesSeen = s.statistics.linesSeen + 1)
    (hprocessed : statistics.processed = s.statistics.processed)
    (houtput : statistics.output = s.statistics.output)
    (hskipped : statistics.skipped = s.statistics.skipped)
    (herrors : statistics.errors =
      s.statistics.errors + if (config.complaint? line).isSome then 1 else 0)
    (hbadLines : statistics.badLines.toList =
      s.statistics.badLines.toList ++ config.badLinesFrom (s.statistics.linesSeen + 1) [line]) :
    Advances config s [line] { s with statistics } := by
  have hrecords : config.records [line] = [] := by
    rw [StreamConfig.records_singleton, hrecord]
    rfl
  have houtputs : s.outputs config [line] = [] := by
    rw [StreamState.outputs, hrecords, QueryRun.processAll_nil]
  exact {
    run := by rw [hrecords]; rfl
    formatter := by rw [houtputs]; rfl
    written := by rw [houtputs]; exact (List.append_nil _).symm
    room := rfl
    flushFailure := rfl
    linesSeen := hlinesSeen
    processed := by rw [hrecords]; exact hprocessed
    output := by rw [houtputs]; exact houtput
    skipped := by rw [houtputs, hrecords]; exact hskipped
    errors := by rw [List.countP_singleton]; exact herrors
    badLines := hbadLines }

/-- A bad line is noted, and the stream goes on. -/
theorem takeProblem_advances {config : StreamConfig} {s : StreamState} {line : Bytes}
    {problem : LineProblem} (hskip : config.badLines = .skip)
    (hread : config.readLine line = .error problem)
    (hcomplaint : config.complaint? line = some problem.message)
    (hrecord : config.record? line = none) :
    ∃ s', s.takeLine config line = .goOn s' ∧ Advances config s [line] s' := by
  refine ⟨_, StreamState.takeLine_of_turnOf (.bad hread hskip),
    advances_of_no_record hrecord rfl rfl rfl rfl ?_ ?_⟩
  · rw [hcomplaint]
    rfl
  · rw [StreamConfig.badLinesFrom_singleton, hcomplaint]
    exact Array.toList_push

/-- A sink without a limit takes whatever a record gives out, so the record is
    counted either as given out or as dropped. -/
theorem takeLine_of_room {config : StreamConfig} {s : StreamState} {line : Bytes}
    {record : LogRecord} (hroom : s.sink.room = none)
    (hread : config.readLine line = .ok (some record)) :
    let outputs := (s.run.process record).1.toList
    s.takeLine config line = .goOn {
      run := (s.run.process record).2
      formatter := (s.formatter.writeAll outputs).2
      sink := { s.sink with written := s.sink.written ++ (s.formatter.writeAll outputs).1 }
      statistics := { s.statistics with
        linesSeen := s.statistics.linesSeen + 1
        processed := s.statistics.processed + 1
        output := s.statistics.output + outputs.length
        skipped := s.statistics.skipped + (1 - outputs.length) } } := by
  cases houtput : (s.run.process record).1 with
  | none =>
      rw [StreamState.takeLine_of_nothing (StreamState.demand_of_dropped hread houtput)]
      simp only [Option.toList_none, OutputFormatter.writeAll, Array.appendList_nil,
        List.length_nil]
      rfl
  | some o =>
      rw [StreamState.takeLine_of_output hread houtput, StreamState.writeFailure?_of_room hroom]
      simp only [Option.toList_some, OutputFormatter.writeAll_singleton, List.length_singleton,
        StreamState.wrote, StreamState.ran, StreamState.counted, Sink.write_of_room hroom]
      rfl

/-- A record is taken through the query, and written if it is not dropped. -/
theorem takeRecord_advances {config : StreamConfig} {s : StreamState} {line : Bytes}
    {record : LogRecord} (hroom : s.sink.room = none)
    (hread : config.readLine line = .ok (some record))
    (hcomplaint : config.complaint? line = none) (hrecord : config.record? line = some record) :
    ∃ s', s.takeLine config line = .goOn s' ∧ Advances config s [line] s' := by
  have hrecords : config.records [line] = [record] := by
    rw [StreamConfig.records_singleton, hrecord]
    rfl
  have hrun : s.run.processAll [record] =
      ((s.run.process record).1.toList, (s.run.process record).2) := by
    rw [QueryRun.processAll_cons, QueryRun.processAll_nil, List.append_nil]
  have houtputs : s.outputs config [line] = (s.run.process record).1.toList := by
    rw [StreamState.outputs, hrecords, hrun]
  -- One record gives out one output or none, which is what the counts rely on.
  have hatMostOne : (s.run.process record).1.toList.length ≤ 1 := by
    cases (s.run.process record).1 with
    | none => exact Nat.zero_le 1
    | some o => exact Nat.le_refl 1
  have herrors : ([line].countP fun line => (config.complaint? line).isSome) = 0 := by
    rw [List.countP_singleton, hcomplaint]
    rfl
  have hbadLines : config.badLinesFrom (s.statistics.linesSeen + 1) [line] = [] := by
    rw [StreamConfig.badLinesFrom_singleton, hcomplaint]
    rfl
  exact ⟨_, takeLine_of_room hroom hread, {
    run := by rw [hrecords, hrun]
    formatter := by rw [houtputs]
    written := by rw [houtputs]; exact Array.toList_appendList
    room := rfl
    flushFailure := rfl
    linesSeen := rfl
    processed := by rw [hrecords]; rfl
    output := by rw [houtputs]
    skipped := by
      rw [houtputs, hrecords, List.length_singleton, Nat.add_assoc, Nat.sub_add_cancel hatMostOne]
    errors := by rw [herrors]; rfl
    badLines := by rw [hbadLines]; exact (List.append_nil _).symm }⟩

/-- A stream that goes on without its bad lines advances over any line. -/
theorem takeLine_advances {config : StreamConfig} {s : StreamState}
    (hskip : config.badLines = .skip) (hroom : s.sink.room = none) (line : Bytes) :
    ∃ s', s.takeLine config line = .goOn s' ∧ Advances config s [line] s' := by
  rcases config.readLine_cases line with
    ⟨problem, hread, hcomplaint, hrecord⟩ | ⟨hread, hcomplaint, hrecord⟩ |
      ⟨record, hread, hcomplaint, hrecord⟩
  · exact takeProblem_advances hskip hread hcomplaint hrecord
  · refine ⟨_, StreamState.takeLine_of_turnOf (.blank hread),
      advances_of_no_record hrecord rfl rfl rfl rfl ?_ ?_⟩
    · rw [hcomplaint]
      rfl
    · rw [StreamConfig.badLinesFrom_singleton, hcomplaint]
      exact (List.append_nil _).symm
  · exact takeRecord_advances hroom hread hcomplaint hrecord

/-! ### A whole stream -/

theorem takeLines_advances {config : StreamConfig} {s : StreamState}
    (hskip : config.badLines = .skip) (hroom : s.sink.room = none) (lines : List Bytes) :
    ∃ s', s.takeLines config lines = .goOn s' ∧ Advances config s lines s' := by
  induction lines generalizing s with
  | nil =>
      exact ⟨s, rfl, advances_nil config s⟩
  | cons line rest ih =>
      rcases takeLine_advances hskip hroom line with ⟨s₁, hline, hadvance⟩
      -- The sink is still without a limit, so the induction applies to the rest.
      have hroom₁ : s₁.sink.room = none := by rw [hadvance.room, hroom]
      rcases ih hroom₁ with ⟨s₂, hrest, hadvance'⟩
      refine ⟨s₂, ?_, advances_append hadvance hadvance'⟩
      rw [StreamState.takeLines, hline]
      exact hrest

/-- A stream whose source and sink do not fail ends well, in a state to which it
    has advanced over all lines of its input. -/
theorem runStream_advances {p : StreamPipeline} {sink : Sink}
    (hskip : p.config.badLines = .skip) (hbuffer : 1 ≤ p.config.bufferSize)
    (hroom : sink.room = none) (hflush : sink.flushFailure = none) (input : Bytes) :
    ∃ s', p.runStream (.ofBytes input) sink = (.ok s'.statistics, s'.sink) ∧
      Advances p.config (.start p.config p.query sink) (cutLines input) s' := by
  have hbuffered : p.buffered (.ofBytes input) = .ofBytes input := by
    have hsize : (p.config.bufferSize = 0) = False := eq_false (by omega)
    simp only [StreamPipeline.buffered, hsize, decide_false, Bool.false_and, Bool.false_eq_true,
      if_false]
  have hstart : (StreamState.start p.config p.query sink).sink.room = none := hroom
  rcases takeLines_advances hskip hstart (cutLines input) with ⟨s', hlines, hadvance⟩
  refine ⟨s', ?_, hadvance⟩
  have hend : s'.sink.flushFailure = none := by
    rw [hadvance.flushFailure]
    exact hflush
  rw [StreamPipeline.runStream_eq, hbuffered]
  simp only [lines_ofBytes, hlines]
  simp only [Source.ofBytes, Turn.conclude, StreamState.finish, hend]

/-- A stream writes what a run over its records gives out. The input is cut into
    lines; those that are bad are noted with their numbers and reasons, those
    that carry nothing are passed over, and the records of the others go through
    one run of the query, whose output goes through one formatter. That is what
    stands in the sink behind what was there before, and what is counted. -/
theorem process_refines_run (p : StreamPipeline) (sink : Sink)
    (hskip : p.config.badLines = .skip) (hbuffer : 1 ≤ p.config.bufferSize)
    (hroom : sink.room = none) (hflush : sink.flushFailure = none) (input : Bytes) :
    let lines := cutLines input
    let records := lines.filterMap p.config.record?
    let outputs := (p.query.run records).records
    ∃ (statistics : Statistics) (sink' : Sink),
      (p.process (.ofBytes input) sink).1 = (.ok statistics, sink') ∧
      sink'.written.toList = sink.written.toList ++
        ((OutputFormatter.start p.config.outputFormat p.config.useColors).writeAll outputs).1 ∧
      statistics.linesSeen = lines.length ∧
      statistics.processed = records.length ∧
      statistics.output = outputs.length ∧
      outputs.length ≤ records.length ∧
      statistics.skipped = records.length - outputs.length ∧
      statistics.errors = (lines.countP fun line => (p.config.complaint? line).isSome) ∧
      statistics.badLines.toList = p.config.badLinesFrom 1 lines := by
  intro lines records outputs
  rcases runStream_advances hskip hbuffer hroom hflush input with ⟨s', hrun, hadvance⟩
  have hskipped : s'.statistics.skipped + outputs.length = 0 + records.length := hadvance.skipped
  have hprocess : (p.process (.ofBytes input) sink).1 = (.ok s'.statistics, s'.sink) := by
    rw [StreamPipeline.process_fst, hrun]
  refine ⟨s'.statistics, s'.sink, hprocess, hadvance.written, ?_, ?_, ?_, ?_, ?_, ?_, ?_⟩
  · rw [hadvance.linesSeen]
    exact Nat.zero_add _
  · rw [hadvance.processed]
    exact Nat.zero_add _
  · rw [hadvance.output]
    exact Nat.zero_add _
  · omega
  · omega
  · rw [hadvance.errors]
    exact Nat.zero_add _
  · exact hadvance.badLines

/-- A query that colors each record by the one before it. -/
def chainedQuery : CompiledQuery := ⟨[.colorBy (.lastVarValue "prev"), .set "prev" (.field "a")]⟩

/-- A pipeline for lines of pairs that have at most eight bytes, in color. -/
def chainedPipeline : StreamPipeline :=
  .start chainedQuery
    { maxLineLength := 8, inputFormat := .logfmt, outputFormat := .line, useColors := true }

/-- A line of every fate: a record, a blank line, one that is no pair, one that
    is no text, one that is too long, and a record without a newline. -/
def chainedInput : Bytes :=
  Utf8.ofString "a=1\n \nbroken\n" ++ [0xff, 0x0a] ++ Utf8.ofString "a=123456789\na=2"

/-- The records at either end are chained, and the four lines between them leave
    no trace in the run. -/
theorem process_refines_run_chainedInput :
    chainedPipeline.config.badLines = .skip ∧ 1 ≤ chainedPipeline.config.bufferSize ∧
      Sink.empty.room = none ∧ Sink.empty.flushFailure = none ∧
      ∃ (statistics : Statistics) (sink' : Sink),
        (chainedPipeline.process (.ofBytes chainedInput) .empty).1 = (.ok statistics, sink') ∧
        sink'.written.toList = Utf8.ofString "a=1\n\x1b[36ma=2\x1b[0m\n" ∧
        statistics.linesSeen = 6 ∧ statistics.processed = 2 ∧ statistics.errors = 3 ∧
        statistics.badLines.toList.map (fun bad => bad.line) = [3, 4, 5] := by
  rcases process_refines_run chainedPipeline .empty rfl (by decide) rfl rfl chainedInput with
    ⟨statistics, sink', hprocess, hwritten, hseen, hprocessed, _, _, _, herrors, hbadLines⟩
  refine ⟨rfl, by decide, rfl, rfl, statistics, sink', hprocess, ?_, ?_, ?_, ?_, ?_⟩
  · rw [hwritten]
    decide +kernel
  · rw [hseen]
    decide +kernel
  · rw [hprocessed]
    decide +kernel
  · rw [herrors]
    decide +kernel
  · rw [hbadLines]
    decide +kernel

end LogQuery
