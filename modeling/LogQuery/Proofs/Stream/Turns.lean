import LogQuery.Proofs.Stream.Buffer

/-!
# The Turns of a Stream

The loop of a stream has many exits, and every statement about whole streams
has to look at each of them. This module does it once. `TurnOf` lists what a
line can do to a stream, with the condition for each case and the state that it
leaves, and `takeLine_turnOf` says that the list is complete; a proof about the
loop then has one case for each of its rules and need not open the loop.

The condition for a case is about the line and the state before it, so the
rules exclude each other. Nothing that is not written out in a rule changes.

A stream over several lines goes on until a line stops it, and the lines behind
that one are never looked at. `takeLines_append` and `takeLines_cases` say this.

## Main definitions

* `StreamState.counted`, `StreamState.noted`, `StreamState.ran`,
  `StreamState.wrote`: The parts of which the states after a line are made.
* `StreamState.writeFailure?`: How the writing of an output record fails.
* `TurnOf`: What a line can do to a stream.

## Theorems

* `demand_of_output`, `takeLine_of_output`: A record that is given out asks for its
  text to be written, and the turn ends as the writing does.
* `takeLine_turnOf`, `takeLine_of_turnOf`: A line does one of these things, and
  only the one whose condition holds.
* `takeLines_append`: A stream over two lists of lines.
* `takeLines_cases`: A stream takes all of its lines, or one of them stops it.
* `conclude_goOn_cases`: What follows the last line.
* `process_fst`, `process_snd`: A pipeline gives what the stream gives, and adds it
  up.
* `runStream_eq_ok`: A stream that has ended well has taken all of its lines, or
  it has closed.
-/

namespace LogQuery

/-- A sink without a limit takes whatever is written. -/
theorem Sink.write_of_room {s : Sink} (hroom : s.room = none) (bytes : Bytes) :
    s.write bytes = (none, { s with written := s.written ++ bytes }) := by
  unfold write
  rw [hroom]

namespace StreamState

/-! ### Parts of a turn -/

/-- A line has been counted. -/
def counted (s : StreamState) : StreamState :=
  { s with statistics.linesSeen := s.statistics.linesSeen + 1 }

/-- The line that was counted last has been noted as bad. -/
def noted (config : StreamConfig) (problem : LineProblem) (s : StreamState) : StreamState :=
  let bad := ⟨s.statistics.linesSeen, config.inputFormat.name, problem.message⟩
  { s with statistics := s.statistics.addBadLine bad }

/-- A record has been taken through the query. -/
def ran (record : LogRecord) (s : StreamState) : StreamState :=
  { s with
    run := (s.run.process record).2
    statistics.processed := s.statistics.processed + 1 }

/-- How the writing of an output record fails, if it does. -/
def writeFailure? (o : OutputRecord) (s : StreamState) : Option Failure :=
  (s.sink.write (Utf8.ofString (s.formatter.write o).1)).1

theorem writeFailure?_of_room {s : StreamState} (hroom : s.sink.room = none) (o : OutputRecord) :
    s.writeFailure? o = none := by
  rw [writeFailure?, Sink.write_of_room hroom]

/-- An output record has been written, as far as there was room for it. -/
def wrote (o : OutputRecord) (s : StreamState) : StreamState :=
  { s with
    formatter := (s.formatter.write o).2
    sink := (s.sink.write (Utf8.ofString (s.formatter.write o).1)).2 }

/-- A record has been counted as written. -/
def countOutput (s : StreamState) : StreamState :=
  { s with statistics.output := s.statistics.output + 1 }

/-- A record has been counted as dropped. -/
def countSkipped (s : StreamState) : StreamState :=
  { s with statistics.skipped := s.statistics.skipped + 1 }

end StreamState

/-! ### What a line can do -/

/-- What a line can do to a stream. -/
inductive TurnOf (config : StreamConfig) (s : StreamState) (line : Bytes) : Turn → Prop where
  /-- The line carries nothing. -/
  | blank (hread : config.readLine line = .ok none) : TurnOf config s line (.goOn s.counted)
  /-- The line is bad, and the stream goes on without it. -/
  | bad {problem : LineProblem} (hread : config.readLine line = .error problem)
      (hpolicy : config.badLines = .skip) :
      TurnOf config s line (.goOn (s.counted.noted config problem))
  /-- The line is bad, and the stream does not go on. -/
  | refused {problem : LineProblem} (hread : config.readLine line = .error problem)
      (hpolicy : config.badLines = .failFast) :
      TurnOf config s line
        (.fail (problem.toError (s.statistics.linesSeen + 1) config.inputFormat) s.counted)
  /-- The query drops the record of the line. -/
  | dropped {record : LogRecord} (hread : config.readLine line = .ok (some record))
      (hrun : (s.run.process record).1 = none) :
      TurnOf config s line (.goOn (s.counted.ran record).countSkipped)
  /-- What the query makes of the record is written. -/
  | written {record : LogRecord} {o : OutputRecord}
      (hread : config.readLine line = .ok (some record))
      (hrun : (s.run.process record).1 = some o) (hwrite : s.writeFailure? o = none) :
      TurnOf config s line (.goOn ((s.counted.ran record).wrote o).countOutput)
  /-- Nobody reads the output any more. -/
  | unread {record : LogRecord} {o : OutputRecord} {failure : Failure}
      (hread : config.readLine line = .ok (some record))
      (hrun : (s.run.process record).1 = some o) (hwrite : s.writeFailure? o = some failure)
      (hkind : failure.kind = .brokenPipe) :
      TurnOf config s line (.close ((s.counted.ran record).wrote o))
  /-- The output cannot be written for another reason. -/
  | unwritten {record : LogRecord} {o : OutputRecord} {failure : Failure}
      (hread : config.readLine line = .ok (some record))
      (hrun : (s.run.process record).1 = some o) (hwrite : s.writeFailure? o = some failure)
      (hkind : failure.kind ≠ .brokenPipe) :
      TurnOf config s line (.fail (.io failure) ((s.counted.ran record).wrote o))

namespace StreamState

theorem takeProblem_turnOf {config : StreamConfig} {s : StreamState} {line : Bytes}
    {problem : LineProblem} (hread : config.readLine line = .error problem) :
    TurnOf config s line (s.counted.takeProblem config problem) := by
  unfold takeProblem
  cases hpolicy : config.badLines with
  | skip => exact .bad hread hpolicy
  | failFast => exact .refused hread hpolicy

/-- A turn in which nothing is written is the one that the line asks for. -/
theorem takeLine_of_nothing {config : StreamConfig} {s : StreamState} {line : Bytes}
    {turn : Turn} (h : s.demand config line = .nothing turn) : s.takeLine config line = turn := by
  unfold takeLine
  rw [h]

/-- A record that is dropped asks for nothing to be written. -/
theorem demand_of_dropped {config : StreamConfig} {s : StreamState} {line : Bytes}
    {record : LogRecord} (hread : config.readLine line = .ok (some record))
    (hrun : (s.run.process record).1 = none) :
    s.demand config line = .nothing (.goOn (s.counted.ran record).countSkipped) := by
  unfold demand takeRecord
  simp only [hread, hrun]
  rfl

/-- A record that is given out asks for its text to be written. -/
theorem demand_of_output {config : StreamConfig} {s : StreamState} {line : Bytes}
    {record : LogRecord} {o : OutputRecord} (hread : config.readLine line = .ok (some record))
    (hrun : (s.run.process record).1 = some o) :
    s.demand config line = .write (Utf8.ofString (s.formatter.write o).1)
      { s.counted.ran record with formatter := (s.formatter.write o).2 } := by
  unfold demand takeRecord
  simp only [hread, hrun]
  rfl

/-- A turn in which a record is written ends as the writing does. -/
theorem takeLine_of_output {config : StreamConfig} {s : StreamState} {line : Bytes}
    {record : LogRecord} {o : OutputRecord} (hread : config.readLine line = .ok (some record))
    (hrun : (s.run.process record).1 = some o) :
    s.takeLine config line = ((s.counted.ran record).wrote o).answered (s.writeFailure? o) := by
  unfold takeLine
  rw [demand_of_output hread hrun]
  rfl

/-- A turn in which something could not be written closes the stream or fails. -/
theorem answered_cases (s : StreamState) (failure : Failure) :
    (failure.kind = .brokenPipe ∧ s.answered (some failure) = .close s) ∨
      failure.kind ≠ .brokenPipe ∧ s.answered (some failure) = .fail (.io failure) s := by
  by_cases hkind : failure.kind = .brokenPipe
  · exact .inl ⟨hkind, if_pos hkind⟩
  · exact .inr ⟨hkind, if_neg hkind⟩

theorem answered_turnOf {config : StreamConfig} {s : StreamState} {line : Bytes}
    {record : LogRecord} {o : OutputRecord} (hread : config.readLine line = .ok (some record))
    (hrun : (s.run.process record).1 = some o) :
    TurnOf config s line (((s.counted.ran record).wrote o).answered (s.writeFailure? o)) := by
  cases hwrite : s.writeFailure? o with
  | none => exact .written hread hrun hwrite
  | some failure =>
      rcases answered_cases ((s.counted.ran record).wrote o) failure with
        ⟨hkind, hclose⟩ | ⟨hkind, hfail⟩
      · rw [hclose]
        exact .unread hread hrun hwrite hkind
      · rw [hfail]
        exact .unwritten hread hrun hwrite hkind

/-- Whatever a line does to a stream is in the list. -/
theorem takeLine_turnOf (config : StreamConfig) (s : StreamState) (line : Bytes) :
    TurnOf config s line (s.takeLine config line) := by
  cases hread : config.readLine line with
  | error problem =>
      rw [takeLine_of_nothing (by unfold demand; rw [hread])]
      exact takeProblem_turnOf hread
  | ok carried =>
      cases carried with
      | none =>
          rw [takeLine_of_nothing (by unfold demand; rw [hread])]
          exact .blank hread
      | some record =>
          cases hrun : (s.run.process record).1 with
          | none =>
              rw [takeLine_of_nothing (demand_of_dropped hread hrun)]
              exact .dropped hread hrun
          | some o =>
              rw [takeLine_of_output hread hrun]
              exact answered_turnOf hread hrun

/-- The condition for a turn is all that it takes to make it. -/
theorem takeLine_of_turnOf {config : StreamConfig} {s : StreamState} {line : Bytes} {turn : Turn}
    (h : TurnOf config s line turn) : s.takeLine config line = turn := by
  cases h with
  | blank hread =>
      unfold takeLine demand
      rw [hread]
      rfl
  | bad hread hpolicy | refused hread hpolicy =>
      unfold takeLine demand takeProblem
      simp only [hread, hpolicy]
      rfl
  | dropped hread hrun => exact takeLine_of_nothing (demand_of_dropped hread hrun)
  | written hread hrun hwrite =>
      rw [takeLine_of_output hread hrun, hwrite]
      rfl
  | unread hread hrun hwrite hkind =>
      rw [takeLine_of_output hread hrun, hwrite]
      exact if_pos hkind
  | unwritten hread hrun hwrite hkind =>
      rw [takeLine_of_output hread hrun, hwrite]
      exact if_neg hkind

/-! ### Several lines -/

/-- A stream that has taken several lines has taken the first and gone on. -/
theorem takeLines_cons_eq_goOn {config : StreamConfig} {s s' : StreamState} {line : Bytes}
    {rest : List Bytes} (h : s.takeLines config (line :: rest) = .goOn s') :
    ∃ s₁, s.takeLine config line = .goOn s₁ ∧ s₁.takeLines config rest = .goOn s' := by
  rw [takeLines] at h
  cases hline : s.takeLine config line with
  | goOn s₁ =>
      rw [hline] at h
      exact ⟨s₁, rfl, h⟩
  | close s₁ =>
      rw [hline] at h
      cases h
  | fail error s₁ =>
      rw [hline] at h
      cases h

/-- A stream over two lists of lines comes to the second if the first does not
    stop it. -/
theorem takeLines_append (config : StreamConfig) (s : StreamState) (xs ys : List Bytes) :
    s.takeLines config (xs ++ ys) =
      match s.takeLines config xs with
      | .goOn s' => s'.takeLines config ys
      | turn => turn := by
  induction xs generalizing s with
  | nil => rfl
  | cons line rest ih =>
      rw [List.cons_append, takeLines, takeLines]
      cases s.takeLine config line with
      | goOn s' => exact ih s'
      | close s' => rfl
      | fail error s' => rfl

/-- A stream takes all of its lines, or it takes some and then the next one stops
    it. -/
theorem takeLines_cases (config : StreamConfig) (s : StreamState) (lines : List Bytes) :
    (∃ s', s.takeLines config lines = .goOn s') ∨
      ∃ before line after s₁, lines = before ++ line :: after ∧
        s.takeLines config before = .goOn s₁ ∧
        s.takeLines config lines = s₁.takeLine config line := by
  induction lines generalizing s with
  | nil => exact .inl ⟨s, rfl⟩
  | cons line rest ih =>
      cases hline : s.takeLine config line with
      | goOn s' =>
          have hcons : ∀ lines, s.takeLines config (line :: lines) = s'.takeLines config lines := by
            intro lines
            rw [takeLines, hline]
          rcases ih s' with ⟨s'', hrest⟩ | ⟨before, stop, after, s₁, rfl, hbefore, hstop⟩
          · exact .inl ⟨s'', by rw [hcons, hrest]⟩
          · exact .inr ⟨line :: before, stop, after, s₁, rfl, by rw [hcons, hbefore],
              by rw [hcons, hstop]⟩
      | close s' =>
          refine .inr ⟨[], line, rest, s, rfl, rfl, ?_⟩
          rw [takeLines, hline]
      | fail error s' =>
          refine .inr ⟨[], line, rest, s, rfl, rfl, ?_⟩
          rw [takeLines, hline]

/-- An end without an error changes nothing. -/
theorem finish_eq_ok {s : StreamState} {counts : Statistics} {sink : Sink}
    (h : s.finish = (.ok counts, sink)) : s.statistics = counts ∧ s.sink = sink := by
  unfold finish at h
  split at h
  · split at h
    · cases h
      exact ⟨rfl, rfl⟩
    · cases h
  · cases h
    exact ⟨rfl, rfl⟩

end StreamState

/-! ### A whole stream -/

/-- Behind the last line a stream ends, unless its source has failed for another
    reason than that it has ended too early. -/
theorem Turn.conclude_goOn_cases (failure : Option Failure) (s : StreamState) :
    (Turn.goOn s).conclude failure = s.finish ∨
      ∃ f, failure = some f ∧ f.kind ≠ .unexpectedEnd ∧
        (Turn.goOn s).conclude failure = (.error (.io f), s.sink) := by
  cases failure with
  | none => exact .inl rfl
  | some f =>
      by_cases hkind : f.kind = .unexpectedEnd
      · exact .inl (if_pos hkind)
      · exact .inr ⟨f, rfl, hkind, if_neg hkind⟩

/-- A turn after which a stream ends well has gone on or closed. -/
theorem Turn.conclude_eq_ok {failure : Option Failure} {turn : Turn} {counts : Statistics}
    {sink : Sink} (h : turn.conclude failure = (.ok counts, sink)) :
    ∃ s, s.statistics = counts ∧ s.sink = sink ∧ (turn = .goOn s ∨ turn = .close s) := by
  cases turn with
  | fail error s => cases h
  | close s =>
      rcases StreamState.finish_eq_ok h with ⟨hcounts, hsink⟩
      exact ⟨s, hcounts, hsink, .inr rfl⟩
  | goOn s =>
      rcases conclude_goOn_cases failure s with hend | ⟨f, _, _, hfail⟩
      · rw [hend] at h
        rcases StreamState.finish_eq_ok h with ⟨hcounts, hsink⟩
        exact ⟨s, hcounts, hsink, .inl rfl⟩
      · rw [hfail] at h
        cases h

namespace StreamPipeline

/-- A pipeline gives what the stream gives, and counts it. -/
theorem process_fst (p : StreamPipeline) (source : Source) (sink : Sink) :
    (p.process source sink).1 = p.runStream source sink := by
  unfold process
  rcases p.runStream source sink with ⟨result, sink'⟩
  cases result with
  | ok statistics => rfl
  | error e => rfl

/-- A stream adds its statistics to the total of its pipeline if it has ended
    well, and does nothing else to the pipeline. -/
theorem process_snd (p : StreamPipeline) (source : Source) (sink : Sink) :
    (p.process source sink).2 =
      { p with total :=
          (p.process source sink).1.1.toOption.toList.foldl Statistics.add p.total } := by
  unfold process
  rcases p.runStream source sink with ⟨result, sink'⟩
  cases result with
  | ok statistics => rfl
  | error e => rfl

/-- A stream that has ended well has taken all of its lines, or it has closed. -/
theorem runStream_eq_ok {p : StreamPipeline} {source : Source} {sink sink' : Sink}
    {counts : Statistics} (h : p.runStream source sink = (.ok counts, sink')) :
    ∃ s, s.statistics = counts ∧ s.sink = sink' ∧
      ((StreamState.start p.config p.query sink).takeLines p.config
          (p.buffered source).lines = .goOn s ∨
        (StreamState.start p.config p.query sink).takeLines p.config
          (p.buffered source).lines = .close s) := by
  rw [runStream_eq] at h
  exact Turn.conclude_eq_ok h

end StreamPipeline

end LogQuery
