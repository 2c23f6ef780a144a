import LogQuery.Proofs.Stream.Calls
import Mathlib.Order.Bounds.Basic

/-!
# Writers That Run Out

A writer that takes so many bytes and then fails cuts the output of a stream at that
byte, wherever in a record it falls, and nowhere else. To say so a stream with such a
writer is compared with the same stream and a sink that takes everything.

As long as the free stream stays within the limit, the two go side by side. If it does
not, there is a first record whose text goes over the limit (`Overflows`). The free
stream writes it and goes on. The other one comes to a moment at which the writer has
taken what it takes, bytes of the record are left, and every further call is answered
by the writer's fault (`fillsAt_of_stopsAt`). Then the stream closes if nobody reads
its output, and it fails with any other failure. An interruption is no failure. It
leaves the stream at this moment for ever, and so it has to be kept apart from the
failures of which the theorem says that the stream ends with them.

What the free stream writes are the texts of the records that it gives out, one
behind the other, so the record at which the other stream stops can be named by its
place among them. It is the first one whose text does not end within the limit.

## Main definitions

* `Overflows`: A line has the record that goes over the limit.
* `StreamPipeline.StopsAt`: A stream comes to that record.
* `StreamPipeline.FillsAt`: A stream comes to the moment at which its writer is full.

## Theorems

* `takeLines_within`: A stream stays within a limit, or there is a record that goes
  over it.
* `emitted_of_stopsAt`, `over_of_stopsAt`: Its place among the records given out.
* `isGreatest_writeAll`: How many records fit.
* `fillsAt_of_stopsAt`: How far a stream gets with a writer that has the limit.
* `limited_writes_front`: A stream writes to a writer what has room there of its
  output, and ends unless it is interrupted.
* `interrupted_stream_never_ends`: A stream that does not end.
-/

namespace LogQuery

variable {n : Nat}

/-! ### The first record over a limit -/

/-- A line has a record that is given out and whose text goes over a limit that has
    been kept so far. -/
structure Overflows (config : StreamConfig) (n : Nat) (s : StreamState) (line : Bytes)
    (record : LogRecord) (o : OutputRecord) : Prop where
  read : config.readLine line = .ok (some record)
  run : (s.run.process record).1 = some o
  size : s.sink.written.size ≤ n
  exceeds : n < s.sink.written.size + (Utf8.ofString (s.formatter.write o).1).length

namespace StreamState

variable {config : StreamConfig} {s : StreamState}

/-- The stream writes the record that goes over the limit, and goes on. -/
theorem takeLine_free {line : Bytes} {record : LogRecord} {o : OutputRecord}
    (hroom : s.sink.room = none) (h : Overflows config n s line record o) :
    s.takeLine config line = .goOn ((s.counted.ran record).wrote o).countOutput :=
  takeLine_of_turnOf (.written h.read h.run (writeFailure?_of_room hroom o))

/-- A stream stays within a limit over a line, unless it is for the record of the
    line. -/
theorem takeLine_within (config : StreamConfig) (hroom : s.sink.room = none)
    (hsize : s.sink.written.size ≤ n) (line : Bytes) :
    (s.takeLine config line).state.sink.written.size ≤ n ∨
      ∃ record o, Overflows config n s line record o := by
  have hturn := takeLine_turnOf config s line
  generalize s.takeLine config line = turn at hturn
  -- Only a turn that writes changes what the sink has.
  cases hturn with
  | blank hread | bad hread hpolicy | refused hread hpolicy | dropped hread hrun => exact .inl hsize
  | @written record o hread hrun hwrite =>
      by_cases hfits : s.sink.written.size + (Utf8.ofString (s.formatter.write o).1).length ≤ n
      · refine .inl ?_
        simp only [Turn.state, countOutput, wrote]
        simp only [ran, counted, Sink.write_of_room hroom, size_appendList]
        exact hfits
      · exact .inr ⟨record, o, hread, hrun, hsize, Nat.lt_of_not_le hfits⟩
  -- A sink without a limit does not fail.
  | unread hread hrun hwrite hkind | unwritten hread hrun hwrite hkind =>
      rw [writeFailure?_of_room hroom] at hwrite
      cases hwrite

/-- A stream stays within a limit over its lines, or there is a line up to which it
    does and whose record goes over the limit. -/
theorem takeLines_within (hroom : s.sink.room = none) (hsize : s.sink.written.size ≤ n)
    (lines : List Bytes) :
    (s.takeLines config lines).state.sink.written.size ≤ n ∨
      ∃ before line after s₁ record o, lines = before ++ line :: after ∧
        s.takeLines config before = .goOn s₁ ∧ Overflows config n s₁ line record o := by
  induction lines generalizing s with
  | nil => exact .inl hsize
  | cons line rest ih =>
      rcases takeLine_within config hroom hsize line with hfits | ⟨record, o, hover⟩
      · rw [takeLines]
        cases hline : s.takeLine config line with
        | goOn s₁ =>
            rw [hline] at hfits
            rcases ih (room_of_takeLine hroom hline) hfits with hrest | ⟨before, stop, after, s₂,
              record, o, hsplit, hbefore, hover⟩
            · exact .inl hrest
            · refine .inr ⟨line :: before, stop, after, s₂, record, o, ?_, ?_, hover⟩
              · rw [hsplit, List.cons_append]
              · rw [takeLines, hline]
                exact hbefore
        | close s₁ | fail error s₁ =>
            rw [hline] at hfits
            exact .inl hfits
      · -- The line is the first to go over the limit, and there are none before it.
        exact .inr ⟨[], line, rest, s, record, o, rfl, rfl, hover⟩

end StreamState

/-! ### Whole streams -/

section

variable {f : OutputFormatter} {front : List OutputRecord} {o : OutputRecord}

/-- The texts of some records, that of the next one, and those behind it. -/
theorem writeAll_fst_append_cons (f : OutputFormatter) (front : List OutputRecord)
    (o : OutputRecord) (back : List OutputRecord) :
    (f.writeAll (front ++ o :: back)).1 =
      (f.writeAll front).1 ++ (Utf8.ofString ((f.writeAll front).2.write o).1 ++
        (((f.writeAll front).2.write o).2.writeAll back).1) := by
  rw [OutputFormatter.writeAll_append]
  rfl

/-- Where a text goes over the limit, the first bytes of all texts end in it. -/
theorem take_writeAll (hfits : (f.writeAll front).1.length ≤ n)
    (hover : n < (f.writeAll front).1.length +
      (Utf8.ofString ((f.writeAll front).2.write o).1).length) (back : List OutputRecord) :
    n < (f.writeAll (front ++ o :: back)).1.length ∧
      (f.writeAll (front ++ o :: back)).1.take n = (f.writeAll front).1 ++
        (Utf8.ofString ((f.writeAll front).2.write o).1).take
          (n - (f.writeAll front).1.length) := by
  rw [writeAll_fst_append_cons]
  constructor
  · rw [List.length_append, List.length_append]
    omega
  · rw [List.take_append, List.take_of_length_le hfits, List.take_append_of_le_length (by omega)]

/-- The texts that fit are those in front of the first one that does not end within
    the limit. -/
theorem isGreatest_writeAll (hfits : (f.writeAll front).1.length ≤ n)
    (hover : n < (f.writeAll front).1.length +
      (Utf8.ofString ((f.writeAll front).2.write o).1).length) (back : List OutputRecord) :
    IsGreatest {k | (f.writeAll ((front ++ o :: back).take k)).1.length ≤ n} front.length := by
  constructor
  · rw [Set.mem_ofPred_eq, List.take_left]
    exact hfits
  · intro k hk
    rw [Set.mem_ofPred_eq] at hk
    refine Nat.le_of_not_lt (fun hlonger => ?_)
    rcases Nat.exists_eq_add_of_lt hlonger with ⟨d, rfl⟩
    -- The record that goes over the limit is among the first ones then.
    have hbehind := (take_writeAll hfits hover (back.take d)).1
    rw [Nat.add_assoc, List.take_length_add_append, List.take_succ_cons] at hk
    omega

end

namespace StreamPipeline

/-- A stream comes to a line whose record goes over the limit. -/
structure StopsAt (p : StreamPipeline) (source : Source) (n : Nat) (before : List Bytes)
    (line : Bytes) (after : List Bytes) (s : StreamState) (record : LogRecord)
    (o : OutputRecord) : Prop where
  lines : (p.buffered source).lines = before ++ line :: after
  free : (StreamState.start p.config p.query .empty).takeLines p.config before = .goOn s
  overflows : Overflows p.config n s line record o

section

variable {p : StreamPipeline} {source : Source} {before after : List Bytes} {line : Bytes}
  {s : StreamState} {record : LogRecord} {o : OutputRecord}

/-- The record that goes over the limit is the next one that the stream gives out
    behind those of the lines before. -/
theorem emitted_of_stopsAt (h : StopsAt p source n before line after s record o) :
    (p.query.run (p.config.records (before ++ [line]))).records =
        (p.query.run (p.config.records before)).records ++ [o] ∧
      ∃ back, p.emitted source = (p.query.run (p.config.records before)).records ++ o :: back := by
  have hroom : (StreamState.start p.config p.query .empty).sink.room = none := rfl
  have hadvance := StreamState.advances_of_goOn hroom h.free
  have hline := StreamState.takeLine_free (hadvance.room.trans hroom) h.overflows
  have hboth : (StreamState.start p.config p.query .empty).takeLines p.config (before ++ [line]) =
      .goOn ((s.counted.ran record).wrote o).countOutput := by
    rw [StreamState.takeLines_append, h.free]
    simp only [StreamState.takeLines, hline]
  have hrecord : p.config.records [line] = [record] := by
    rw [StreamConfig.records_singleton, StreamConfig.record?_of_readLine h.overflows.read]
    rfl
  -- The run of the stream has gone over the records of the lines before, and answers the next.
  have hanswer : ((p.query.start.processAll (p.config.records before)).2.process record).1 =
      some o := by
    have hrun : s.run = (p.query.start.processAll (p.config.records before)).2 := hadvance.run
    rw [← hrun]
    exact h.overflows.run
  have houtputs : ∀ behind, (p.query.run (p.config.records before ++ record :: behind)).records =
      (p.query.run (p.config.records before)).records ++
        o :: (((p.query.start.processAll (p.config.records before)).2.process record).2.processAll
          behind).1 := by
    intro behind
    simp only [CompiledQuery.run]
    rw [QueryRun.processAll_append, QueryRun.processAll_cons, hanswer]
    rfl
  constructor
  · rw [StreamConfig.records_append, hrecord]
    exact houtputs []
  · have hlines : p.config.taken (p.buffered source).lines =
        before ++ [line] ++ p.config.taken after := by
      rw [h.lines, ← List.singleton_append, ← List.append_assoc, StreamState.taken_append hboth]
    have hbehind := houtputs (p.config.records (p.config.taken after))
    refine ⟨_, Eq.trans ?_ hbehind⟩
    rw [emitted, hlines, StreamConfig.records_append, StreamConfig.records_append, hrecord,
      List.append_assoc, List.singleton_append]

/-- The texts of the records before fit, and that of the record goes over the
    limit. -/
theorem over_of_stopsAt (h : StopsAt p source n before line after s record o) :
    let texts := (OutputFormatter.start p.config.outputFormat p.config.useColors).writeAll
      (p.query.run (p.config.records before)).records
    s.sink.written.toList = texts.1 ∧ s.formatter = texts.2 ∧ texts.1.length ≤ n ∧
      n < texts.1.length + (Utf8.ofString (texts.2.write o).1).length := by
  intro texts
  have hadvance := StreamState.advances_of_goOn rfl h.free
  have hwritten : s.sink.written.toList = texts.1 := hadvance.written
  have hformatter : s.formatter = texts.2 := hadvance.formatter
  have hlength : s.sink.written.size = texts.1.length := by
    rw [← hwritten, Array.length_toList]
  have hsize := h.overflows.size
  have hover := h.overflows.exceeds
  rw [hlength] at hsize hover
  rw [hformatter] at hover
  exact ⟨hwritten, hformatter, hsize, hover⟩

end

/-- A stream stays within a limit, or it comes to a record that goes over it. -/
theorem within_or_stopsAt (p : StreamPipeline) (source : Source) (n : Nat) :
    ((StreamState.start p.config p.query .empty).takeLines p.config
        (p.buffered source).lines).state.sink.written.size ≤ n ∨
      ∃ before line after s record o, StopsAt p source n before line after s record o := by
  have hroom : (StreamState.start p.config p.query .empty).sink.room = none := rfl
  rcases @StreamState.takeLines_within n p.config _ hroom (Nat.zero_le n)
    (p.buffered source).lines with
    hfits | ⟨before, line, after, s, record, o, hlines, hfree, hover⟩
  · exact .inl hfits
  · exact .inr ⟨before, line, after, s, record, o, hlines, hfree, hover⟩

/-! ### The moment at which the writer is full -/

variable {p : StreamPipeline} {source : Source} {w : Writer} {before after : List Bytes}
  {line : Bytes} {s : StreamState} {record : LogRecord} {o : OutputRecord}

/-- A stream comes to a moment at which its writer has taken the front of its output and
    bytes are left, and nothing behind the line of these bytes has a part in that. -/
structure FillsAt (p : StreamPipeline) (source : Source) (w : Writer) (before : List Bytes)
    (line : Bytes) (rest : Bytes) (s : StreamState) : Prop where
  rest_ne : rest ≠ []
  full : s.sink.written.size = w.limit
  sink : s.sink = ⟨(((OutputFormatter.start p.config.outputFormat p.config.useColors).writeAll
    (p.emitted source)).1.take w.limit).toArray, none, none⟩
  output : s.statistics.output = (p.query.run (p.config.records before)).records.length
  linesSeen : s.statistics.linesSeen = before.length + 1
  reaches : ∀ (source' : Source) (after' : List Bytes),
    (p.buffered source').lines = before ++ line :: after' →
    Moment.Reaches p.config w (p.firstMoment source') (.writing rest s after')

/-- A stream that comes to a record over the limit of its writer fills the writer. -/
theorem fillsAt_of_stopsAt (h : StopsAt p source w.limit before line after s record o) :
    ∃ rest s', FillsAt p source w before line rest s' := by
  have hadvance := StreamState.advances_of_goOn rfl h.free
  have hover := h.overflows
  rcases over_of_stopsAt h with ⟨hwritten, hformatter, hfits, hexceeds⟩
  rcases emitted_of_stopsAt h with ⟨_, back, hemitted⟩
  rcases Moment.drop_of_over hover.exceeds hover.size with ⟨hleft, hfull⟩
  refine ⟨_, { s.counted.ran record with
      formatter := (s.formatter.write o).2
      sink.written := s.sink.written ++
        (Utf8.ofString (s.formatter.write o).1).take (w.limit - s.sink.written.size) },
    hleft, hfull, ?_, ?_, ?_, fun source' after' hlines => ?_⟩
  · have hfront : (s.sink.written ++
        (Utf8.ofString (s.formatter.write o).1).take (w.limit - s.sink.written.size)).toList =
        ((OutputFormatter.start p.config.outputFormat p.config.useColors).writeAll
          (p.emitted source)).1.take w.limit := by
      rw [Array.toList_appendList, hemitted, (take_writeAll hfits hexceeds back).2, ← hwritten,
        ← hformatter, Array.length_toList]
    have hroom : s.sink.room = none := hadvance.room
    have hflush : s.sink.flushFailure = none := hadvance.flushFailure
    simp only [← hfront, StreamState.ran, StreamState.counted, hroom, hflush]
  · exact hadvance.output.trans (Nat.zero_add _)
  · exact congrArg (· + 1) (hadvance.linesSeen.trans (Nat.zero_add _))
  · have hsize : ((StreamState.start p.config p.query .empty).takeLines p.config
        before).state.sink.written.size ≤ w.limit := by
      rw [h.free]
      exact hover.size
    have hbefore := Moment.reaches_lines rfl hsize (line :: after')
    rw [h.free] at hbefore
    rw [firstMoment, hlines]
    refine hbefore.trans (Moment.Reaches.trans (Moment.reaches_next ?_)
      (Moment.reaches_rest p.config w
        { s.counted.ran record with formatter := (s.formatter.write o).2 } _ after'))
    simp only [Turn.followedBy, Moment.next, StreamState.demand_of_output hover.read hover.run]

/-- At a moment that is its own successor a writer has what it gets. -/
theorem written_of_reaches {m : Moment} (h : Moment.Reaches p.config w (p.firstMoment source) m)
    (hstays : m.next p.config w = m) :
    ∃ steps, ∀ more, (p.momentAfter source w (steps + more)).written = m.written := by
  rcases h with ⟨steps, hmoment⟩
  refine ⟨steps, fun more => ?_⟩
  rw [momentAfter_eq, Moment.after_add, hmoment, Moment.after_of_next_eq hstays]

/-- Within its limit a writer gets everything, and the stream ends as with a sink that
    takes everything. -/
theorem endsOver_of_fits
    (hfits : ((StreamState.start p.config p.query .empty).takeLines p.config
      (p.buffered source).lines).state.sink.written.size ≤ w.limit) :
    p.EndsOver source w (p.process source .empty) ∧
      ∃ steps, ∀ more, (p.momentAfter source w (steps + more)).written =
        (p.process source .empty).1.2.written.toList := by
  have hended := Moment.reaches_ended rfl hfits
  constructor
  · rw [process, runStream_eq]
    exact endsOver_of_reaches hended
  · rw [process_fst, runStream_snd, ← Moment.written_ended]
    exact written_of_reaches hended rfl

namespace FillsAt

variable {rest : Bytes} (h : FillsAt p source w before line rest s)
include h

/-- With a writer that fails a stream ends when the writer is full. -/
theorem reaches_ended {failure : Failure} (hfault : w.fault = .failure failure)
    {source' : Source} {after' : List Bytes}
    (hlines : (p.buffered source').lines = before ++ line :: after') :
    Moment.Reaches p.config w (p.firstMoment source') (.ended (s.answered (some failure))) :=
  (h.reaches source' after' hlines).trans
    (Moment.reaches_next (Moment.next_failed p.config h.rest_ne h.full.symm.le hfault after'))

/-- With a writer that interrupts a stream stays where the writer is full. -/
theorem next_interrupted (hfault : w.fault = .interruption) (lines : List Bytes) :
    (Moment.writing rest s lines).next p.config w = .writing rest s lines :=
  Moment.next_interrupted p.config h.rest_ne h.full.symm.le hfault lines

/-- Whatever its fault is, the writer has the front of the output and gets no more. -/
theorem written (hlines : (p.buffered source).lines = before ++ line :: after) :
    ∃ steps, ∀ more, (p.momentAfter source w (steps + more)).written =
      s.sink.written.toList := by
  -- Either way there is a moment that is its own successor, with the same sink.
  cases hfault : w.fault with
  | interruption =>
      exact written_of_reaches (h.reaches source after hlines) (h.next_interrupted hfault after)
  | failure failure =>
      have hwritten := written_of_reaches (h.reaches_ended hfault hlines) rfl
      rw [Moment.written_ended, StreamState.sink_answered] at hwritten
      exact hwritten

end FillsAt

/-- With a writer that interrupts a stream does not end if it has more to write than the
    writer takes. -/
theorem neverEndsOver_of_interruption (p : StreamPipeline) (source : Source)
    (hover : w.limit < (p.process source .empty).1.2.written.toList.length)
    (hfault : w.fault = .interruption) : p.NeverEndsOver source w := by
  rcases p.within_or_stopsAt source w.limit with hfits | ⟨before, line, after, s, _, _, hstops⟩
  · rw [process_fst, runStream_snd] at hover
    exact absurd hfits (Nat.not_le_of_lt hover)
  · rcases fillsAt_of_stopsAt hstops with ⟨rest, s', hfills⟩
    exact neverEndsOver_of_reaches (hfills.reaches source after hstops.lines)
      (hfills.next_interrupted hfault after)

end StreamPipeline

end LogQuery
