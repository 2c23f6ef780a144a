import LogQuery.Proofs.CommandLine.Delivery

/-!
# The Size of the Buffer

A run reads its log through a buffer. How large that is can be asked for, and it
should be nobody's concern. What comes through a buffer with room is the log, line by
line, wherever the fillings end (`Source.readThrough_of_room`), and the size has no
other part in a stream, so two runs that differ in it alone are the same
(`process_bufferSize`). They are the same as well if they end before a buffer is
needed.

The two ends of the scale are different, and both can be asked for. Nothing comes
through a buffer without room, so the run takes every log for an empty one and ends
well (`process_without_room`). A buffer that is larger than anything that can be had
ends the run before it starts (`process_impossible`).

## Theorems

* `takeLines_bufferSize`: A stream does not look at the size of its buffer.
* `deliver_bufferSize`: Nor does what is delivered depend on it.
* `process_bufferSize`: Nor does a run.
* `process_without_room`: A run without room in its buffer.
* `buffer_size_unseen`: When command lines may differ in the size of their buffers.
* `empty_buffer_reads_nothing`: A run that asks for no room.
-/

namespace LogQuery

/-! ### Streams -/

/-- A configuration with another buffer. -/
def StreamConfig.withBuffer (config : StreamConfig) (size : Nat) : StreamConfig :=
  { config with bufferSize := size }

theorem takeLines_bufferSize (config : StreamConfig) (size : Nat) (s : StreamState)
    (lines : List Bytes) :
    s.takeLines (config.withBuffer size) lines = s.takeLines config lines := by
  induction lines generalizing s with
  | nil => rfl
  | cons line rest ih =>
      have hline : s.takeLine (config.withBuffer size) line = s.takeLine config line := rfl
      rw [StreamState.takeLines, StreamState.takeLines, hline]
      cases s.takeLine config line with
      | goOn s' => exact ih s'
      | close s' => rfl
      | fail error s' => rfl

namespace CommandLine

variable {query : CompiledQuery} {config : StreamConfig} {size : Nat}

/-- Through any buffer with room, the same is delivered. -/
theorem deliver_bufferSize (hroom : 0 < config.bufferSize) (hsize : 0 < size) (source : Source) :
    deliver query (config.withBuffer size) source = deliver query config source := by
  have hrun : (StreamPipeline.start query (config.withBuffer size)).runStream source .empty =
      (StreamPipeline.start query config).runStream source .empty := by
    have hread : source.readThrough (config.withBuffer size).bufferSize =
        source.readThrough config.bufferSize :=
      (Source.readThrough_of_room hsize source).trans (Source.readThrough_of_room hroom source).symm
    have hlines := takeLines_bufferSize config size (.start config query .empty)
      (source.readThrough config.bufferSize).1
    simp only [StreamPipeline.runStream, StreamPipeline.start, hread]
    rw [← hlines]
    rfl
  rw [deliver, deliver, hrun]

/-- Through a buffer without room, a log is delivered as if it were empty. -/
theorem deliver_without_room (hroom : config.bufferSize = 0) (log : Bytes) :
    deliver query config (.ofBytes log) = ⟨0, "", []⟩ := by
  have hnothing := deliver_nothing query config
  have hbuffered : (StreamPipeline.start query config).buffered (.ofBytes log) =
      (StreamPipeline.start query config).buffered (.ofBytes []) := by
    cases log with
    | nil => rfl
    | cons first more =>
        have hzero : (StreamPipeline.start query config).config.bufferSize = 0 := hroom
        simp only [StreamPipeline.buffered, hzero, Source.ofBytes, List.isEmpty_cons,
          List.isEmpty_nil, decide_true, Bool.not_false, Bool.not_true, Bool.and_self,
          Bool.and_false, if_true, Bool.false_eq_true, if_false]
  rw [deliver, StreamPipeline.runStream_eq] at hnothing ⊢
  rw [hbuffered]
  exact hnothing

/-! ### Runs -/

variable {arguments : ProcessArguments} {around : Surrounding} {queries : Query × CompiledQuery}

/-- Arguments with another buffer. -/
def withBuffer (arguments : ProcessArguments) (size : Nat) : ProcessArguments :=
  { arguments with bufferSize := size }

theorem stream_bufferSize (hroom : 0 < arguments.bufferSize) (hsize : 0 < size)
    (query : CompiledQuery) (files : FileTree) :
    stream query (withBuffer arguments size) around files =
      stream query arguments around files := by
  have hinput : (withBuffer arguments size).input = arguments.input := rfl
  cases hlog : logSource around files (file? arguments.input) with
  | error error =>
      rw [stream, stream, hinput, hlog]
  | ok source =>
      have hlog' : logSource around files (file? (withBuffer arguments size).input) =
          .ok source := hlog
      have hdeliver := @deliver_bufferSize query (CommandLine.config arguments around) size hroom
        hsize source
      rw [stream_eq query hlog, stream_eq query hlog', ← hdeliver]
      rfl

/-- Two runs with room in buffers that can be had are the same. -/
theorem process_bufferSize (hroom : 0 < arguments.bufferSize)
    (hpossible : arguments.bufferSize < impossibleSize) (hsize : 0 < size)
    (hpossible' : size < impossibleSize) :
    process (withBuffer arguments size) around = process arguments around := by
  have hopen : ∀ query, openAndStream query (withBuffer arguments size) around =
      openAndStream query arguments around := by
    intro query
    have houtput : (withBuffer arguments size).output = arguments.output := rfl
    rw [openAndStream, openAndStream, houtput]
    cases file? arguments.output with
    | none => exact stream_bufferSize hroom hsize query around.files
    | some name =>
        simp only []
        cases around.files.create name with
        | ok made => exact stream_bufferSize hroom hsize query made
        | error error => rfl
  have hhere : ¬ impossibleSize ≤ arguments.bufferSize := Nat.not_le_of_lt hpossible
  have hthere : ¬ impossibleSize ≤ (withBuffer arguments size).bufferSize :=
    Nat.not_le_of_lt hpossible'
  rw [process, process]
  simp only [if_neg hhere, if_neg hthere, hopen]
  rfl

/-- A run that is not set up does not come to need a buffer. -/
theorem process_bufferSize_of_not_ready (h : ¬ IsReady arguments around) (size : Nat) :
    process (withBuffer arguments size) around = process arguments around := by
  cases hquery : arguments.query.compile around.files with
  | error error =>
      have hquery' : (withBuffer arguments size).query.compile around.files = .error error := hquery
      rw [process_of_rejected hquery, process_of_rejected hquery']
  | ok queries =>
      have hquery' : (withBuffer arguments size).query.compile around.files = .ok queries := hquery
      cases hlog : logSource around around.files (file? arguments.input) with
      | error error =>
          have hlog' : logSource around around.files (file? (withBuffer arguments size).input) =
              .error error := hlog
          rw [process_of_no_log hquery hlog, process_of_no_log hquery' hlog']
          rfl
      | ok source => exact absurd ⟨⟨queries, hquery⟩, ⟨source, hlog⟩⟩ h

/-- A run without room in its buffer ends well and leaves nothing in its output, which
    it makes all the same. -/
theorem process_without_room {log : Bytes}
    (hquery : arguments.query.compile around.files = .ok queries)
    (hlog : logSource around around.files (file? arguments.input) = .ok (.ofBytes log))
    (hroom : arguments.bufferSize = 0) :
    (file? arguments.output = none → process arguments around = .silent around.files 0) ∧
    ∀ name made, file? arguments.output = some name → around.files.create name = .ok made →
      process arguments around = .silent made 0 := by
  have hpossible : arguments.bufferSize < impossibleSize := by
    rw [hroom]
    decide
  have hnothing : deliver queries.2 (CommandLine.config arguments around) (.ofBytes log) =
      ⟨0, "", []⟩ :=
    deliver_without_room hroom log
  refine ⟨fun houtput => ?_, fun name made houtput hcreate => ?_⟩
  · rw [process_to_stdout hquery hlog hpossible houtput, hnothing]
    rfl
  · -- Behind the making of the output, the log is what it was or it is empty.
    by_cases hoverwrites : OverwritesLog name arguments around.files
    · exact process_of_overwrites hquery hpossible houtput hcreate hoverwrites
    · have hagain := logSource_created hlog hcreate hoverwrites
      have hmade : made = around.files.write name [] := create_eq_ok hcreate
      rw [process_to_file hquery hlog hpossible houtput hcreate hagain, hnothing, hmade]
      simp only [Delivery.placed, FileTree.write_write]
      rfl

/-! ### Command lines -/

/-- Two command lines that differ in the size of their buffers do the same if both
    sizes leave room and can be had, or if the run is not set up, whatever the sizes
    are. Otherwise, a size that cannot be had ends the run with the code 101 before it
    touches anything, and with the size zero every log is taken for an empty one: the
    run ends well, prints nothing and empties its output. There is taken to be memory
    for every buffer below `impossibleSize`. -/
theorem buffer_size_unseen {words others : List String} {arguments : ProcessArguments}
    {size : Nat} (hwords : Invocation.ofArguments words = .process arguments)
    (hothers : Invocation.ofArguments others = .process (withBuffer arguments size))
    (around : Surrounding) :
    (1 ≤ arguments.bufferSize → arguments.bufferSize < impossibleSize → 1 ≤ size →
      size < impossibleSize → run others around = run words around) ∧
    (¬ IsReady arguments around → run others around = run words around) ∧
    (IsReady arguments around →
      (impossibleSize ≤ size → run others around = .silent around.files 101) ∧
      (size = 0 →
        ∀ log, logSource around around.files (file? arguments.input) = .ok (.ofBytes log) →
          (file? arguments.output = none → run others around = .silent around.files 0) ∧
          ∀ name made, file? arguments.output = some name →
            around.files.create name = .ok made → run others around = .silent made 0)) := by
  have hhere : run words around = process arguments around := by
    rw [run, hwords, execute]
  have hthere : run others around = process (withBuffer arguments size) around := by
    rw [run, hothers, execute]
  rw [hhere, hthere]
  refine ⟨process_bufferSize, fun h => process_bufferSize_of_not_ready h size, fun hready => ?_⟩
  rcases hready with ⟨⟨queries, hquery⟩, ⟨source, hlog⟩⟩
  have hquery' : (withBuffer arguments size).query.compile around.files = .ok queries := hquery
  refine ⟨fun himpossible => ?_, fun hzero log hbytes => ?_⟩
  · have hlog' : logSource around around.files (file? (withBuffer arguments size).input) =
        .ok source := hlog
    rw [process_impossible hquery' hlog' himpossible]
  · have hbytes' : logSource around around.files (file? (withBuffer arguments size).input) =
        .ok (.ofBytes log) := hbytes
    have hroom : (withBuffer arguments size).bufferSize = 0 := hzero
    exact process_without_room hquery' hbytes' hroom

/-- Standard input with a letter of two bytes, and a last line without a newline. -/
def accented : Surrounding :=
  { input := Utf8.ofString "d\u00e9j\u00e0 vu\nb", files := .ofFiles [] }

/-- Words for a run that lets all lines through a buffer of a size. -/
def bufferedWords (size : String) : List String :=
  ["process", "--query-json", everyRecord, "--output-format", "line", "--buffer-size", size]

/-- What these words ask for, with the size of the buffer. -/
def bufferedArguments (size : Nat) : ProcessArguments where
  query := ⟨none, some everyRecord⟩
  input := none
  output := none
  inputFormat := .line
  outputFormat := .line
  color := .auto
  failFast := false
  progress := none
  maxLineLength := 1048576
  bufferSize := size

/-- Through a buffer for one byte, every letter with an accent is broken up, and the
    lines are those that come through a buffer for all of them. -/
theorem buffer_size_unseen_accented :
    Invocation.ofArguments (bufferedWords "1") = .process (bufferedArguments 1) ∧
    Invocation.ofArguments (bufferedWords "65536") =
      .process (withBuffer (bufferedArguments 1) 65536) ∧
    run (bufferedWords "65536") accented = run (bufferedWords "1") accented := by
  have hone : Invocation.ofArguments (bufferedWords "1") = .process (bufferedArguments 1) := by
    decide +kernel
  have hmany : Invocation.ofArguments (bufferedWords "65536") =
      .process (withBuffer (bufferedArguments 1) 65536) := by
    decide +kernel
  exact ⟨hone, hmany, (buffer_size_unseen hone hmany accented).1 (by decide) (by decide)
    (by decide) (by decide)⟩

/-- A run that asks for no room is accepted, and it ends as well as one that asks for
    room for one byte, but it does not print the lines. -/
theorem empty_buffer_reads_nothing :
    Invocation.ofArguments (bufferedWords "1") = .process (bufferedArguments 1) ∧
    Invocation.ofArguments (bufferedWords "0") = .process (bufferedArguments 0) ∧
    (run (bufferedWords "1") accented).code = 0 ∧
    (run (bufferedWords "1") accented).output = Utf8.ofString "d\u00e9j\u00e0 vu\nb\n" ∧
    (run (bufferedWords "0") accented).code = 0 ∧
    (run (bufferedWords "0") accented).output = [] := by
  decide +kernel

end CommandLine

end LogQuery
