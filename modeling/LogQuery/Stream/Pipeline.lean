import LogQuery.Output
import LogQuery.Run
import LogQuery.Statistics
import LogQuery.Stream.Buffer
import LogQuery.Stream.Error

/-!
# Pipelines

A pipeline takes streams through a query: it reads lines, makes records of
them, runs the query over the records and writes what is left. Every stream is
a run of its own and has a formatter of its own; all that a pipeline carries
from one stream to the next is the total of its statistics, and a stream that
fails does not count in it.

One turn of the loop takes one line, and there are three ways in which it ends:
the stream goes on, or it closes because nobody reads its output any more, or
it fails. What a line asks to be written is worked out before anything is
written, so that the same turn can be taken with a sink, which takes its bytes at
once, and with a writer, which takes them call by call.

The loop itself takes lines from any reader and never asks for the size of a buffer
(`StreamState.takeLines`). A buffer of the configured size is put before the source by
whoever runs the stream. Since every stream is run so, the two are taken together
here: `runStream` puts the source behind the buffer and then takes its lines, and
`buffered` says in short what comes through.

## Main definitions

* `StreamConfig`: How a pipeline reads and writes.
* `StreamState`: A stream between two lines.
* `StreamState.demand`: What a line asks to be written.
* `StreamState.takeLine`: Takes one line.
* `StreamPipeline.process`: Takes a whole stream.
-/

namespace LogQuery

/-- What to do about a line that cannot become a record. -/
inductive BadLinePolicy where
  /-- Note it and go on. -/
  | skip
  | failFast
deriving DecidableEq, Repr, Inhabited

/-- How a pipeline reads and writes. -/
structure StreamConfig where
  badLines : BadLinePolicy := .skip
  /-- The size of the buffer that the source is put behind. Nothing fits through an
      empty one. -/
  bufferSize : Nat := 65536
  /-- How many bytes a line may have. -/
  maxLineLength : Nat := 1048576
  /-- After how many records to report progress, or zero for never. The
      reports are not part of the output. -/
  progressInterval : Nat := 0
  inputFormat : LineFormat := .line
  outputFormat : OutputFormat := .jsonl
  useColors : Bool := false
deriving Inhabited

/-- The record of a line, if it carries one. -/
def StreamConfig.readLine (config : StreamConfig) (line : Bytes) :
    Except LineProblem (Option LogRecord) :=
  if config.maxLineLength < line.length then
    .error (.tooLong line.length config.maxLineLength)
  else (config.inputFormat.readBytes line).mapError .unreadable

/-- A stream between two lines. -/
structure StreamState where
  run : QueryRun
  formatter : OutputFormatter
  sink : Sink
  statistics : Statistics

/-- How a turn of a stream ends. -/
inductive Turn where
  | goOn (state : StreamState)
  /-- Nobody reads the output any more. -/
  | close (state : StreamState)
  | fail (error : ProcessingError) (state : StreamState)

/-- What a line asks of its stream. -/
inductive Demand where
  /-- There is nothing to be written, and the turn ends. -/
  | nothing (turn : Turn)
  /-- Bytes are to be written before the turn can end. -/
  | write (bytes : Bytes) (state : StreamState)

namespace StreamState

/-- A stream before its first line. -/
def start (config : StreamConfig) (query : CompiledQuery) (sink : Sink) : StreamState :=
  ⟨query.start, .start config.outputFormat config.useColors, sink, .zero⟩

/-- How a turn ends after the bytes of an output record have been written, or have
    not been. -/
def answered (s : StreamState) : Option Failure → Turn
  | none => .goOn { s with statistics.output := s.statistics.output + 1 }
  | some failure => if failure.kind = .brokenPipe then .close s else .fail (.io failure) s

/-- Takes a record through the query. -/
def takeRecord (s : StreamState) (record : LogRecord) : Demand :=
  let (output, run) := s.run.process record
  let s := { s with run, statistics.processed := s.statistics.processed + 1 }
  match output with
  | some o =>
    let (text, formatter) := s.formatter.write o
    .write (Utf8.ofString text) { s with formatter }
  | none => .nothing (.goOn { s with statistics.skipped := s.statistics.skipped + 1 })

/-- Deals with a line that cannot become a record. -/
def takeProblem (config : StreamConfig) (s : StreamState) (problem : LineProblem) : Turn :=
  let line := s.statistics.linesSeen
  match config.badLines with
  | .failFast => .fail (problem.toError line config.inputFormat) s
  | .skip =>
    let bad := ⟨line, config.inputFormat.name, problem.message⟩
    .goOn { s with statistics := s.statistics.addBadLine bad }

/-- Takes one line up to the point where something is written for it. -/
def demand (config : StreamConfig) (s : StreamState) (line : Bytes) : Demand :=
  let s := { s with statistics.linesSeen := s.statistics.linesSeen + 1 }
  match config.readLine line with
  | .error problem => .nothing (s.takeProblem config problem)
  | .ok none => .nothing (.goOn s)
  | .ok (some record) => s.takeRecord record

/-- Takes one line. -/
def takeLine (config : StreamConfig) (s : StreamState) (line : Bytes) : Turn :=
  match s.demand config line with
  | .nothing turn => turn
  | .write bytes s =>
    let (failure, sink) := s.sink.write bytes
    { s with sink }.answered failure

/-- Takes lines as long as the stream goes on. -/
def takeLines (config : StreamConfig) (s : StreamState) : List Bytes → Turn
  | [] => .goOn s
  | line :: rest =>
    match s.takeLine config line with
    | .goOn s => takeLines config s rest
    | turn => turn

/-- The end of a stream that has written what it had to write. A sink that
    nobody reads has nothing to lose. -/
def finish (s : StreamState) : Except ProcessingError Statistics × Sink :=
  match s.sink.flushFailure with
  | some failure =>
    if failure.kind = .brokenPipe then (.ok s.statistics, s.sink)
    else (.error (.io failure), s.sink)
  | none => (.ok s.statistics, s.sink)

end StreamState

/-- The end of a stream after its last turn. Behind the last line stands the end of
    the source or its failure, and an end that comes too early is an end like any
    other. -/
def Turn.conclude (failure : Option Failure) : Turn → Except ProcessingError Statistics × Sink
  | fail error s => (.error error, s.sink)
  | close s => s.finish
  | goOn s =>
    match failure with
    | none => s.finish
    | some failure =>
      if failure.kind = .unexpectedEnd then s.finish else (.error (.io failure), s.sink)

/-- A pipeline between two streams. -/
structure StreamPipeline where
  query : CompiledQuery
  config : StreamConfig
  /-- The statistics of the streams that have not failed. -/
  total : Statistics
deriving Inhabited

namespace StreamPipeline

/-- A pipeline that has not taken a stream. -/
def start (query : CompiledQuery) (config : StreamConfig) : StreamPipeline :=
  ⟨query, config, .zero⟩

/-- The source as it comes through the buffer that it is put behind, which is none of
    the loop's business. Nothing fits through an empty buffer, so that the source seems
    to end at once, but a source that fails before its first byte fails all the
    same. -/
def buffered (p : StreamPipeline) (source : Source) : Source :=
  if p.config.bufferSize = 0 && !source.bytes.isEmpty then .ofBytes [] else source

/-- Puts the source behind a buffer of the configured size, and takes a stream from
    there to its sink. -/
def runStream (p : StreamPipeline) (source : Source) (sink : Sink) :
    Except ProcessingError Statistics × Sink :=
  let (lines, failure) := source.readThrough p.config.bufferSize
  ((StreamState.start p.config p.query sink).takeLines p.config lines).conclude failure

/-- Counts what a stream has come to in the total, unless the stream has failed. -/
def settle (p : StreamPipeline) :
    Except ProcessingError Statistics × Sink →
      (Except ProcessingError Statistics × Sink) × StreamPipeline
  | (.ok statistics, sink) =>
    ((.ok statistics, sink), { p with total := p.total.add statistics })
  | (.error error, sink) => ((.error error, sink), p)

/-- Takes a stream and counts it in the total unless it fails. -/
def process (p : StreamPipeline) (source : Source) (sink : Sink) :
    (Except ProcessingError Statistics × Sink) × StreamPipeline :=
  p.settle (p.runStream source sink)

end StreamPipeline

end LogQuery
