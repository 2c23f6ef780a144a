import LogQuery.Stream.Pipeline

/-!
# Calls

Bytes are not written at once. A writer is called with all that is left to be
written, it takes some bytes from the front, and it is called again with the rest
until nothing is left. A call can also take nothing. If it fails, that is the end of
the writing, and the failure is reported. If it has only been interrupted, it is made
again, and the interruption is never reported. So a writer that does nothing but
interrupt is called for ever, and a stream that has come to such a writer never ends.
The text of a record may also be offered in several parts, one behind the other. Then a
call takes no more than what is left of a part, and that is a writer with smaller
portions.

A sink (`Sink`) is what all this comes to where it comes to something, and a pipeline
takes its streams with sinks. Here a stream goes from call to call, one step at a
time, with the same lines and the same turns. It ends if there is a number of steps
after which it has ended.

A flush is a call that is not made again, so its interruption is reported like any
other failure.

## Main definitions

* `Writer`: Takes so many bytes in all, in portions, and then no more.
* `Writer.answer`: The answer to a call.
* `Moment`: A stream between two calls.
* `Moment.next`: Makes the next call.
* `StreamPipeline.processAfter`: What a stream has come to after so many steps.
-/

namespace LogQuery

/-! ### Writers -/

/-- Why a writer takes no more. -/
inductive Fault where
  /-- Every call is interrupted. -/
  | interruption
  | failure (failure : Failure)
deriving DecidableEq, Repr

/-- The answer to a call. -/
inductive Answer where
  /-- So many bytes have been taken from the front. -/
  | taken (count : Nat)
  /-- Nothing has been done, and the call is to be made again. -/
  | interrupted
  | failed (failure : Failure)
deriving DecidableEq, Repr

/-- Takes so many bytes in all, in portions, and then no more. -/
structure Writer where
  /-- How many bytes it takes in all. -/
  limit : Nat
  /-- One less than the most bytes that it takes in one call, by how many it has taken
      before. -/
  portion : Nat → Nat
  /-- What happens to a call after that. -/
  fault : Fault

/-- The answer to a call with so many bytes to a writer that has taken so many. -/
def Writer.answer (w : Writer) (position offered : Nat) : Answer :=
  if position < w.limit then
    .taken (min offered (min (w.portion position + 1) (w.limit - position)))
  else
    match w.fault with
    | .interruption => .interrupted
    | .failure failure => .failed failure

/-! ### Steps -/

/-- A stream between two calls of its writer. The sink of its state has the bytes that
    the writer has taken, and its lines are those that it has not read yet. -/
inductive Moment where
  /-- A line is to be read. -/
  | reading (state : StreamState) (lines : List Bytes)
  /-- Bytes of an output record are to be written. -/
  | writing (bytes : Bytes) (state : StreamState) (lines : List Bytes)
  /-- No further turn is taken. -/
  | ended (turn : Turn)

/-- What follows a turn if there are so many lines behind it. -/
def Turn.followedBy (lines : List Bytes) : Turn → Moment
  | goOn s => .reading s lines
  | turn => .ended turn

namespace Moment

/-- Reads a line, makes a call, or ends the turn if there is nothing left to be
    written. -/
def next (config : StreamConfig) (w : Writer) : Moment → Moment
  | reading s [] => .ended (.goOn s)
  | reading s (line :: rest) =>
    match s.demand config line with
    | .nothing turn => turn.followedBy rest
    | .write bytes s => .writing bytes s rest
  | writing [] s lines => (s.answered none).followedBy lines
  | writing bytes s lines =>
    match w.answer s.sink.written.size bytes.length with
    | .taken count =>
      .writing (bytes.drop count)
        { s with sink.written := s.sink.written ++ bytes.take count } lines
    | .interrupted => .writing bytes s lines
    | .failed failure => .ended (s.answered (some failure))
  | ended turn => .ended turn

/-- The moment so many steps later. -/
def after (config : StreamConfig) (w : Writer) : Nat → Moment → Moment
  | 0, m => m
  | steps + 1, m => after config w steps (m.next config w)

/-- The bytes that the writer has taken. -/
def written : Moment → Bytes
  | reading s _ | writing _ s _ | ended (.goOn s) | ended (.close s) | ended (.fail _ s) =>
    s.sink.written.toList

end Moment

/-! ### Streams -/

namespace StreamPipeline

/-- A stream that writes to a writer, after so many steps. -/
def momentAfter (p : StreamPipeline) (source : Source) (w : Writer) (steps : Nat) : Moment :=
  let (lines, _) := source.readThrough p.config.bufferSize
  Moment.after p.config w steps (.reading (.start p.config p.query .empty) lines)

/-- What a stream that writes to a writer has come to after so many steps, if it has
    ended by then. -/
def processAfter (p : StreamPipeline) (source : Source) (w : Writer) (steps : Nat) :
    Option ((Except ProcessingError Statistics × Sink) × StreamPipeline) :=
  let (_, failure) := source.readThrough p.config.bufferSize
  match p.momentAfter source w steps with
  | .ended turn => some (p.settle (turn.conclude failure))
  | _ => none

end StreamPipeline

end LogQuery
