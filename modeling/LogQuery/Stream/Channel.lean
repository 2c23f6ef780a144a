import LogQuery.Text.Utf8

/-!
# Channels

What a stream reads from and writes to. Reading and writing may fail, and then
the moment of the failure matters: what was read before it has been processed
and what was written before it is there. So a failure is part of a channel
from the start. A source gives its bytes and then ends or fails; a sink takes
as many bytes as it has room for and then fails.

A failure is what a call is answered with in the end. A call to read or to write that
has only been interrupted is made again, so an interruption is not a failure, and a
source or a sink that is interrupted now and then is like one that never is. What
comes of a writer that does nothing but interrupt is a matter of calls
(`LogQuery.Stream.Calls`). Only a flush is not made again, and an interruption of it
counts among the other failures.

A source is looked at in lines. A line ends with a newline, which is removed,
or with the end of the source if anything stands before it there. When the
source fails, the line that it breaks off is lost.

## Main definitions

* `Source`: Bytes to be read, and how their reading ends.
* `Source.lines`: The lines that can be read.
* `Sink`: Bytes written, and the room left.
* `Sink.write`: Writes as many bytes as there is room for.
-/

namespace LogQuery

/-- The kinds of failure that are told apart. An interrupted call is made again and
    never reported, so there is no kind for it. -/
inductive FailureKind where
  /-- The other side has ended too early. -/
  | unexpectedEnd
  /-- Nobody reads what is written. -/
  | brokenPipe
  /-- Every other kind that is reported. -/
  | other
deriving DecidableEq, Repr

/-- A failure to read or to write. -/
structure Failure where
  kind : FailureKind
  message : String
deriving DecidableEq, Repr

/-! ### Lines -/

/-- The complete lines among bytes, and what follows the last newline. The
    lines and the bytes read so far come in reverse. -/
def splitLinesFrom (lines : List Bytes) (line : Bytes) : Bytes → List Bytes × Bytes
  | [] => (lines.reverse, line.reverse)
  | b :: rest =>
    if b = 0x0a then splitLinesFrom (line.reverse :: lines) [] rest
    else splitLinesFrom lines (b :: line) rest

/-- The complete lines among bytes, without their newlines, and what follows
    the last newline. -/
def splitLines (bytes : Bytes) : List Bytes × Bytes := splitLinesFrom [] [] bytes

/-! ### Sources -/

/-- Bytes to be read, and how their reading ends. -/
structure Source where
  bytes : Bytes
  /-- The failure that comes in place of the end. -/
  failure : Option Failure
deriving Inhabited

namespace Source

/-- A source that does not fail. -/
def ofBytes (bytes : Bytes) : Source := ⟨bytes, none⟩

/-- The lines that can be read. -/
def lines (s : Source) : List Bytes :=
  let (complete, last) := splitLines s.bytes
  if s.failure.isSome || last.isEmpty then complete else complete ++ [last]

end Source

/-! ### Sinks -/

/-- Bytes written, and the room left. -/
structure Sink where
  written : Array UInt8
  /-- How many more bytes it takes, and the failure that comes then; without
      it there is room for everything. -/
  room : Option (Nat × Failure)
  /-- The failure of the last step, in which nothing is written. -/
  flushFailure : Option Failure
deriving Inhabited

namespace Sink

/-- A sink that does not fail. -/
def empty : Sink := ⟨#[], none, none⟩

/-- Writes as many bytes as there is room for. Gives the failure that is reported if
    there is not room for all of them. This is what the calls to a writer come to that
    takes as many bytes and then fails (`reaches_write`). -/
def write (s : Sink) (bytes : Bytes) : Option Failure × Sink :=
  match s.room with
  | none => (none, { s with written := s.written ++ bytes })
  | some (room, failure) =>
    if bytes.length ≤ room then
      (none, { s with
        written := s.written ++ bytes, room := some (room - bytes.length, failure) })
    else
      (some failure, { s with
        written := s.written ++ bytes.take room, room := some (0, failure) })

end Sink

end LogQuery
