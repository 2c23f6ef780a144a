import LogQuery.LineFormat
import LogQuery.Stream.Channel

/-!
# Errors of a Stream

A stream can fail because a line cannot become a record and the stream is not
to go on without it, or because its source or its sink fails.

## Main definitions

* `LineProblem`: Why a line cannot become a record.
* `ProcessingError`: Why a stream has failed.
-/

namespace LogQuery

/-- Why a stream has failed. -/
inductive ProcessingError where
  | parse (line : Nat) (format reason : String)
  | io (failure : Failure)
  | lineTooLong (length limit : Nat)
  | output (reason : String)
deriving DecidableEq

def ProcessingError.message : ProcessingError → String
  | parse line format reason =>
    "Parse error on line " ++ toString line ++ " (" ++ format ++ "): " ++ reason
  | io failure => "IO error: " ++ failure.message
  | lineTooLong length limit =>
    "Line too long: " ++ toString length ++ " > " ++ toString limit
  | output reason => "Output error: " ++ reason

/-- Why a line cannot become a record. -/
inductive LineProblem where
  | tooLong (length limit : Nat)
  | unreadable (fault : LineFault)
deriving DecidableEq

namespace LineProblem

/-- The error of a stream that does not go on without the line. -/
def toError (line : Nat) (format : LineFormat) : LineProblem → ProcessingError
  | tooLong length limit => .lineTooLong length limit
  | unreadable fault => .parse line format.name fault.message

/-- What is noted about the line in a stream that goes on without it. -/
def message : LineProblem → String
  | tooLong length limit => (ProcessingError.lineTooLong length limit).message
  | unreadable fault => fault.message

end LineProblem

end LogQuery
