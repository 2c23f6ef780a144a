import LogQuery.Json.Reader
import LogQuery.Logfmt
import LogQuery.Record.Flatten
import LogQuery.Text.Blank

/-!
# Formats of Input Lines

How a line of input becomes a record. In the plain format every line is a
record of its own text. The structured formats let blank lines pass without a
record and refuse what they cannot read, with a reason.

A line comes without its newline. A carriage return at its end belongs to the
line break and not to the record, in every format.

## Main definitions

* `LineFormat`: The formats.
* `LineFormat.read`: The record of a line, if it carries one.
* `LineFormat.readBytes`: The same for a line that may not even be a text.
* `LineFault`: Why a line cannot be read.
-/

namespace LogQuery

/-- A format of input lines. -/
inductive LineFormat where
  /-- Every line is a record of its text. -/
  | line
  /-- Every line is a JSON object. -/
  | jsonl
  /-- Every line is a list of `key=value` pairs. -/
  | logfmt
deriving DecidableEq, Repr, Inhabited

/-- Why a line cannot be read. -/
inductive LineFault where
  | objectExpected
  /-- The line is not JSON; the detail says where and why. -/
  | json (detail : String)
  | logfmt (fault : Logfmt.Fault)
  /-- The line is not a text. -/
  | encoding (fault : Utf8.Fault)
deriving DecidableEq

def LineFault.message : LineFault → String
  | objectExpected => "expected a JSON object"
  | json detail => "Failed to parse JSONL: " ++ detail
  | logfmt fault => fault.message
  | encoding fault => "invalid UTF-8: " ++ fault.message

namespace LineFormat

def name : LineFormat → String
  | line => "line"
  | jsonl => "jsonl"
  | logfmt => "logfmt"

/-- The record of a line that is a JSON object. -/
def readObject (text : List Char) : Except LineFault LogRecord :=
  match Json.parse text with
  | .ok (.object members) => .ok (.flatten members)
  | .ok _ => .error .objectExpected
  | .error fault => .error (.json (fault.message text))

/-- The record of a line of pairs. -/
def readPairs (text : List Char) : Except LineFault LogRecord :=
  match Logfmt.read text with
  | .ok pairs => .ok (.ofFields (pairs.map fun p => (p.1, .string p.2)))
  | .error fault => .error (.logfmt fault)

/-- Reads a line of a structured format; a blank line carries no record. -/
def readStructured (readRecord : List Char → Except LineFault LogRecord) (text : List Char) :
    Except LineFault (Option LogRecord) :=
  match trim isBlank text with
  | [] => .ok none
  | text => (readRecord text).map some

/-- The record of a line, if it carries one. -/
def read (format : LineFormat) (text : List Char) : Except LineFault (Option LogRecord) :=
  match format with
  | line => .ok (some (.ofText (String.ofList (trimEnd (· == '\r') text))))
  | jsonl => readStructured readObject text
  | logfmt => readStructured readPairs text

/-- The record of a line of bytes, if it carries one. -/
def readBytes (format : LineFormat) (bytes : Bytes) : Except LineFault (Option LogRecord) :=
  match Utf8.decode bytes with
  | .ok text => format.read text
  | .error fault => .error (.encoding fault)

end LineFormat

end LogQuery
