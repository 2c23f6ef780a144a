import LogQuery.Color
import LogQuery.Logfmt
import LogQuery.Record.Encoding

/-!
# Output Lines

An output record is written as one line: either as JSON, with its color and
its variables, or as text, in the color of its tag. A formatter writes the
records of one output and remembers the colors that it has given to their
tags.

## Main definitions

* `OutputFormat`: The two forms of a line.
* `OutputFormatter`: A formatter between two records.
* `OutputFormatter.write`: The line of a record, with its newline.
-/

namespace LogQuery

/-- The form of output lines. -/
inductive OutputFormat where
  /-- The record with its color and variables, as JSON. -/
  | jsonl
  /-- The text of the record. -/
  | line
deriving DecidableEq, Repr, Inhabited

/-- A formatter between two records. -/
structure OutputFormatter where
  format : OutputFormat
  useColors : Bool
  colors : ColorAllocator
deriving Inhabited

namespace OutputFormatter

/-- A formatter that has not written anything. -/
def start (format : OutputFormat) (useColors : Bool) : OutputFormatter :=
  ⟨format, useColors, .empty⟩

/-- The code for the color of a record, if it is to be colored. -/
def code (f : OutputFormatter) (o : OutputRecord) : Option String × OutputFormatter :=
  match o.color with
  | some tag =>
    if f.useColors then
      let (code, colors) := f.colors.code tag
      (code, { f with colors })
    else (none, f)
  | none => (none, f)

/-- The line of a record as text. -/
def textLine (code : Option String) (r : LogRecord) : String :=
  match code with
  | some code => code ++ Logfmt.record r ++ Color.reset ++ "\n"
  | none => Logfmt.record r ++ "\n"

/-- The line of a record, with its newline. -/
def write (f : OutputFormatter) (o : OutputRecord) : String × OutputFormatter :=
  match f.format with
  | .jsonl => (o.toJson.compact ++ "\n", f)
  | .line =>
    let (code, f) := f.code o
    (textLine code o.record, f)

end OutputFormatter

end LogQuery
