import LogQuery.Number.Basic

/-!
# Statistics

What is counted while a stream is processed, and the total over several
streams. Lines that cannot be read are listed with their reasons.

## Main definitions

* `Statistics`: The counts of one stream or of several.
* `Statistics.add`: The counts of two together.
* `Statistics.rate?`: Records per second.
-/

namespace LogQuery

/-- A line that could not be read. -/
structure BadLine where
  /-- The number of the line, counted from one. -/
  line : Nat
  format : String
  reason : String
deriving DecidableEq, Repr

/-- The counts of one stream or of several. -/
structure Statistics where
  /-- The lines of the input, bad and blank ones included. -/
  linesSeen : Nat
  /-- The records handed to the query. -/
  processed : Nat
  /-- The records written. -/
  output : Nat
  /-- The records that the query dropped. -/
  skipped : Nat
  /-- The lines that could not be read. -/
  errors : Nat
  badLines : Array BadLine
  /-- How long it took, in thousandths of a second. -/
  milliseconds : Nat
deriving DecidableEq

namespace Statistics

/-- Nothing has been counted. -/
def zero : Statistics := ⟨0, 0, 0, 0, 0, #[], 0⟩

instance : Inhabited Statistics := ⟨zero⟩

/-- The counts of two together, the bad lines of the first before those of the
    second. -/
def add (a b : Statistics) : Statistics where
  linesSeen := a.linesSeen + b.linesSeen
  processed := a.processed + b.processed
  output := a.output + b.output
  skipped := a.skipped + b.skipped
  errors := a.errors + b.errors
  badLines := a.badLines ++ b.badLines
  milliseconds := a.milliseconds + b.milliseconds

/-- Lists a line as bad. -/
def addBadLine (s : Statistics) (bad : BadLine) : Statistics :=
  { s with errors := s.errors + 1, badLines := s.badLines.push bad }

/-- A time in seconds: the whole seconds and the rest are rounded each before
    they are added. -/
def seconds? (milliseconds : Nat) : Option Binary64 := do
  let whole ← Binary64.ofNat? false (milliseconds / 1000)
  let rest ← Binary64.ofRatio? false (milliseconds % 1000) 1000
  whole.addMagnitude? rest

/-- Records per second, if there are records and time has passed. -/
def rate? (s : Statistics) : Option Binary64 :=
  if s.processed = 0 ∨ s.milliseconds = 0 then none
  else do
    let seconds ← seconds? s.milliseconds
    let processed ← Binary64.ofNat? false s.processed
    processed.div? seconds

/-- The digits of a number, with zeros in front to fill the width. -/
def padded (width n : Nat) : List Char :=
  let digits := decimalDigits n
  List.replicate (width - digits.length) '0' ++ digits

/-- A rate with six places. -/
def rateText (rate : Binary64) : String :=
  let millionths := Binary64.roundedQuotient (rate.magnitude * 1000000) Binary64.unitsPerOne
  String.ofList (decimalDigits (millionths / 1000000) ++ '.' :: padded 6 (millionths % 1000000))

end Statistics

end LogQuery
