import LogQuery.Record.Basic
import LogQuery.Json.Skip
import LogQuery.Text.Quoted

/-!
# Records from JSON

The way back from JSON to records, from a tree and from a text. A line takes
`null` or a string, fields and variables take an object of scalars, and
members with other names are passed over. A record may also be given as an
array of its line and its fields; an output record may not.

Reading from a text is not reading a tree first. A repeated `text` or `fields`
is an error where a tree would have kept the last one, a repeated field must be
a scalar each time and not only in the end, and of a wrong shape and a fault in
the text the one that comes first is reported. Members that belong to the record
inside an output record are looked at only after its own members, so errors in
them come last; until then they are kept as they stand in the text.

## Main definitions

* `DecodeError`: Why something is not the JSON form of a record.
* `LogRecord.ofJson`, `OutputRecord.ofJson`, `Results.ofJson`: From a tree.
* `LogRecord.ofJsonText`, `OutputRecord.ofJsonText`, `Results.ofJsonText`: From
  a text.
-/

namespace LogQuery

/-- What was found where something else was expected. -/
inductive Found where
  | null
  | boolean (value : Bool)
  | number (value : Number)
  | string (value : String)
  | sequence
  | map
deriving DecidableEq

def Found.ofJson : Json → Found
  | .null => null
  | .bool value => boolean value
  | .number value => number value
  | .string value => string value
  | .array _ => sequence
  | .object _ => map

def Found.message : Found → String
  | null => "null"
  | boolean true => "boolean `true`"
  | boolean false => "boolean `false`"
  | number (.integer value inRange) => "integer `" ++ (Number.integer value inRange).text ++ "`"
  | number (.real value) => "floating point `" ++ (Number.real value).text ++ "`"
  | string value => "string " ++ quoted value
  | sequence => "sequence"
  | map => "map"

/-- What was expected. -/
inductive Shape where
  | string
  | map
  | sequence
  | logRecord
  | outputRecord
  | results
deriving DecidableEq, Repr

def Shape.message : Shape → String
  | string => "a string"
  | map => "a map"
  | sequence => "a sequence"
  | logRecord => "struct LogRecord"
  | outputRecord => "struct OutputRecord"
  | results => "struct Results"

/-- Why something is not the JSON form of a record. -/
inductive DecodeError where
  | malformed (cause : Json.Cause)
  | wrongShape (found : Found) (expected : Shape)
  | duplicateField (name : String)
  | missingField (name : String)
  /-- A value that is an array or an object. -/
  | notScalar
  /-- An array with more elements than the shape has. -/
  | tooLong (length : Nat)
  /-- An array with too few elements to give the shape. -/
  | tooShort (shape : Shape)
deriving DecidableEq

def DecodeError.message : DecodeError → String
  | malformed cause => cause.message
  | wrongShape found expected =>
    "invalid type: " ++ found.message ++ ", expected " ++ expected.message
  | duplicateField name => "duplicate field `" ++ name ++ "`"
  | missingField name => "missing field `" ++ name ++ "`"
  | notScalar => "data did not match any variant of untagged enum Value"
  | tooLong length =>
    "invalid length " ++ toString length ++ ", expected fewer elements in array"
  | tooShort shape => "invalid length 0, expected " ++ shape.message ++ " with 1 element"

/-- A fault of the text as an error of decoding. -/
def DecodeError.ofFault (fault : Json.Fault) : DecodeError := .malformed fault.cause

/-! ### From a tree -/

namespace Decode

/-- Takes nothing, which is written as `null`. -/
def absent? : Json → Option Value
  | .null => some .absent
  | _ => none

def boolean? : Json → Option Value
  | .bool value => some (.boolean value)
  | _ => none

def number? : Json → Option Value
  | .number value => some (.number value)
  | _ => none

def string? : Json → Option Value
  | .string value => some (.string value)
  | _ => none

/-- The shapes of a scalar, in the order in which they are tried. The written
    form does not say which one it is of. -/
def scalarShapes : List (Json → Option Value) := [absent?, boolean?, number?, string?]

/-- A scalar: what the first shape takes that takes anything. -/
def scalar (json : Json) : Except DecodeError Value :=
  match scalarShapes.findSome? (· json) with
  | some value => .ok value
  | none => .error .notScalar

/-- A string that may be missing. -/
def optionalString : Json → Except DecodeError (Option String)
  | .null => .ok none
  | .string s => .ok (some s)
  | json => .error (.wrongShape (.ofJson json) .string)

/-- An object of scalars. -/
def bindings : Json → Except DecodeError (Bindings Value)
  | .object members =>
    members.foldlM (fun acc member => do .ok (acc.set member.1 (← scalar member.2))) .empty
  | json => .error (.wrongShape (.ofJson json) .map)

/-- The members of a record; others are passed over. -/
def record (members : List (String × Json)) : Except DecodeError LogRecord :=
  members.foldlM
    (fun acc member => do
      if member.1 = "text" then .ok { acc with text := ← optionalString member.2 }
      else if member.1 = "fields" then .ok { acc with fields := ← bindings member.2 }
      else .ok acc)
    .empty

end Decode

/-- A record from its object, or from an array of its parts. -/
def LogRecord.ofJson : Json → Except DecodeError LogRecord
  | .object members => Decode.record members
  | .array [] => .ok .empty
  | .array [text] => do .ok { LogRecord.empty with text := ← Decode.optionalString text }
  | .array (text :: fields :: more) => do
    let text ← Decode.optionalString text
    let fields ← Decode.bindings fields
    if more.isEmpty then .ok ⟨text, fields⟩ else .error (.tooLong (more.length + 2))
  | json => .error (.wrongShape (.ofJson json) .logRecord)

/-- An output record from its object. -/
def OutputRecord.ofJson : Json → Except DecodeError OutputRecord
  | .object members => do
    let (color, vars) ← members.foldlM
      (fun (color, vars) member => do
        if member.1 = "color" then .ok (← Decode.optionalString member.2, vars)
        else if member.1 = "variables" then .ok (color, ← Decode.bindings member.2)
        else .ok (color, vars))
      (none, .empty)
    .ok ⟨← Decode.record members, color, vars⟩
  | json => .error (.wrongShape (.ofJson json) .outputRecord)

/-- The output records of an array. -/
def Decode.outputRecords : Json → Except DecodeError (List OutputRecord)
  | .array items => items.mapM OutputRecord.ofJson
  | json => .error (.wrongShape (.ofJson json) .sequence)

/-- Results from their object, or from an array of their one part. -/
def Results.ofJson : Json → Except DecodeError Results
  | .object members =>
    match Json.member? "records" members with
    | some records => (Decode.outputRecords records).map Results.mk
    | none => .error (.missingField "records")
  | .array [] => .error (.tooShort .results)
  | .array (records :: more) => do
    let records ← Decode.outputRecords records
    if more.isEmpty then .ok ⟨records⟩ else .error (.tooLong (more.length + 1))
  | json => .error (.wrongShape (.ofJson json) .results)

/-! ### From a text -/

namespace Decode

open Json (Reader)

/-- A reader of one thing that reports errors of decoding. -/
abbrev Decoder (α : Type) := Reader α DecodeError

/-- Turns faults of the text into errors of decoding. -/
def lift {α : Type} : Except Json.Fault α → Except DecodeError α
  | .ok a => .ok a
  | .error fault => .error (.ofFault fault)

/-- The error for a value of another shape, from its first character. A scalar
    is read to be named, and may turn out to be malformed. -/
def mismatch (expected : Shape) (cs : List Char) : DecodeError :=
  match cs with
  | '[' :: _ => .wrongShape .sequence expected
  | '\x7b' :: _ => .wrongShape .map expected
  | _ =>
    match Reader.scalar cs with
    | .ok (json, _) => .wrongShape (.ofJson json) expected
    | .error fault => .ofFault fault

/-- Reads a string or `null`. -/
def readOptionalString : Decoder (Option String) := fun cs =>
  match Reader.skipSpace cs with
  | [] => .error (.malformed .endInValue)
  | 'n' :: rest => lift ((Reader.word ['u', 'l', 'l'] rest).map fun (_, rest) => (none, rest))
  | '"' :: rest => lift ((Reader.string rest).map fun (s, rest) => (some s, rest))
  | cs => .error (mismatch .string cs)

/-- Reads any value and keeps it if it is a scalar. -/
def readScalar (depth : Nat) : Decoder Value := fun cs => do
  let (json, rest) ← lift (Reader.value depth cs)
  .ok (← scalar json, rest)

/-- Reads an object of scalars. -/
def readBindings (depth : Nat) : Decoder (Bindings Value) := fun cs =>
  match Reader.skipSpace cs with
  | [] => .error (.malformed .endInValue)
  | '\x7b' :: rest =>
    Reader.members .ofFault
      (fun key acc cs => do
        let rest ← lift (Reader.colon cs)
        let (value, rest) ← readScalar (depth - 1) rest
        .ok (acc.set key value, rest))
      Bindings.empty rest
  | cs => .error (mismatch .map cs)

/-- Reads the value of a field that may occur once. -/
def readField {α : Type} (name : String) (seen : Option α) (value : Decoder α) : Decoder α :=
  fun cs =>
    if seen.isSome then .error (.duplicateField name)
    else do
      let rest ← lift (Reader.colon cs)
      value rest

/-- Passes over the value of an unknown member. -/
def skipField : List Char → Except DecodeError (List Char) := fun cs => do
  let rest ← lift (Reader.colon cs)
  lift (Reader.skip rest)

/-- The end of an array whose parts have all been read. -/
def endSequence (cs : List Char) : Except DecodeError (List Char) :=
  match Reader.skipSpace cs with
  | [] => .error (.malformed .endInList)
  | ']' :: rest => .ok rest
  | ',' :: rest =>
    match Reader.skipSpace rest with
    | ']' :: _ => .error (.malformed .trailingComma)
    | _ => .error (.malformed .trailingCharacters)
  | _ => .error (.malformed .trailingCharacters)

/-- The parts of a record that have been read so far. -/
structure RecordParts where
  text : Option (Option String)
  fields : Option (Bindings Value)

def RecordParts.toRecord (parts : RecordParts) : LogRecord :=
  ⟨parts.text.getD none, parts.fields.getD .empty⟩

/-- Reads a member of a record. -/
def readRecordMember (depth : Nat) (key : String) (parts : RecordParts) :
    Decoder RecordParts := fun cs => do
  if key = "text" then
    let (text, rest) ← readField key parts.text readOptionalString cs
    .ok ({ parts with text := some text }, rest)
  else if key = "fields" then
    let (fields, rest) ← readField key parts.fields (readBindings depth) cs
    .ok ({ parts with fields := some fields }, rest)
  else .ok (parts, ← skipField cs)

/-- Reads a record given as an array, from behind the bracket. -/
def readRecordParts (depth : Nat) : Decoder LogRecord := fun cs => do
  match ← lift (Reader.nextItem true cs) with
  | .close rest => .ok (.empty, rest)
  | .more start =>
    let (text, rest) ← readOptionalString start
    match ← lift (Reader.nextItem false rest) with
    | .close rest => .ok ({ LogRecord.empty with text }, rest)
    | .more start =>
      let (fields, rest) ← readBindings depth start
      .ok (⟨text, fields⟩, ← endSequence rest)

/-- Reads a record. -/
def readRecord (depth : Nat) : Decoder LogRecord := fun cs =>
  match Reader.skipSpace cs with
  | [] => .error (.malformed .endInValue)
  | '\x7b' :: rest => do
    let (parts, rest) ←
      Reader.members .ofFault (readRecordMember (depth - 1)) ⟨none, none⟩ rest
    .ok (parts.toRecord, rest)
  | '[' :: rest => readRecordParts (depth - 1) rest
  | cs => .error (mismatch .logRecord cs)

/-- Adds a member to those already read, whether or not its key is among them. -/
def keptMember (item : Reader Json) (key : String) (before : List (String × Json)) :
    Reader (List (String × Json)) :=
  fun cs => do
    let rest ← Reader.colon cs
    let (value, rest) ← item rest
    .ok (before ++ [(key, value)], rest)

/-- Reads any value. If it is an object, its members are kept as they stand in the
    text, with repetitions. -/
def keptValue : Nat → Reader Json
  | 0, cs => Reader.value 0 cs
  | depth + 1, cs =>
    match Reader.skipSpace cs with
    | '\x7b' :: rest =>
      (Reader.members id (keptMember (Reader.value depth)) [] rest).map fun (members, rest) =>
        (.object members, rest)
    | _ => Reader.value (depth + 1) cs

/-- The parts of an output record that have been read so far. The members of
    its record are kept as they are, with repetitions. -/
structure OutputParts where
  color : Option (Option String)
  vars : Option (Bindings Value)
  members : List (String × Json)

/-- Reads a member of an output record. -/
def readOutputMember (depth : Nat) (key : String) (parts : OutputParts) :
    Decoder OutputParts := fun cs => do
  if key = "color" then
    let (color, rest) ← readField key parts.color readOptionalString cs
    .ok ({ parts with color := some color }, rest)
  else if key = "variables" then
    let (vars, rest) ← readField key parts.vars (readBindings depth) cs
    .ok ({ parts with vars := some vars }, rest)
  else
    let rest ← lift (Reader.colon cs)
    let (value, rest) ← lift (keptValue depth rest)
    .ok ({ parts with members := parts.members ++ [(key, value)] }, rest)

/-- The record among members that may repeat. -/
def recordOnce (members : List (String × Json)) : Except DecodeError LogRecord := do
  let parts : RecordParts ← members.foldlM
    (fun (parts : RecordParts) (member : String × Json) => do
      if member.1 = "text" then
        if parts.text.isSome then throw (.duplicateField "text")
        .ok { parts with text := some (← optionalString member.2) }
      else if member.1 = "fields" then
        if parts.fields.isSome then throw (.duplicateField "fields")
        .ok { parts with fields := some (← bindings member.2) }
      else .ok parts)
    ⟨none, none⟩
  .ok parts.toRecord

/-- Reads an output record. -/
def readOutputRecord (depth : Nat) : Decoder OutputRecord := fun cs =>
  match Reader.skipSpace cs with
  | [] => .error (.malformed .endInValue)
  | '\x7b' :: rest => do
    let (parts, rest) ←
      Reader.members .ofFault (readOutputMember (depth - 1)) ⟨none, none, []⟩ rest
    .ok (⟨← recordOnce parts.members, parts.color.getD none, parts.vars.getD .empty⟩, rest)
  | cs => .error (mismatch .outputRecord cs)

/-- Reads an array of output records. -/
def readOutputRecords (depth : Nat) : Decoder (List OutputRecord) := fun cs =>
  match Reader.skipSpace cs with
  | [] => .error (.malformed .endInValue)
  | '[' :: rest => Reader.items .ofFault (readOutputRecord (depth - 1)) rest
  | cs => .error (mismatch .sequence cs)

/-- Reads a member of results. -/
def readResultsMember (depth : Nat) (key : String) (records : Option (List OutputRecord)) :
    Decoder (Option (List OutputRecord)) := fun cs => do
  if key = "records" then
    let (records, rest) ← readField key records (readOutputRecords depth) cs
    .ok (some records, rest)
  else .ok (records, ← skipField cs)

/-- Reads results. -/
def readResults (depth : Nat) : Decoder Results := fun cs =>
  match Reader.skipSpace cs with
  | [] => .error (.malformed .endInValue)
  | '\x7b' :: rest => do
    match ← Reader.members .ofFault (readResultsMember (depth - 1)) none rest with
    | (some records, rest) => .ok (⟨records⟩, rest)
    | (none, _) => .error (.missingField "records")
  | '[' :: rest => do
    match ← lift (Reader.nextItem true rest) with
    | .close _ => .error (.tooShort .results)
    | .more start =>
      let (records, rest) ← readOutputRecords (depth - 1) start
      .ok (⟨records⟩, ← endSequence rest)
  | cs => .error (mismatch .results cs)

/-- Reads a whole text. -/
def whole {α : Type} (decoder : Decoder α) (text : String) : Except DecodeError α := do
  let (a, rest) ← decoder text.toList
  lift (Reader.finish rest)
  .ok a

end Decode

/-- A value from its text. -/
def Value.ofJsonText (text : String) : Except DecodeError Value :=
  Decode.whole (Decode.readScalar Json.Reader.depthLimit) text

/-- A record from the text of its JSON form. -/
def LogRecord.ofJsonText (text : String) : Except DecodeError LogRecord :=
  Decode.whole (Decode.readRecord Json.Reader.depthLimit) text

/-- An output record from the text of its JSON form. -/
def OutputRecord.ofJsonText (text : String) : Except DecodeError OutputRecord :=
  Decode.whole (Decode.readOutputRecord Json.Reader.depthLimit) text

/-- Results from the text of their JSON form. -/
def Results.ofJsonText (text : String) : Except DecodeError Results :=
  Decode.whole (Decode.readResults Json.Reader.depthLimit) text

end LogQuery
