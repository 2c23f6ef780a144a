import LogQuery.Value

/-!
# Log Records

A record is one log entry: fields in the order in which they were read and,
for an unstructured line, the line itself. What a query makes of a record that
it does not drop is an output record, the record with a color tag and the
variables that its pass left.

The text of a whole record is its line if it has one. Otherwise it lists the
fields sorted by name, so that matching cannot depend on their order.

## Main definitions

* `LogRecord`: One log entry.
* `LogRecord.render`: The text that stands for a whole record.
* `OutputRecord`: A record that survived its pass, with its annotations.
* `Results`: The output records of a run, in input order.
-/

namespace LogQuery

/-- One log entry. -/
structure LogRecord where
  /-- The line, for an entry that has no structure. -/
  text : Option String
  fields : Bindings Value
deriving DecidableEq

namespace LogRecord

/-- The record without line and fields. -/
def empty : LogRecord := ⟨none, .empty⟩

instance : Inhabited LogRecord := ⟨empty⟩

/-- The record of an unstructured line. -/
def ofText (text : String) : LogRecord := ⟨some text, .empty⟩

/-- The record with the given fields; of a repeated name the last value
    counts. -/
def ofFields (pairs : List (String × Value)) : LogRecord := ⟨none, .ofList pairs⟩

/-- Sets a field, in place if the record has it. -/
def withField (r : LogRecord) (name : String) (value : Value) : LogRecord :=
  { r with fields := r.fields.set name value }

/-- The value of a field; a field that is missing is absent. -/
def get (r : LogRecord) (name : String) : Value := (r.fields.get? name).getD .absent

/-- Puts the fields into the order of their names. -/
def sortFields (fields : List (String × Value)) : List (String × Value) :=
  fields.mergeSort fun a b => decide (a.1 ≤ b.1)

/-- The line of a record, or its fields as `name=value`, sorted by name and
    separated by spaces. -/
def render (r : LogRecord) : String :=
  match r.text with
  | some text => text
  | none =>
    " ".intercalate
      ((sortFields r.fields.entries).map fun field => field.1 ++ "=" ++ field.2.text)

/-- Equality of records, without regard to the order of fields. -/
def same (a b : LogRecord) : Bool :=
  a.text == b.text && a.fields.agrees Value.same b.fields

end LogRecord

/-- A record that survived its pass. -/
structure OutputRecord where
  record : LogRecord
  /-- The last color tag of the pass, if it set one. -/
  color : Option String
  /-- The variables bound at the end of the pass. -/
  vars : Bindings Value
deriving DecidableEq, Inhabited

/-- Equality of output records, without regard to the order of fields and of
    variables. -/
def OutputRecord.same (a b : OutputRecord) : Bool :=
  a.record.same b.record && a.color == b.color && a.vars.agrees Value.same b.vars

/-- The output of a run. -/
structure Results where
  records : List OutputRecord
deriving DecidableEq, Inhabited

/-- Equality of results, record by record. -/
def Results.same (a b : Results) : Bool :=
  a.records.length == b.records.length &&
    (a.records.zip b.records).all fun pair => pair.1.same pair.2

end LogQuery
