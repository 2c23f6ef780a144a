import LogQuery.Proofs.Record.Flatten
import LogQuery.Proofs.Record.TextFields
import LogQuery.Proofs.Stream.TextLines

/-!
# Distinct Fields

A record has no two fields of one name, wherever it comes from, though almost
everything that records are made of can repeat a name: a list of pairs, a line of
pairs, an object that is flattened, the text of a record in JSON. So in all of these
something has to happen to repetitions, and it is the same everywhere. The field
keeps the place where its name first occurred and gets the last value, which is what
`Bindings.Gathers` says of the fields and of the list that they come from.

The list is a different one for each origin, and finding it is most of the work.
Names in a flattened object are the paths to its scalars, joined by points, and
two paths can be joined to one name. Records in JSON get theirs from an object, of a
tree or in a text.

From there on nothing changes. A run neither adds fields to a record nor takes any
away, so what it gives out is as distinct as what it was given
(`record_of_mem_processAll`), and the records that a stream gives out have the fields
that lines of its input gave (`gives_of_mem_emitted`).

## Main definitions

* `Json.namedScalars`: The scalars of an object under their names.
* `LineFormat.Gives`: The fields that a line gives, with repetitions.

## Theorems

* `ofFields_eq_foldl`: A list of fields is set one by one.
* `gives_of_read`, `gives_of_mem_emitted`: Lines give the fields of records.
* `fields_stay_distinct`: How every kind of record comes to its fields.
-/

namespace LogQuery

/-! ### Pairs set one by one -/

theorem LogRecord.foldl_withField (r : LogRecord) (pairs : List (String × Value)) :
    pairs.foldl (fun r pair => r.withField pair.1 pair.2) r =
      { r with fields := r.fields.setAll pairs } := by
  induction pairs generalizing r with
  | nil => rfl
  | cons pair rest ih => rw [List.foldl_cons, ih, Bindings.setAll_cons, withField]

theorem LogRecord.ofFields_eq_foldl (pairs : List (String × Value)) :
    ofFields pairs = pairs.foldl (fun r pair => r.withField pair.1 pair.2) .empty :=
  (foldl_withField .empty pairs).symm

theorem LogRecord.gathers_ofFields (pairs : List (String × Value)) :
    (ofFields pairs).fields.Gathers pairs :=
  Bindings.gathers_iff.mpr rfl

/-! ### Fields of lines -/

/-- The scalars of an object under the names of their places, as they are written. -/
def Json.namedScalars (members : List (String × Json)) : List (String × Value) :=
  (scalars (.object members)).map fun leaf => (leaf.1.joined, leaf.2)

theorem LogRecord.gathers_flatten (members : List (String × Json)) :
    (flatten members).fields.Gathers (Json.namedScalars members) := by
  rw [flatten_eq]
  exact gathers_ofFields _

namespace LineFormat

/-- A line of the format gives these fields, of which some may have the same name. -/
def Gives (format : LineFormat) (text : List Char) (pairs : List (String × Value)) : Prop :=
  match format with
  | line => pairs = []
  | jsonl => ∃ members, Json.parse (trim isBlank text) = .ok (.object members) ∧
      pairs = Json.namedScalars members
  | logfmt => ∃ read, Logfmt.read (trim isBlank text) = .ok read ∧
      pairs = read.map fun p => (p.1, .string p.2)

/-- The record of a line gathers what the line gives. -/
theorem gives_of_read {format : LineFormat} {text : List Char} {r : LogRecord}
    (h : format.read text = .ok (some r)) :
    ∃ pairs, format.Gives text pairs ∧ r.fields.Gathers pairs := by
  cases format with
  | line =>
      cases h
      exact ⟨[], rfl, Bindings.gathers_iff.mpr rfl⟩
  | jsonl =>
      have hread := readStructured_eq_ok h
      unfold readObject at hread
      split at hread
      · next members hparse =>
        cases hread
        exact ⟨_, ⟨members, hparse, rfl⟩, LogRecord.gathers_flatten members⟩
      · cases hread
      · cases hread
  | logfmt =>
      have hread := readStructured_eq_ok h
      unfold readPairs at hread
      split at hread
      · next pairs hpairs =>
        cases hread
        exact ⟨_, ⟨pairs, hpairs, rfl⟩, LogRecord.gathers_ofFields _⟩
      · cases hread

end LineFormat

/-- What a stream gives out has the fields that a line of its input gives. -/
theorem StreamPipeline.gives_of_mem_emitted {p : StreamPipeline} {source : Source}
    {o : OutputRecord} (h : o ∈ p.emitted source) :
    ∃ line ∈ (p.buffered source).lines, ∃ text pairs, Utf8.decode line = .ok text ∧
      p.config.inputFormat.Gives text pairs ∧ o.record.fields.Gathers pairs := by
  rcases record?_of_mem_emitted h with ⟨line, hline, hcarried⟩
  rcases StreamConfig.read_of_record? hcarried with ⟨text, hdecode, hread⟩
  rcases LineFormat.gives_of_read hread with ⟨pairs, hgives, hgathers⟩
  exact ⟨line, hline, text, pairs, hdecode, hgives, hgathers⟩

/-! ### All records -/

/-- A list of fields makes the record in which they are set one after the other: the
    names are distinct and in the order in which they first occur, and each has its
    last value. The same holds of records that are read off lines, flattened, or
    decoded from a tree or from a text, for the list of fields that is found there. A
    run gives out records that it was given, and a stream records of its lines. -/
theorem fields_stay_distinct :
    (∀ pairs : List (String × Value),
      let record := LogRecord.ofFields pairs
      record = pairs.foldl (fun r pair => r.withField pair.1 pair.2) .empty ∧
        record.fields.Gathers pairs ∧
        ∀ name, record.get name = (lastEntry name pairs).getD .absent) ∧
      (∀ members, (LogRecord.flatten members).fields.Gathers (Json.namedScalars members)) ∧
      (∀ (format : LineFormat) (text : List Char) (r : LogRecord),
        format.read text = .ok (some r) →
          ∃ pairs, format.Gives text pairs ∧ r.fields.Gathers pairs) ∧
      (∀ (json : Json) (r : LogRecord), DecodedFrom json r →
        ∃ path form pairs, Json.at? path json = some form ∧ form.Gives pairs ∧
          r.fields.Gathers pairs) ∧
      (∀ (text : String) (r : LogRecord), DecodedFromText text r →
        ∃ pairs, (pairs = [] ∨ StandsIn text.toList (.ofPairs pairs)) ∧
          r.fields.Gathers pairs) ∧
      (∀ (run : QueryRun) (records : List LogRecord) (o : OutputRecord),
        o ∈ (run.processAll records).1 → o.record ∈ records ∧ o.record.fields.keys.Nodup) ∧
      (∀ (p : StreamPipeline) (source : Source) (o : OutputRecord), o ∈ p.emitted source →
        ∃ line ∈ (p.buffered source).lines, ∃ text pairs, Utf8.decode line = .ok text ∧
          p.config.inputFormat.Gives text pairs ∧ o.record.fields.Gathers pairs) := by
  refine ⟨fun pairs => ?_, LogRecord.gathers_flatten, fun _ _ _ => LineFormat.gives_of_read,
    fun _ _ h => h.gives, fun _ _ h => h.standIn, fun run _ o h => ?_,
    fun _ _ _ => StreamPipeline.gives_of_mem_emitted⟩
  · have hgathers := LogRecord.gathers_ofFields pairs
    refine ⟨LogRecord.ofFields_eq_foldl pairs, hgathers, fun name => ?_⟩
    rw [LogRecord.get, hgathers.values]
  · exact ⟨run.record_of_mem_processAll h, o.record.fields.nodup⟩

/-- A line whose record has two scalars of one name. -/
def nestedLine : String := "\x7b\"a.b\":\"x\",\"c\":null,\"a\":\x7b\"b\":true\x7d\x7d"

/-- The text of an output record that repeats the name of a field. -/
def repeatingText : String :=
  "\x7b\"color\":null,\"fields\":\x7b\"a\":null,\"b\":true,\"a\":\"x\"\x7d\x7d"

/-- The tree of results with one record that repeats the name of a field. -/
def repeatingResults : Json :=
  .object [("records", .array [.object [("fields",
    .object [("a", .null), ("b", .bool true), ("a", .string "x")])]])]

/-- A pipeline from pairs without a query. -/
def pairPipeline : StreamPipeline := .start ⟨[]⟩ { inputFormat := .logfmt }

/-- Two fields are left of three, from an object that is flattened, from a tree and a
    text that are decoded and from a line that a stream reads. -/
theorem fields_stay_distinct_repeatedNames :
    (∃ r pairs, LineFormat.jsonl.read nestedLine.toList = .ok (some r) ∧
      r.fields.entries = [("a.b", .boolean true), ("c", .absent)] ∧
      LineFormat.jsonl.Gives nestedLine.toList pairs ∧ r.fields.Gathers pairs) ∧
    (∃ r path form pairs, DecodedFrom repeatingResults r ∧
      r.fields.entries = [("a", .string "x"), ("b", .boolean true)] ∧
      Json.at? path repeatingResults = some form ∧ form.Gives pairs ∧ r.fields.Gathers pairs) ∧
    (∃ o pairs, OutputRecord.ofJsonText repeatingText = .ok o ∧
      o.record.fields.entries = [("a", .string "x"), ("b", .boolean true)] ∧
      StandsIn repeatingText.toList (.ofPairs pairs) ∧ o.record.fields.Gathers pairs) ∧
    ∃ o pairs text, o ∈ pairPipeline.emitted (.ofBytes (Utf8.ofString "a=1 b=2 a=3\n")) ∧
      o.record.fields.entries = [("a", .string "3"), ("b", .string "2")] ∧
      LineFormat.logfmt.Gives text pairs ∧ o.record.fields.Gathers pairs := by
  rcases fields_stay_distinct with ⟨-, -, hlines, htrees, htexts, -, hstreams⟩
  refine ⟨?_, ?_, ?_, ?_⟩
  · have hentries : (LineFormat.jsonl.read nestedLine.toList).toOption.join.map
        (fun r => r.fields.entries) = some [("a.b", .boolean true), ("c", .absent)] := by
      decide +kernel
    rcases Option.map_eq_some_iff.mp hentries with ⟨r, hr, hfields⟩
    rw [Option.join_eq_some_iff, toOption_eq_some_iff] at hr
    rcases hlines _ _ r hr with ⟨pairs, hgives, hgathers⟩
    exact ⟨r, pairs, hr, hfields, hgives, hgathers⟩
  · have hrecord : DecodedFrom repeatingResults
        (.ofFields [("a", .absent), ("b", .boolean true), ("a", .string "x")]) :=
      .results rfl (List.mem_singleton_self ⟨_, none, .empty⟩)
    rcases htrees _ _ hrecord with ⟨path, form, pairs, hform, hgives, hgathers⟩
    exact ⟨_, path, form, pairs, hrecord, rfl, hform, hgives, hgathers⟩
  · have hentries : (OutputRecord.ofJsonText repeatingText).toOption.map
        (fun o => o.record.fields.entries) = some [("a", .string "x"), ("b", .boolean true)] := by
      decide +kernel
    rcases Option.map_eq_some_iff.mp hentries with ⟨o, ho, hfields⟩
    rw [toOption_eq_some_iff] at ho
    rcases htexts _ _ (.outputRecord ho) with ⟨pairs, rfl | hstands, hgathers⟩
    · -- There are fields, so they were gathered from some.
      have hkeys : o.record.fields.keys = ["a", "b"] := by rw [Bindings.keys, hfields]; rfl
      rw [hgathers.order] at hkeys
      cases hkeys
    · exact ⟨o, pairs, ho, hfields, hstands, hgathers⟩
  · have hentries : (pairPipeline.emitted (.ofBytes (Utf8.ofString "a=1 b=2 a=3\n"))).map
        (fun o => o.record.fields.entries) = [[("a", .string "3"), ("b", .string "2")]] := by
      decide +kernel
    have hmem : [("a", Value.string "3"), ("b", .string "2")] ∈
        (pairPipeline.emitted (.ofBytes (Utf8.ofString "a=1 b=2 a=3\n"))).map
          fun o => o.record.fields.entries := by
      rw [hentries]
      exact List.mem_singleton_self _
    rcases List.mem_map.mp hmem with ⟨o, ho, hfields⟩
    rcases hstreams _ _ o ho with ⟨_, -, text, pairs, -, hgives, hgathers⟩
    exact ⟨o, pairs, text, ho, hfields, hgives, hgathers⟩

end LogQuery
