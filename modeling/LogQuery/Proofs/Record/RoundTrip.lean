import LogQuery.Output
import LogQuery.Record.Decoding
import LogQuery.Proofs.Json.ReadBack
import LogQuery.Proofs.Text.Utf8

/-!
# Written Records Read Back

A line of JSON output can be decoded to the record that it was written from.
Parts that are empty are left out when a record is written, and the record is
merged into the object of its output record, so what has to be shown is that
none of this makes two records look alike: `text` and `fields` belong to the
record, `color` and `variables` to the output record, and no name belongs to
both (`LogRecord.fst_of_mem_members`, `OutputRecord.fst_of_mem_annotations`).

From a tree a decoder makes two passes over the members, and each pass leaves
alone what belongs to the other. From a text there is one pass. It decodes the
annotations on the way and keeps the other members, which are decoded when the
object has ended; as a reader of members it is followed by `ReadsMembers`, part
by part. Names and values may hold any characters, so the only thing that can
go wrong is a real that the reader rounds to another one.

The line ends where its newline is, because the layout has none of its own.

## Main definitions

* `OutputRecord.annotations`: The members beside those of the record.
* `Value.ReadsBack`, `Bindings.ReadsBack`: The numbers in them are read back.
* `OutputRecord.reals`: The reals among fields and variables.

## Theorems

* `scalar_toJson`, `LogRecord.decode_toJson`, `OutputRecord.decode_toJson`,
  `Results.decode_toJson`: Round trips through a tree.
* `scalar_toOption`: Two decoders of scalars agree.
* `readsMembers_toJson`: How the members of an output record are read.
* `OutputRecord.ofJsonText_compact`: The round trip through a text.
* `jsonl_loses_nothing`: Lines of output are framed and decode to their records.
-/

namespace LogQuery

open Json Json.Reader

/-! ### Members -/

theorem optionalMember_cases (key : String) (b : Bindings Value) :
    (b = .empty ∧ optionalMember key b = []) ∨ optionalMember key b = [(key, bindingsJson b)] := by
  unfold optionalMember
  cases hempty : b.isEmpty with
  | true =>
      refine .inl ⟨Bindings.ext ?_, if_pos rfl⟩
      exact List.isEmpty_iff.mp hempty
  | false => exact .inr (if_neg Bool.false_ne_true)

/-- The members of a record are named for its parts. -/
theorem LogRecord.fst_of_mem_members {r : LogRecord} {member : String × Json}
    (h : member ∈ r.members) : member.1 = "text" ∨ member.1 = "fields" := by
  rw [LogRecord.members, List.mem_append] at h
  rcases h with h | h
  · split at h
    · rw [List.mem_singleton] at h
      exact .inl (h ▸ rfl)
    · exact absurd h List.not_mem_nil
  · rcases optionalMember_cases "fields" r.fields with ⟨_, hnone⟩ | hone
    · rw [hnone] at h
      exact absurd h List.not_mem_nil
    · rw [hone, List.mem_singleton] at h
      exact .inr (h ▸ rfl)

/-- The members of an output record beside those of its record. -/
def OutputRecord.annotations (o : OutputRecord) : List (String × Json) :=
  ("color", o.colorJson) :: optionalMember "variables" o.vars

theorem OutputRecord.fst_of_mem_annotations {o : OutputRecord} {member : String × Json}
    (h : member ∈ o.annotations) : member.1 = "color" ∨ member.1 = "variables" := by
  rw [annotations, List.mem_cons] at h
  rcases h with rfl | h
  · exact .inl rfl
  · rcases optionalMember_cases "variables" o.vars with ⟨_, hnone⟩ | hone
    · rw [hnone] at h
      exact absurd h List.not_mem_nil
    · rw [hone, List.mem_singleton] at h
      exact .inr (h ▸ rfl)

theorem OutputRecord.toJson_eq (o : OutputRecord) :
    o.toJson = .object (o.record.members ++ o.annotations) := rfl

/-! ### Through a tree -/

namespace Decode

/-- Members that a decoder passes over leave what has been decoded as it is. -/
theorem foldlM_of_pass {α : Type} {step : α → String × Json → Except DecodeError α}
    {members : List (String × Json)} (h : ∀ member ∈ members, ∀ a, step a member = .ok a) (a : α) :
    members.foldlM step a = .ok a := by
  induction members with
  | nil => rfl
  | cons member members ih =>
      rw [List.foldlM_cons, h member List.mem_cons_self]
      exact ih fun member hmember => h member (List.mem_cons_of_mem _ hmember)

theorem scalar_toJson (v : Value) : scalar v.toJson = .ok v := by
  cases v <;> rfl

/-- Trying the shapes one by one finds what the cases of a tree say. -/
theorem scalar_toOption (json : Json) : (scalar json).toOption = Value.ofJson? json := by
  cases json <;> rfl

theorem foldlM_scalar (pairs : List (String × Value)) (b : Bindings Value) :
    (pairs.map fun pair => (pair.1, pair.2.toJson)).foldlM
        (fun acc member => do .ok (acc.set member.1 (← scalar member.2))) b =
      (.ok (b.setAll pairs) : Except DecodeError (Bindings Value)) := by
  induction pairs generalizing b with
  | nil => rfl
  | cons pair rest ih =>
      rw [List.map_cons, List.foldlM_cons, scalar_toJson, Bindings.setAll_cons]
      exact ih _

theorem bindings_bindingsJson (b : Bindings Value) : bindings (bindingsJson b) = .ok b := by
  rw [bindingsJson, bindings, bindingsMembers, foldlM_scalar]
  exact congrArg Except.ok b.ofList_entries

theorem record_members (r : LogRecord) : record r.members = .ok r := by
  rcases r with ⟨text, fields⟩
  rcases optionalMember_cases "fields" fields with ⟨rfl, hnone⟩ | hone
  · cases text with
    | none => rfl
    | some text => rfl
  · cases text with
    | none =>
        simp [record, LogRecord.members, hone, bindings_bindingsJson, LogRecord.empty, bind,
          Except.bind, pure, Except.pure]
    | some text =>
        simp [record, LogRecord.members, hone, bindings_bindingsJson, optionalString, bind,
          Except.bind, pure, Except.pure]

/-- The annotations of an output record are nothing to its record. -/
theorem record_toJson (o : OutputRecord) :
    record (o.record.members ++ o.annotations) = .ok o.record := by
  have hmembers := record_members o.record
  unfold record at hmembers ⊢
  rw [List.foldlM_append, hmembers]
  refine foldlM_of_pass (fun member hmember r => ?_) o.record
  rcases OutputRecord.fst_of_mem_annotations hmember with h | h
  · simp [h]
  · simp [h]

end Decode

theorem LogRecord.decode_toJson (r : LogRecord) : LogRecord.ofJson r.toJson = .ok r :=
  Decode.record_members r

theorem optionalString_colorJson (o : OutputRecord) :
    Decode.optionalString o.colorJson = .ok o.color := by
  rcases o with ⟨record, color, vars⟩
  cases color with
  | none => rfl
  | some color => rfl

theorem OutputRecord.decode_toJson (o : OutputRecord) : OutputRecord.ofJson o.toJson = .ok o := by
  -- The members of the record come first and say nothing about the annotations.
  rw [toJson_eq, ofJson, List.foldlM_append, Decode.foldlM_of_pass]
  · rw [Decode.record_toJson]
    rcases optionalMember_cases "variables" o.vars with ⟨hempty, hnone⟩ | hone
    · simp [annotations, hnone, optionalString_colorJson, bind, Except.bind, pure, Except.pure,
        ← hempty]
    · simp [annotations, hone, optionalString_colorJson, Decode.bindings_bindingsJson, bind,
        Except.bind, pure, Except.pure]
  · rintro member hmember ⟨color, vars⟩
    rcases LogRecord.fst_of_mem_members hmember with h | h
    · simp [h]
    · simp [h]

theorem outputRecords_map (records : List OutputRecord) :
    (records.map OutputRecord.toJson).mapM OutputRecord.ofJson = .ok records := by
  induction records with
  | nil => rfl
  | cons o records ih =>
      rw [List.map_cons, List.mapM_cons, OutputRecord.decode_toJson, ih]
      rfl

theorem Results.decode_toJson (rs : Results) : Results.ofJson rs.toJson = .ok rs := by
  have hrecords : Results.ofJson rs.toJson =
      ((rs.records.map OutputRecord.toJson).mapM OutputRecord.ofJson).map Results.mk := rfl
  rw [hrecords, outputRecords_map]
  rfl

/-! ### Through a text -/

/-- Whether the number in a value, if it is one, is read back. -/
def Value.ReadsBack : Value → Prop
  | .number n => n.ReadsBack
  | _ => True

theorem Value.legible_toJson {v : Value} (h : v.ReadsBack) (depth : Nat) :
    Legible depth v.toJson := by
  cases v with
  | absent => cases depth <;> trivial
  | boolean _ => cases depth <;> trivial
  | number _ => cases depth <;> exact h
  | string _ => cases depth <;> trivial

/-- Whether all values are read back. -/
def Bindings.ReadsBack (b : Bindings Value) : Prop := ∀ entry ∈ b.entries, entry.2.ReadsBack

theorem Bindings.legible_bindingsJson {b : Bindings Value} (h : b.ReadsBack) (depth : Nat) :
    Legible (depth + 1) (bindingsJson b) := by
  refine ⟨?_, fun member hmember => ?_⟩
  · rw [bindingsMembers, List.map_map]
    exact b.nodup
  · rcases List.mem_map.mp hmember with ⟨entry, hentry, rfl⟩
    exact Value.legible_toJson (h entry hentry) depth

namespace Decode

theorem readScalar_toJson {v : Value} (h : v.ReadsBack) (depth : Nat) {rest : List Char}
    (hrest : EndsNumber rest) : readScalar depth (write v.toJson ++ rest) = .ok (v, rest) := by
  have hread := (readsItem_value (v.legible_toJson h depth)).2 rest hrest
  rw [readScalar, hread]
  simp [lift, scalar_toJson, bind, Except.bind]

/-- Reads one member of bindings. -/
def readEntry (depth : Nat) (key : String) (acc : Bindings Value) : Decoder (Bindings Value) :=
  fun cs => do
    let rest ← lift (colon cs)
    let (value, rest) ← readScalar depth rest
    .ok (acc.set key value, rest)

theorem readsMembers_readEntry (depth : Nat) {pairs : List (String × Value)}
    (h : ∀ pair ∈ pairs, pair.2.ReadsBack) (b : Bindings Value) :
    ReadsMembers (readEntry depth) (pairs.map fun pair => (pair.1, pair.2.toJson)) b
      (b.setAll pairs) := by
  induction pairs generalizing b with
  | nil => exact .nil b
  | cons pair pairs ih =>
      refine .cons (fun more hmore => ?_)
        (ih (fun pair hpair => h pair (List.mem_cons_of_mem _ hpair)) _)
      have hvalue := readScalar_toJson (h pair List.mem_cons_self) depth hmore
      simp [readEntry, colon, skipSpace, isSpace, lift, hvalue, bind, Except.bind]

theorem readBindings_bindingsJson {b : Bindings Value} (h : b.ReadsBack) (depth : Nat)
    (rest : List Char) :
    readBindings depth (write (bindingsJson b) ++ rest) = .ok (b, rest) := by
  have hloop : readBindings depth (write (bindingsJson b) ++ rest) =
      members .ofFault (readEntry (depth - 1)) .empty (membersText (bindingsMembers b) ++ rest) := by
    rw [bindingsJson, write_object, List.cons_append]
    rfl
  have hread := readsMembers_readEntry (depth - 1) h .empty
  rw [hloop, bindingsMembers, members_membersText _ hread]
  exact congrArg (fun b => Except.ok (b, rest)) b.ofList_entries

theorem readOptionalString_colorJson (o : OutputRecord) (rest : List Char) :
    readOptionalString (write o.colorJson ++ rest) = .ok (o.color, rest) := by
  rcases o with ⟨record, color, vars⟩
  cases color with
  | none => rfl
  | some color =>
      have hwrite : write (.string color) = writeString color := by rw [write]
      simp only [OutputRecord.colorJson, hwrite, writeString_append]
      have hstring : readOptionalString
          ('"' :: (color.toList.flatMap escapeChar ++ '"' :: rest)) =
          lift ((string (color.toList.flatMap escapeChar ++ '"' :: rest)).map
            fun read => (some read.1, read.2)) := rfl
      rw [hstring, string_flatMap]
      rfl

theorem readsMembers_keptMember {item : Reader Json} {ms : List (String × Json)}
    (h : ∀ m ∈ ms, ReadsItem item m.2) (before : List (String × Json)) :
    ReadsMembers (keptMember item) ms before (before ++ ms) := by
  induction ms generalizing before with
  | nil =>
      rw [List.append_nil]
      exact .nil before
  | cons m ms ih =>
      rcases m with ⟨key, value⟩
      rw [List.append_cons]
      refine .cons (fun more hmore => ?_) (ih (fun m hm => h m (List.mem_cons_of_mem _ hm)) _)
      have hcolon : colon (':' :: (write value ++ more)) = .ok (write value ++ more) := rfl
      simp only [keptMember, hcolon, (h _ List.mem_cons_self).2 more hmore, bind, Except.bind]

theorem keptValue_of_ne {c : Char} (depth : Nat) (hspace : isSpace c = false) (hc : c ≠ '\x7b')
    (cs : List Char) : keptValue depth (c :: cs) = value depth (c :: cs) := by
  cases depth with
  | zero => rfl
  | succ depth =>
      rw [keptValue, skipSpace_cons hspace]
      split
      · next heq => exact absurd (List.cons.inj heq).1 hc
      · rfl

/-- A value that is read back is also read back where repeated members would be
    kept. -/
theorem readsItem_keptValue {depth : Nat} {json : Json} (h : Legible depth json) :
    ReadsItem (keptValue depth) json := by
  have hvalue := readsItem_value h
  refine ⟨hvalue.1, fun rest hrest => ?_⟩
  -- Only what begins with a brace is read in another way.
  by_cases hobject : ∃ ms, json = .object ms
  · rcases hobject with ⟨ms, rfl⟩
    cases depth with
    | zero => exact absurd h id
    | succ depth =>
        have hms : ReadsMembers (keptMember (value depth)) ms [] ms :=
          readsMembers_keptMember (fun m hm => readsItem_value (h.2 m hm)) []
        rw [write_object, List.cons_append, keptValue, skipSpace_cons rfl]
        simp only [members_membersText id hms]
        rfl
  · obtain ⟨c, cs, hwrite, hspace, hbrace⟩ :
        ∃ c cs, write json = c :: cs ∧ isSpace c = false ∧ c ≠ '\x7b' := by
      cases json with
      | null => exact ⟨_, _, rfl, rfl, by decide⟩
      | bool b => cases b <;> exact ⟨_, _, rfl, rfl, by decide⟩
      | number n =>
          have hn : n.ReadsBack := by cases depth <;> exact h
          rcases Number.head_of_number hn with ⟨c, cs, htext, hc⟩
          exact ⟨c, cs, by rw [write, htext], isSpace_of_number hc, ne_of_number hc (by decide)⟩
      | string s => exact ⟨'"', _, by rw [write]; rfl, rfl, by decide⟩
      | array items => exact ⟨'[', _, write_array items, rfl, by decide⟩
      | object ms => exact absurd ⟨ms, rfl⟩ hobject
    have hread := hvalue.2 rest hrest
    rw [hwrite, List.cons_append] at hread ⊢
    rw [keptValue_of_ne depth hspace hbrace, hread]

/-- Members of the record inside an output record are kept in order. -/
theorem readsMembers_kept {depth : Nat} {kept : List (String × Json)}
    (hname : ∀ member ∈ kept, member.1 ≠ "color" ∧ member.1 ≠ "variables")
    (hlegible : ∀ member ∈ kept, Legible depth member.2) (parts : OutputParts) :
    ReadsMembers (readOutputMember depth) kept parts
      { parts with members := parts.members ++ kept } := by
  induction kept generalizing parts with
  | nil =>
      rw [List.append_nil]
      exact .nil parts
  | cons member kept ih =>
      rcases member with ⟨key, value⟩
      have hrest := ih (fun m hm => hname m (List.mem_cons_of_mem _ hm))
        (fun m hm => hlegible m (List.mem_cons_of_mem _ hm))
        { parts with members := parts.members ++ [(key, value)] }
      rw [List.append_assoc, List.singleton_append] at hrest
      refine .cons (fun more hmore => ?_) hrest
      rcases hname _ List.mem_cons_self with ⟨hcolor, hvars⟩
      have hvalue := (readsItem_keptValue (hlegible _ List.mem_cons_self)).2 more hmore
      simp only at hcolor hvars hvalue
      simp [readOutputMember, hcolor, hvars, colon, skipSpace, isSpace, lift, hvalue, bind,
        Except.bind]

theorem colon_cons (cs : List Char) : colon (':' :: cs) = .ok cs := rfl

theorem readsMembers_color (depth : Nat) (o : OutputRecord) (kept : List (String × Json)) :
    ReadsMembers (readOutputMember depth) [("color", o.colorJson)] ⟨none, none, kept⟩
      ⟨some o.color, none, kept⟩ := by
  refine .cons (fun more _ => ?_) (.nil _)
  simp [readOutputMember, readField, colon_cons, lift, readOptionalString_colorJson, bind,
    Except.bind]

/-- Variables that are left out are not read either. -/
theorem readsMembers_variables (depth : Nat) {vars : Bindings Value} (h : vars.ReadsBack)
    (color : Option (Option String)) (kept : List (String × Json)) :
    ∃ read : Option (Bindings Value), read.getD .empty = vars ∧
      ReadsMembers (readOutputMember depth) (optionalMember "variables" vars) ⟨color, none, kept⟩
        ⟨color, read, kept⟩ := by
  rcases optionalMember_cases "variables" vars with ⟨rfl, hnone⟩ | hone
  · exact ⟨none, rfl, hnone ▸ .nil _⟩
  · refine ⟨some vars, rfl, hone ▸ .cons (fun more _ => ?_) (.nil _)⟩
    simp [readOutputMember, readField, colon_cons, lift, readBindings_bindingsJson h depth, bind,
      Except.bind]

theorem recordOnce_members (r : LogRecord) : recordOnce r.members = .ok r := by
  rcases r with ⟨text, fields⟩
  rcases optionalMember_cases "fields" fields with ⟨rfl, hnone⟩ | hone
  · cases text with
    | none => rfl
    | some text => rfl
  · cases text with
    | none =>
        simp [recordOnce, LogRecord.members, hone, bindings_bindingsJson, RecordParts.toRecord,
          bind, Except.bind, pure, Except.pure]
    | some text =>
        simp [recordOnce, LogRecord.members, hone, bindings_bindingsJson, optionalString,
          RecordParts.toRecord, bind, Except.bind, pure, Except.pure]

end Decode

theorem LogRecord.legible_of_mem_members {r : LogRecord} (h : r.fields.ReadsBack) (depth : Nat)
    {member : String × Json} (hmember : member ∈ r.members) : Legible (depth + 1) member.2 := by
  rw [LogRecord.members, List.mem_append] at hmember
  rcases hmember with hmember | hmember
  · split at hmember
    · rw [List.mem_singleton] at hmember
      exact hmember ▸ trivial
    · exact absurd hmember List.not_mem_nil
  · rcases optionalMember_cases "fields" r.fields with ⟨_, hnone⟩ | hone
    · rw [hnone] at hmember
      exact absurd hmember List.not_mem_nil
    · rw [hone, List.mem_singleton] at hmember
      exact hmember ▸ Bindings.legible_bindingsJson h depth

/-- An output record is read back member by member: its record's are kept for
    later, its own are decoded on the way. -/
theorem Decode.readsMembers_toJson {o : OutputRecord} (hfields : o.record.fields.ReadsBack)
    (hvars : o.vars.ReadsBack) (depth : Nat) :
    ∃ vars : Option (Bindings Value), vars.getD .empty = o.vars ∧
      ReadsMembers (readOutputMember (depth + 1)) (o.record.members ++ o.annotations)
        ⟨none, none, []⟩ ⟨some o.color, vars, o.record.members⟩ := by
  have hkept : ReadsMembers (readOutputMember (depth + 1)) o.record.members ⟨none, none, []⟩
      ⟨none, none, o.record.members⟩ := by
    refine readsMembers_kept (fun member hmember => ?_)
      (fun member hmember => LogRecord.legible_of_mem_members hfields depth hmember) _
    rcases LogRecord.fst_of_mem_members hmember with h | h
    · rw [h]; decide
    · rw [h]; decide
  have hcolor := readsMembers_color (depth + 1) o o.record.members
  rcases readsMembers_variables (depth + 1) hvars (some o.color) o.record.members with
    ⟨vars, hgetD, hvariables⟩
  exact ⟨vars, hgetD, hkept.append (hcolor.append hvariables)⟩

theorem Decode.readOutputRecord_object (depth : Nat) (cs : List Char) :
    readOutputRecord depth ('\x7b' :: cs) = (do
      let (parts, rest) ← members .ofFault (readOutputMember (depth - 1)) ⟨none, none, []⟩ cs
      .ok (⟨← recordOnce parts.members, parts.color.getD none, parts.vars.getD .empty⟩, rest)) :=
  rfl

/-- An output record whose values are read back is itself read back. -/
theorem OutputRecord.ofJsonText_compact {o : OutputRecord} (hfields : o.record.fields.ReadsBack)
    (hvars : o.vars.ReadsBack) : OutputRecord.ofJsonText o.toJson.compact = .ok o := by
  rcases Decode.readsMembers_toJson hfields hvars 125 with ⟨vars, hgetD, hall⟩
  have hmembers := members_membersText DecodeError.ofFault hall []
  rw [List.append_nil] at hmembers
  have hdepth : depthLimit - 1 = 125 + 1 := rfl
  have htext : o.toJson.compact.toList =
      '\x7b' :: membersText (o.record.members ++ o.annotations) := by
    rw [compact, String.toList_ofList, toJson_eq, write_object]
  have hread : Decode.readOutputRecord depthLimit
      ('\x7b' :: membersText (o.record.members ++ o.annotations)) = .ok (o, []) := by
    rw [Decode.readOutputRecord_object, hdepth, hmembers]
    simp [Decode.recordOnce_members, hgetD, bind, Except.bind]
  rw [ofJsonText, Decode.whole, htext, hread]
  rfl

/-! ### Lines of output -/

/-- The real in a value, if it is one. -/
def Value.real? : Value → Option Binary64
  | .number (.real x) => some x
  | _ => none

/-- The reals among the fields and variables of an output record. -/
def OutputRecord.reals (o : OutputRecord) : List Binary64 :=
  (o.record.fields.entries ++ o.vars.entries).filterMap fun entry => entry.2.real?

/-- Of all values only reals may not be read back. -/
theorem Value.readsBack_of_real {v : Value}
    (h : ∀ x, v.real? = some x → (Number.real x).ReadsBack) : v.ReadsBack := by
  cases v with
  | absent => trivial
  | boolean _ => trivial
  | string _ => trivial
  | number n =>
      cases n with
      | integer value inRange => exact Number.readsBack_integer value inRange
      | real x => exact h x rfl

theorem OutputRecord.readsBack_of_reals {o : OutputRecord}
    (h : ∀ x ∈ o.reals, (Number.real x).ReadsBack) :
    o.record.fields.ReadsBack ∧ o.vars.ReadsBack := by
  have hall : ∀ entry ∈ o.record.fields.entries ++ o.vars.entries, entry.2.ReadsBack := by
    intro entry hentry
    refine Value.readsBack_of_real fun x hx => h x ?_
    exact List.mem_filterMap.mpr ⟨entry, hentry, hx⟩
  exact ⟨fun entry hentry => hall entry (List.mem_append_left _ hentry),
    fun entry hentry => hall entry (List.mem_append_right _ hentry)⟩

theorem OutputFormatter.write_jsonl {f : OutputFormatter} (hf : f.format = .jsonl)
    (o : OutputRecord) :
    Utf8.ofString (f.write o).1 = Utf8.encode (Json.write o.toJson) ++ [0x0a] := by
  rw [OutputFormatter.write, hf]
  simp only [Utf8.ofString, compact, String.toList_append, String.toList_ofList, Utf8.encode_append]
  rfl

/-- The line of an output record has its newline at the end and no other, and
    decodes to the record if the reals in it are read back. Through a tree
    values, records and results come back without a condition, and trying the
    shapes of a scalar agrees with the cases of a tree. -/
theorem jsonl_loses_nothing :
    (∀ (f : OutputFormatter) (o : OutputRecord), f.format = .jsonl →
      ∃ line, Utf8.ofString (f.write o).1 = line ++ [0x0a] ∧ 0x0a ∉ line ∧
        ((∀ x ∈ o.reals, (Number.real x).ReadsBack) →
          ∃ text, Utf8.decode line = .ok text ∧
            OutputRecord.ofJsonText (String.ofList text) = .ok o)) ∧
    (∀ v : Value, Decode.scalar v.toJson = .ok v) ∧
    (∀ r : LogRecord, LogRecord.ofJson r.toJson = .ok r) ∧
    (∀ rs : Results, Results.ofJson rs.toJson = .ok rs) ∧
    (∀ json : Json, Value.ofJson? json = (Decode.scalar json).toOption) := by
  refine ⟨fun f o hf => ?_, Decode.scalar_toJson, LogRecord.decode_toJson, Results.decode_toJson,
    fun json => (Decode.scalar_toOption json).symm⟩
  refine ⟨_, OutputFormatter.write_jsonl hf o, ?_, fun hreals => ?_⟩
  · rw [← List.count_eq_zero, Utf8.count_encode, List.count_eq_zero]
    exact newline_not_mem_write o.toJson
  · rcases OutputRecord.readsBack_of_reals hreals with ⟨hfields, hvars⟩
    exact ⟨_, Utf8.decode_encode _, OutputRecord.ofJsonText_compact hfields hvars⟩

/-- A record that has every part, with characters that are escaped, a name with a
    newline, both kinds of number and a field that is absent. -/
def mixedRecord : OutputRecord :=
  { record :=
      { text := some "first\nsecond \"quoted\" \x01"
        fields := .ofList [("a\nb", .string "\\é😀"), ("gone", .absent),
          ("count", .number (.integer (-3) (by decide))),
          ("ratio", .number (.real ⟨false, 0x18000000000000, 1022, by decide, by decide,
            by decide⟩))] }
    color := some ""
    vars := .ofList [("flag", .boolean true), ("zero", .number (.real (.zero true)))] }

theorem jsonl_loses_nothing_mixedRecord :
    (∀ x ∈ mixedRecord.reals, (Number.real x).ReadsBack) ∧
      ∃ line text, Utf8.ofString ((OutputFormatter.start .jsonl true).write mixedRecord).1 =
        line ++ [0x0a] ∧ 0x0a ∉ line ∧ Utf8.decode line = .ok text ∧
          OutputRecord.ofJsonText (String.ofList text) = .ok mixedRecord := by
  have hreals : ∀ x ∈ mixedRecord.reals, (Number.real x).ReadsBack := by decide +kernel
  rcases jsonl_loses_nothing.1 (.start .jsonl true) mixedRecord rfl with
    ⟨line, hline, hnewline, hread⟩
  rcases hread hreals with ⟨text, hdecode, hrecord⟩
  exact ⟨hreals, line, text, hline, hnewline, hdecode, hrecord⟩

end LogQuery
