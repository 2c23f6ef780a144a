import LogQuery.Proofs.Json.Nesting
import LogQuery.Proofs.Record.TreeFields

/-!
# Fields Gathered from a Text

A decoder of texts makes no tree of what it reads, and it does not read everything:
members that it does not know are passed over, and may hold what could not be read.
So there is no tree of the whole text to speak of. But the object that fields come
from stands in the text, and read from where it stands it is a tree.

The reader of bindings and a reader that keeps the members of an object as they are
written go through the same characters. So whenever the first has a result, the
second has the object of the pairs that were bound, and stops where the first does
(`readBindings_follows`). Everything around is bookkeeping: every part of a text that
is read starts at an end of the text, and what a record keeps of it are fields that
stand there.

An output record reads its record from members that it has kept. They are trees, and
what is known about trees applies to them; what has to be carried along is that they
stand in the text.

## Main definitions

* `StandsIn`: A tree can be read from some place in a text.
* `MadeOf`: Bindings and the members that they have been read from.
* `Bindings.StandIn`: Bindings gather the pairs of an object that stands in a text.
* `DecodedFromText`: The records that decoding a text gives.

## Theorems

* `readBindings_follows`: Reading bindings is reading the object that they gather.
* `readRecord_yields`, `readOutputRecord_yields`, `readResults_yields`: The fields of
  records stand in the text that they are read from.
-/

namespace LogQuery

open Json Json.Reader

/-- A tree that can be read from some place in a text, with the members of an object
    as they are written. -/
def StandsIn (text : List Char) (json : Json) : Prop :=
  ∃ depth place rest, place <:+ text ∧ Decode.keptValue depth place = .ok (json, rest)

/-- Bindings that gather the pairs of an object in a text, or none. -/
def Bindings.StandIn (text : List Char) (b : Bindings Value) : Prop :=
  ∃ pairs, (pairs = [] ∨ StandsIn text (.ofPairs pairs)) ∧ b.Gathers pairs

theorem Bindings.standIn_empty (text : List Char) : Bindings.StandIn text .empty :=
  ⟨[], .inl rfl, gathers_iff.mpr rfl⟩

namespace Decode

variable {text : List Char}

/-! ### Bindings -/

theorem lift_eq_ok {α : Type} {x : Except Fault α} {a : α} : lift x = .ok a ↔ x = .ok a := by
  cases x with
  | error fault => exact ⟨nofun, nofun⟩
  | ok b => rw [lift, Except.ok.injEq, Except.ok.injEq]

theorem ensures_lift {α : Type} {P : α → Prop} {x : Except Fault α} (h : Ensures P x) :
    Ensures P (lift x) := by
  cases x with
  | error fault => trivial
  | ok a => exact h

/-- Bindings that have been made of the members of an object. -/
def MadeOf (b : Bindings Value) (members : List (String × Json)) : Prop :=
  ∃ pairs, members = membersOf pairs ∧ b = .ofList pairs

/-- One entry of bindings is one member of the object. -/
theorem readEntry_follows {depth : Nat} {key : String} {b b' : Bindings Value}
    {before : List (String × Json)} {cs rest : List Char} (hb : MadeOf b before)
    (h : readEntry depth key b cs = .ok (b', rest)) :
    ∃ after, keptMember (value depth) key before cs = .ok (after, rest) ∧ MadeOf b' after := by
  rcases hb with ⟨pairs, rfl, rfl⟩
  rcases bind_eq_ok.mp h with ⟨left, hcolon, h⟩
  rcases bind_eq_ok.mp h with ⟨⟨v, behind⟩, hscalar, h⟩
  rcases bind_eq_ok.mp hscalar with ⟨⟨json, stop⟩, hvalue, hv⟩
  rcases bind_eq_ok.mp hv with ⟨w, hw, heq⟩
  cases heq
  cases h
  -- The value was kept as a tree before it was found to be a scalar.
  have hmember : keptMember (value depth) key (membersOf pairs) cs =
      .ok (membersOf pairs ++ [(key, json)], rest) :=
    bind_eq_ok.mpr ⟨left, lift_eq_ok.mp hcolon,
      bind_eq_ok.mpr ⟨(json, rest), lift_eq_ok.mp hvalue, rfl⟩⟩
  refine ⟨_, hmember, pairs ++ [(key, v)], ?_, ?_⟩
  · rw [scalar_eq_ok.mp hw, membersOf, membersOf, List.map_append]
    rfl
  · rw [Bindings.ofList_append]
    rfl

/-- Bindings are read by reading an object, and they gather what it gives. -/
theorem readBindings_follows {depth : Nat} {cs rest : List Char} {b : Bindings Value}
    (h : readBindings depth cs = .ok (b, rest)) :
    ∃ pairs, keptValue (depth - 1 + 1) cs = .ok (.ofPairs pairs, rest) ∧ b.Gathers pairs := by
  unfold readBindings at h
  split at h
  · cases h
  · next left hspace =>
    have hloop : membersFrom .ofFault (readEntry (depth - 1)) (left.length + 1) true .empty left =
        .ok (b, rest) := h
    have hkept : ∃ ms, membersFrom id (keptMember (value (depth - 1))) (left.length + 1) true []
        left = .ok (ms, rest) ∧ MadeOf b ms :=
      membersFrom_follows readEntry_follows _ _ ⟨[], rfl, rfl⟩ hloop
    rcases hkept with ⟨_, hmembers, pairs, rfl, hb⟩
    refine ⟨pairs, ?_, Bindings.gathers_iff.mpr hb⟩
    have hobject : keptValue (depth - 1 + 1) cs =
        (members id (keptMember (value (depth - 1))) [] left).map
          fun read => (object read.1, read.2) := by
      rw [keptValue, hspace]
      rfl
    rw [hobject]
    exact congrArg (Except.map fun read => (object read.1, read.2)) hmembers
  · cases h

/-! ### What is kept -/

theorem keptMember_leaves {item : Reader Json} (h : ∀ cs, Leaves cs (item cs)) (key : String)
    (before : List (String × Json)) (cs : List Char) :
    Leaves cs (keptMember item key before cs) :=
  Ensures.bind (colon_leaves cs) fun rest hrest =>
    Ensures.bind (h rest) fun _ hleft => List.IsSuffix.trans hleft hrest

theorem keptValue_leaves (depth : Nat) (cs : List Char) : Leaves cs (keptValue depth cs) := by
  cases depth with
  | zero => exact value_leaves 0 cs
  | succ depth =>
      rw [keptValue]
      split
      · next rest hspace =>
        have hrest := tail_suffix_of_skipSpace hspace
        have hmembers : Yields cs (fun _ => True)
            (members id (keptMember (value depth)) []) :=
          yields_members id (fun key before _ =>
            .of_leaves (keptMember_leaves (value_leaves depth) key before) cs) trivial
        exact Ensures.map ((hmembers.leaves hrest).of_suffix hrest)
      · exact value_leaves (depth + 1) cs

/-- What is kept of a text stands in it. -/
theorem keptValue_yields (text : List Char) (depth : Nat) :
    Yields text (StandsIn text) (keptValue depth) := by
  intro cs hcs
  have hleaves := keptValue_leaves depth cs
  cases h : keptValue depth cs with
  | error fault => trivial
  | ok read =>
      rw [h] at hleaves
      exact ⟨⟨depth, cs, read.2, hcs, h⟩, hleaves⟩

theorem readBindings_yields (text : List Char) (depth : Nat) :
    Yields text (Bindings.StandIn text) (readBindings depth) := by
  intro cs hcs
  cases h : readBindings depth cs with
  | error e => trivial
  | ok read =>
      rcases readBindings_follows h with ⟨pairs, hkept, hgathers⟩
      -- Both readers stop at the same place, so what one of them leaves the other does.
      have hstands := keptValue_yields text (depth - 1 + 1) cs hcs
      rw [hkept] at hstands
      exact ⟨⟨pairs, .inr hstands.1, hgathers⟩, hstands.2⟩

/-! ### Records -/

theorem readOptionalString_leaves (cs : List Char) : Leaves cs (readOptionalString cs) := by
  unfold readOptionalString
  split
  · trivial
  · next rest hspace =>
    exact ensures_lift (Ensures.map
      ((word_leaves _ rest).of_suffix (tail_suffix_of_skipSpace hspace)))
  · next rest hspace =>
    exact ensures_lift (Ensures.map
      ((string_leaves rest).of_suffix (tail_suffix_of_skipSpace hspace)))
  · trivial

theorem readField_yields {α : Type} {P : α → Prop} {value : Decoder α} (h : Yields text P value)
    (name : String) (seen : Option α) : Yields text P (readField name seen value) := by
  intro cs hcs
  unfold readField
  split
  · trivial
  · refine Ensures.bind (ensures_lift (colon_leaves cs)) fun rest hrest => ?_
    exact h.inside hrest hcs

theorem skipField_leaves (cs : List Char) : LeavesOnly cs (skipField cs) :=
  Ensures.bind (ensures_lift (colon_leaves cs)) fun rest hrest =>
    (ensures_lift (skip_leaves rest)).mono fun _ hleft => List.IsSuffix.trans hleft hrest

theorem endSequence_leaves (cs : List Char) : LeavesOnly cs (endSequence cs) := by
  unfold endSequence
  split
  · trivial
  · next hspace => exact tail_suffix_of_skipSpace hspace
  · split <;> trivial
  · trivial

/-- The fields that have been read so far stand in the text. -/
def RecordParts.StandIn (text : List Char) (parts : RecordParts) : Prop :=
  (parts.fields.getD .empty).StandIn text

theorem RecordParts.standIn_none (text : List Char) : RecordParts.StandIn text ⟨none, none⟩ :=
  Bindings.standIn_empty text

/-- A member of a record leaves the fields in the text, whether or not it is the one
    for them. -/
theorem readRecordMember_yields (depth : Nat) (key : String) {parts : RecordParts}
    (hparts : parts.StandIn text) :
    Yields text (RecordParts.StandIn text) (readRecordMember depth key parts) := by
  intro cs hcs
  unfold readRecordMember
  split
  · have hfield := readField_yields (.of_leaves readOptionalString_leaves text) key parts.text
    exact Ensures.bind (hfield cs hcs) fun _ hread => ⟨hparts, hread.2⟩
  split
  · have hfield := readField_yields (readBindings_yields text depth) key parts.fields
    exact Ensures.bind (hfield cs hcs) fun _ hread => hread
  · exact Ensures.bind (skipField_leaves cs) fun _ hrest => ⟨hparts, hrest⟩

theorem readRecordParts_yields (text : List Char) (depth : Nat) :
    Yields text (fun r => r.fields.StandIn text) (readRecordParts depth) := by
  intro cs hcs
  refine Ensures.bind (ensures_lift (nextItem_left true cs)) fun next hnext => ?_
  cases next with
  | close rest => exact ⟨Bindings.standIn_empty text, hnext⟩
  | more start =>
      refine Ensures.bind (readOptionalString_leaves start) fun ⟨line, left⟩ hleft => ?_
      have hleft : left <:+ cs := List.IsSuffix.trans hleft hnext
      refine Ensures.bind (ensures_lift (nextItem_left false left)) fun next hnext => ?_
      cases next with
      | close rest => exact ⟨Bindings.standIn_empty text, List.IsSuffix.trans hnext hleft⟩
      | more start =>
          have hstart : start <:+ cs := List.IsSuffix.trans hnext hleft
          refine Ensures.bind ((readBindings_yields text depth).inside hstart hcs)
            fun ⟨fields, behind⟩ hfields => ?_
          exact Ensures.bind (endSequence_leaves behind) fun rest hrest =>
            ⟨hfields.1, List.IsSuffix.trans hrest hfields.2⟩

theorem readRecord_yields (text : List Char) (depth : Nat) :
    Yields text (fun r => r.fields.StandIn text) (readRecord depth) := by
  intro cs hcs
  unfold readRecord
  split
  · trivial
  · next rest hspace =>
    have hrest := tail_suffix_of_skipSpace hspace
    have hmembers : Yields text (RecordParts.StandIn text)
        (members .ofFault (readRecordMember (depth - 1)) ⟨none, none⟩) :=
      yields_members .ofFault (fun key _ => readRecordMember_yields (depth - 1) key)
        (RecordParts.standIn_none text)
    exact Ensures.bind (hmembers.inside hrest hcs) fun _ hread => hread
  · next rest hspace =>
    exact (readRecordParts_yields text (depth - 1)).inside (tail_suffix_of_skipSpace hspace) hcs
  · trivial

/-! ### Output records -/

/-- The members that have been kept so far stand in the text. -/
def OutputParts.StandIn (text : List Char) (parts : OutputParts) : Prop :=
  ∀ member ∈ parts.members, StandsIn text member.2

theorem readOutputMember_yields (depth : Nat) (key : String) {parts : OutputParts}
    (hparts : parts.StandIn text) :
    Yields text (OutputParts.StandIn text) (readOutputMember depth key parts) := by
  intro cs hcs
  unfold readOutputMember
  split
  · have hfield := readField_yields (.of_leaves readOptionalString_leaves text) key parts.color
    exact Ensures.bind (hfield cs hcs) fun _ hread => ⟨hparts, hread.2⟩
  split
  · have hfield := readField_yields (readBindings_yields text depth) key parts.vars
    exact Ensures.bind (hfield cs hcs) fun _ hread => ⟨hparts, hread.2⟩
  · refine Ensures.bind (ensures_lift (colon_leaves cs)) fun left hleft => ?_
    have hleft : left <:+ cs := hleft
    refine Ensures.bind (ensures_lift ((keptValue_yields text depth).inside hleft hcs))
      fun ⟨json, rest⟩ hkept => ⟨fun member hmember => ?_, hkept.2⟩
    -- The new member was read right here; the others have been in the text before.
    rcases List.mem_append.mp hmember with hmember | hmember
    · exact hparts member hmember
    · rw [List.mem_singleton] at hmember
      exact hmember ▸ hkept.1

/-- What is decoded of members that have been kept was in them. -/
theorem recordOnce_ensures {members : List (String × Json)}
    (h : ∀ member ∈ members, StandsIn text member.2) :
    Ensures (fun r => r.fields.StandIn text) (recordOnce members) := by
  refine Ensures.bind (P := RecordParts.StandIn text)
    (ensures_foldlM ?_ (RecordParts.standIn_none text)) fun _ hparts => hparts
  intro parts hparts member hmember
  split
  · split
    · trivial
    · cases optionalString member.2 with
      | error e => trivial
      | ok line => exact hparts
  split
  · split
    · trivial
    · cases hfields : bindings member.2 with
      | error e => trivial
      | ok fields =>
          -- The member is the object of the pairs, and it was kept from the text.
          rcases bindings_eq_ok.mp hfields with ⟨pairs, hpairs, hgathers⟩
          have hstands := h member hmember
          rw [hpairs] at hstands
          exact ⟨pairs, .inr hstands, Bindings.gathers_iff.mpr hgathers⟩
  · exact hparts

theorem readOutputRecord_yields (text : List Char) (depth : Nat) :
    Yields text (fun o => o.record.fields.StandIn text) (readOutputRecord depth) := by
  intro cs hcs
  unfold readOutputRecord
  split
  · trivial
  · next rest hspace =>
    have hrest := tail_suffix_of_skipSpace hspace
    have hmembers : Yields text (OutputParts.StandIn text)
        (members .ofFault (readOutputMember (depth - 1)) ⟨none, none, []⟩) :=
      yields_members .ofFault (fun key _ => readOutputMember_yields (depth - 1) key)
        (fun _ hmember => absurd hmember List.not_mem_nil)
    refine Ensures.bind (hmembers.inside hrest hcs) fun ⟨parts, left⟩ hread => ?_
    exact Ensures.bind (recordOnce_ensures hread.1) fun _ hrecord => ⟨hrecord, hread.2⟩
  · trivial

theorem readOutputRecords_yields (text : List Char) (depth : Nat) :
    Yields text (fun os => ∀ o ∈ os, o.record.fields.StandIn text) (readOutputRecords depth) := by
  intro cs hcs
  unfold readOutputRecords
  split
  · trivial
  · next rest hspace =>
    have hitems := yields_items .ofFault (readOutputRecord_yields text (depth - 1))
    exact hitems.inside (tail_suffix_of_skipSpace hspace) hcs
  · trivial

theorem readResultsMember_yields (depth : Nat) (key : String) {records : Option (List OutputRecord)}
    (hrecords : ∀ o ∈ records.getD [], o.record.fields.StandIn text) :
    Yields text (fun records => ∀ o ∈ records.getD [], o.record.fields.StandIn text)
      (readResultsMember depth key records) := by
  intro cs hcs
  unfold readResultsMember
  split
  · have hfield := readField_yields (readOutputRecords_yields text depth) key records
    exact Ensures.bind (hfield cs hcs) fun _ hread => hread
  · exact Ensures.bind (skipField_leaves cs) fun _ hrest => ⟨hrecords, hrest⟩

theorem readResults_yields (text : List Char) (depth : Nat) :
    Yields text (fun rs => ∀ o ∈ rs.records, o.record.fields.StandIn text) (readResults depth) := by
  intro cs hcs
  unfold readResults
  split
  · trivial
  · next rest hspace =>
    have hrest := tail_suffix_of_skipSpace hspace
    have hmembers : Yields text
        (fun records => ∀ o ∈ records.getD [], o.record.fields.StandIn text)
        (members .ofFault (readResultsMember (depth - 1)) none) :=
      yields_members .ofFault (fun key _ => readResultsMember_yields (depth - 1) key)
        (fun _ ho => absurd ho List.not_mem_nil)
    refine Ensures.bind (hmembers.inside hrest hcs) fun ⟨records, left⟩ hread => ?_
    cases records with
    | none => trivial
    | some records => exact hread
  · next rest hspace =>
    have hrest := tail_suffix_of_skipSpace hspace
    refine Ensures.bind (ensures_lift (nextItem_left true rest)) fun next hnext => ?_
    cases next with
    | close left => trivial
    | more start =>
        have hstart : start <:+ cs := List.IsSuffix.trans hnext hrest
        refine Ensures.bind ((readOutputRecords_yields text (depth - 1)).inside hstart hcs)
          fun ⟨records, behind⟩ hrecords => ?_
        exact Ensures.bind (endSequence_leaves behind) fun _ hend =>
          ⟨hrecords.1, List.IsSuffix.trans hend hrecords.2⟩
  · trivial

/-- What a decoder yields of a text, decoding the whole of it ensures. -/
theorem ensures_whole {α : Type} {P : α → Prop} {decoder : Decoder α} {text : String}
    (h : Yields text.toList P decoder) : Ensures P (whole decoder text) :=
  Ensures.bind (h text.toList (List.suffix_refl _)) fun _ hread =>
    Ensures.bind (ensures_lift (P := fun _ => True) (ensures_iff.mpr fun _ _ => trivial))
      fun _ _ => hread.1

end Decode

/-- The records that decoding a text gives. -/
inductive DecodedFromText (text : String) : LogRecord → Prop where
  | record {r : LogRecord} (h : LogRecord.ofJsonText text = .ok r) : DecodedFromText text r
  | outputRecord {o : OutputRecord} (h : OutputRecord.ofJsonText text = .ok o) :
      DecodedFromText text o.record
  | results {rs : Results} {o : OutputRecord} (h : Results.ofJsonText text = .ok rs)
      (ho : o ∈ rs.records) : DecodedFromText text o.record

/-- Whichever way a record is decoded from a text, the object of its fields stands in
    the text. -/
theorem DecodedFromText.standIn {text : String} {r : LogRecord} (h : DecodedFromText text r) :
    r.fields.StandIn text.toList := by
  cases h with
  | record h =>
      have hread := Decode.ensures_whole (Decode.readRecord_yields text.toList depthLimit)
      exact ensures_iff.mp hread _ h
  | outputRecord h =>
      have hread := Decode.ensures_whole (Decode.readOutputRecord_yields text.toList depthLimit)
      exact ensures_iff.mp hread _ h
  | results h ho =>
      have hread := Decode.ensures_whole (Decode.readResults_yields text.toList depthLimit)
      exact ensures_iff.mp hread _ h _ ho

end LogQuery
