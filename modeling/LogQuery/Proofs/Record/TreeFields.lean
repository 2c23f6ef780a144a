import LogQuery.Proofs.Json.Scalars
import LogQuery.Proofs.Outcome
import LogQuery.Proofs.Record.RoundTrip

/-!
# Fields Gathered from a Tree

Where a record gets its fields from is a list of pairs, and in a list a name may
occur more than once. What becomes of the list is the same everywhere: each name
stands where it first occurred and has its last value. `Bindings.Gathers` says that
about bindings and a list without saying how they came from it, and it says it all,
because there is one set of bindings only that gathers a list.

A decoder of trees finds the list as an object of scalars. It takes nothing else for
fields, and it decodes scalars by reading them off, so the object can be recovered
from what was decoded up to repetitions (`bindings_eq_ok`). Of several members for
the fields the last one counts.

## Main definitions

* `Bindings.Gathers`: First places and last values of a list of pairs.
* `Json.membersOf`, `Json.ofPairs`: Pairs as they are written.
* `Json.Gives`: The form of a record has these pairs for its fields.
* `DecodedFrom`: The records that decoding a tree gives.

## Theorems

* `gathers_iff`: Exactly one set of bindings gathers a list.
* `scalar_eq_ok`, `bindings_eq_ok`: What is decoded to values and to bindings.
* `LogRecord.gives_of_ofJson`: The fields of a record that is decoded from a tree.
* `Results.form_of_ofJson`: Where the records of results stand in a tree.
* `DecodedFrom.gives`: The fields of records, whichever way they are decoded.
-/

namespace LogQuery

open Json

/-! ### Gathering pairs -/

/-- Each name of a list of pairs is bound once, in the order of first occurrence and
    to its last value. -/
structure Bindings.Gathers {α : Type} (b : Bindings α) (pairs : List (String × α)) : Prop where
  distinct : b.keys.Nodup
  order : b.keys = (pairs.map Prod.fst).eraseDups
  values : ∀ name, b.get? name = lastEntry name pairs

theorem Bindings.gathers_iff {α : Type} {b : Bindings α} {pairs : List (String × α)} :
    b.Gathers pairs ↔ b = .ofList pairs := by
  constructor
  · intro h
    refine ext_of_keys (h.order.trans (keys_ofList pairs).symm) fun name => ?_
    rw [h.values, get?_ofList]
  · rintro rfl
    exact ⟨(ofList pairs).nodup, keys_ofList pairs, get?_ofList pairs⟩

/-- Pairs as the members of an object, repetitions included. -/
def Json.membersOf (pairs : List (String × Value)) : List (String × Json) :=
  pairs.map fun pair => (pair.1, pair.2.toJson)

/-- The object with these members. -/
def Json.ofPairs (pairs : List (String × Value)) : Json := .object (membersOf pairs)

namespace Decode

/-! ### Objects of scalars -/

theorem scalar_eq_ok {json : Json} {v : Value} : scalar json = .ok v ↔ json = v.toJson := by
  constructor
  · intro h
    rw [← toOption_eq_some_iff, scalar_toOption] at h
    exact (Value.toJson_of_ofJson? h).symm
  · rintro rfl
    exact scalar_toJson v

/-- Nothing but scalars is gone through, and the names are bound one by one. -/
theorem foldlM_scalar_eq_ok {members : List (String × Json)} {b b' : Bindings Value}
    (h : members.foldlM (fun acc member => do .ok (acc.set member.1 (← scalar member.2))) b =
      (.ok b' : Except DecodeError (Bindings Value))) :
    ∃ pairs, members = membersOf pairs ∧ b' = b.setAll pairs := by
  induction members generalizing b with
  | nil =>
      cases h
      exact ⟨[], rfl, rfl⟩
  | cons member rest ih =>
      rcases member with ⟨name, json⟩
      rw [List.foldlM_cons, bind_eq_ok] at h
      rcases h with ⟨next, hnext, hrest⟩
      rcases bind_eq_ok.mp hnext with ⟨v, hv, hset⟩
      cases hset
      have hjson : json = v.toJson := scalar_eq_ok.mp hv
      rcases ih hrest with ⟨pairs, rfl, rfl⟩
      exact ⟨(name, v) :: pairs, by rw [hjson]; rfl, rfl⟩

theorem bindings_eq_ok {json : Json} {b : Bindings Value} :
    bindings json = .ok b ↔ ∃ pairs, json = .ofPairs pairs ∧ b = .ofList pairs := by
  constructor
  · intro h
    cases json with
    | object members =>
        rcases foldlM_scalar_eq_ok h with ⟨pairs, rfl, rfl⟩
        exact ⟨pairs, rfl, rfl⟩
    | null | bool | number | string | array => cases h
  · rintro ⟨pairs, rfl, rfl⟩
    exact foldlM_scalar pairs .empty

/-! ### Records -/

/-- Takes one member of a record. -/
def recordStep (acc : LogRecord) (member : String × Json) : Except DecodeError LogRecord := do
  if member.1 = "text" then .ok { acc with text := ← optionalString member.2 }
  else if member.1 = "fields" then .ok { acc with fields := ← bindings member.2 }
  else .ok acc

theorem record_eq (members : List (String × Json)) :
    record members = members.foldlM recordStep .empty := rfl

theorem fields_of_recordStep {acc acc' : LogRecord} {member : String × Json}
    (h : recordStep acc member = .ok acc') :
    if member.1 = "fields" then bindings member.2 = .ok acc'.fields
    else acc'.fields = acc.fields := by
  unfold recordStep at h
  split at h
  · next htext =>
    rcases bind_eq_ok.mp h with ⟨text, -, hacc⟩
    cases hacc
    rw [if_neg (by rw [htext]; decide)]
  split at h
  · next hfields =>
    rcases bind_eq_ok.mp h with ⟨fields, hdecode, hacc⟩
    cases hacc
    rw [if_pos hfields]
    exact hdecode
  · next hfields =>
    cases h
    rw [if_neg hfields]

/-- The last member for the fields decides about them. -/
theorem fields_of_foldlM {members : List (String × Json)} {acc r : LogRecord}
    (h : members.foldlM recordStep acc = .ok r) :
    (lastEntry "fields" members).elim (r.fields = acc.fields)
      fun json => bindings json = .ok r.fields := by
  induction members generalizing acc with
  | nil =>
      cases h
      rfl
  | cons member rest ih =>
      rcases member with ⟨name, json⟩
      rw [List.foldlM_cons, bind_eq_ok] at h
      rcases h with ⟨next, hnext, hrest⟩
      have hstep := fields_of_recordStep hnext
      have hlater := ih hrest
      rw [lastEntry_cons]
      -- This member decides only if no later one is for the fields.
      cases hlast : lastEntry "fields" rest with
      | some json =>
          rw [hlast] at hlater
          exact hlater
      | none =>
          rw [hlast] at hlater
          have hkept : r.fields = next.fields := hlater
          rw [Option.none_or]
          by_cases hname : name = "fields"
          · rw [if_pos hname] at hstep ⊢
            rw [← hkept] at hstep
            exact hstep
          · rw [if_neg hname] at hstep ⊢
            exact hkept.trans hstep

end Decode

/-- The part of the form of a record that has its fields, if it has one. -/
def Json.fieldsPart? : Json → Option Json
  | .object members => lastEntry "fields" members
  | .array (_ :: fields :: _) => some fields
  | _ => none

/-- The form of a record has these pairs for its fields. -/
def Json.Gives (form : Json) (pairs : List (String × Value)) : Prop :=
  form.fieldsPart?.elim (pairs = []) (· = .ofPairs pairs)

theorem LogRecord.fields_of_ofJson {form : Json} {r : LogRecord} (h : ofJson form = .ok r) :
    form.fieldsPart?.elim (r.fields = .empty) fun json => Decode.bindings json = .ok r.fields := by
  unfold ofJson at h
  split at h
  · rw [Decode.record_eq] at h
    exact Decode.fields_of_foldlM h
  · cases h
    rfl
  · rcases bind_eq_ok.mp h with ⟨text, -, hr⟩
    cases hr
    rfl
  · rcases bind_eq_ok.mp h with ⟨text, -, h⟩
    rcases bind_eq_ok.mp h with ⟨fields, hfields, h⟩
    split at h
    · cases h
      exact hfields
    · cases h
  · cases h

/-- A record gathers the pairs that its form gives. -/
theorem LogRecord.gives_of_ofJson {form : Json} {r : LogRecord} (h : ofJson form = .ok r) :
    ∃ pairs, form.Gives pairs ∧ r.fields.Gathers pairs := by
  have hfields := fields_of_ofJson h
  unfold Json.Gives
  cases hpart : form.fieldsPart? with
  | none =>
      rw [hpart] at hfields
      exact ⟨[], rfl, Bindings.gathers_iff.mpr hfields⟩
  | some part =>
      rw [hpart] at hfields
      rcases Decode.bindings_eq_ok.mp hfields with ⟨pairs, hpairs, hgathers⟩
      exact ⟨pairs, hpairs, Bindings.gathers_iff.mpr hgathers⟩

/-! ### Output records and results -/

/-- The record in an output record is decoded from the same form. -/
theorem OutputRecord.ofJson_record {form : Json} {o : OutputRecord} (h : ofJson form = .ok o) :
    LogRecord.ofJson form = .ok o.record := by
  cases form with
  | object members =>
      rcases bind_eq_ok.mp h with ⟨⟨color, vars⟩, -, h⟩
      rcases bind_eq_ok.mp h with ⟨record, hrecord, ho⟩
      cases ho
      exact hrecord
  | null | bool | number | string | array => cases h

/-- Every record of results is decoded from a form inside the tree. -/
theorem Results.form_of_ofJson {json : Json} {rs : Results} (h : ofJson json = .ok rs)
    {o : OutputRecord} (ho : o ∈ rs.records) :
    ∃ path form, Json.at? path json = some form ∧ OutputRecord.ofJson form = .ok o := by
  -- The array of the records is a member or an element, and each record is an element of it.
  have hitem : ∀ {records : Json} {os : List OutputRecord},
      Decode.outputRecords records = .ok os → o ∈ os →
        ∃ path form, Json.at? path records = some form ∧ OutputRecord.ofJson form = .ok o := by
    intro records os hos ho
    cases records with
    | array items =>
        rcases getElem?_of_mapM hos ho with ⟨i, form, hform, hdecode⟩
        exact ⟨[.index i], form, by rw [at?, hform]; rfl, hdecode⟩
    | null | bool | number | string | object => cases hos
  unfold ofJson at h
  split at h
  · next members =>
    split at h
    · next records hrecords =>
      rcases map_eq_ok h with ⟨os, hos, rfl⟩
      rcases hitem hos ho with ⟨path, form, hform, hdecode⟩
      exact ⟨.key "records" :: path, form, by rw [at?, hrecords]; exact hform, hdecode⟩
    · cases h
  · cases h
  · next records more =>
    rcases bind_eq_ok.mp h with ⟨os, hos, h⟩
    split at h
    · cases h
      rcases hitem hos ho with ⟨path, form, hform, hdecode⟩
      exact ⟨.index 0 :: path, form, hform, hdecode⟩
    · cases h
  · cases h

/-- The records that decoding a tree gives. -/
inductive DecodedFrom (json : Json) : LogRecord → Prop where
  | record {r : LogRecord} (h : LogRecord.ofJson json = .ok r) : DecodedFrom json r
  | outputRecord {o : OutputRecord} (h : OutputRecord.ofJson json = .ok o) :
      DecodedFrom json o.record
  | results {rs : Results} {o : OutputRecord} (h : Results.ofJson json = .ok rs)
      (ho : o ∈ rs.records) : DecodedFrom json o.record

/-- Whichever way a record is decoded from a tree, a form of it stands in the tree, and
    it gathers the pairs that the form gives. -/
theorem DecodedFrom.gives {json : Json} {r : LogRecord} (h : DecodedFrom json r) :
    ∃ path form pairs, at? path json = some form ∧ form.Gives pairs ∧ r.fields.Gathers pairs := by
  have hform : ∃ path form, at? path json = some form ∧ LogRecord.ofJson form = .ok r := by
    cases h with
    | record h => exact ⟨[], json, by rw [at?], h⟩
    | outputRecord h => exact ⟨[], json, by rw [at?], OutputRecord.ofJson_record h⟩
    | results h ho =>
        rcases Results.form_of_ofJson h ho with ⟨path, form, hform, hdecode⟩
        exact ⟨path, form, hform, OutputRecord.ofJson_record hdecode⟩
  rcases hform with ⟨path, form, hform, hdecode⟩
  rcases LogRecord.gives_of_ofJson hdecode with ⟨pairs, hpairs, hgathers⟩
  exact ⟨path, form, pairs, hform, hpairs, hgathers⟩

end LogQuery
