import LogQuery.Proofs.Json.ReadBack

/-!
# Reading Back the Indented Layout

The indented layout differs from the compact one in blanks alone: a line break
with its indentation in front of every item, key and closing bracket, and a
space behind every colon. The reader skips blanks in all of these places, so it
reads the indented text of every tree whose compact text it reads.

The two layouts agree on scalars and on empty arrays and objects, which is
where the results about the compact one are used again. For the rest the loops
are gone through once more, because it is the loops that meet the blanks. The
indentation is left free in every statement: the items of a list stand one step
further in than the list itself.

## Main definitions

* `ReadsLaidOut`: A reader finds a tree as it is laid out, at any indentation.

## Theorems

* `skipSpace_newline`: Line breaks and indentation are skipped.
* `readsLaidOut_value`: A value that is laid out is read back.
* `parse_layOut`: An indented text is read as the tree that it was written from.
-/

namespace LogQuery

namespace Json

namespace Reader

/-! ### Blanks -/

theorem skipSpace_newline (depth : Nat) (cs : List Char) :
    skipSpace (newline depth ++ cs) = skipSpace cs := by
  refine List.dropWhile_append_of_pos fun c hc => ?_
  rcases List.mem_cons.mp hc with rfl | hc
  · rfl
  · rw [(List.mem_replicate.mp hc).2]
    rfl

theorem nextItem_newline (first : Bool) (depth : Nat) (cs : List Char) :
    nextItem first (newline depth ++ cs) = nextItem first cs := by
  rw [nextItem, nextItem, skipSpace_newline]

theorem nextItem_comma_newline (depth : Nat) (cs : List Char) :
    nextItem false (',' :: (newline depth ++ cs)) = nextItem false (',' :: cs) := by
  rw [nextItem, nextItem, skipSpace_cons (by decide), skipSpace_cons (by decide)]
  simp only [skipSpace_newline]
  rfl

theorem nextMember_newline (first : Bool) (depth : Nat) (cs : List Char) :
    nextMember first (newline depth ++ cs) = nextMember first cs := by
  rw [nextMember, nextMember, skipSpace_newline]

theorem nextMember_comma_newline (depth : Nat) (cs : List Char) :
    nextMember false (',' :: (newline depth ++ cs)) = nextMember false (',' :: cs) := by
  rw [nextMember, nextMember, skipSpace_cons (by decide), skipSpace_cons (by decide)]
  simp only [skipSpace_newline]
  rfl

theorem value_space (depth : Nat) (cs : List Char) :
    value depth (' ' :: cs) = value depth cs := by
  have hskip : skipSpace (' ' :: cs) = skipSpace cs := rfl
  cases depth with
  | zero => rw [value, value, hskip]
  | succ depth => rw [value, value, hskip]

/-! ### Items -/

/-- Whether a value is found as it is laid out, at any indentation and in front of
    whatever does not go on with a number. -/
def ReadsLaidOut (depth : Nat) (json : Json) : Prop :=
  ∀ indent, StartsItem (layOut indent json) ∧
    ∀ rest, EndsNumber rest → value depth (layOut indent json ++ rest) = .ok (json, rest)

theorem endsNumber_newline (indent : Nat) (rest : List Char) :
    EndsNumber (newline indent ++ rest) :=
  endsNumber_cons _ (by decide)

theorem endsNumber_layOutItems (indent : Nat) (items : List Json) (rest : List Char) :
    EndsNumber (layOutItems indent items ++ rest) := by
  cases items with
  | nil =>
      rw [layOutItems, List.append_assoc]
      exact endsNumber_newline indent _
  | cons item items => exact endsNumber_cons _ (by decide)

theorem length_layOutItems (indent : Nat) (items : List Json) :
    items.length < (layOutItems indent items).length := by
  induction items with
  | nil => simp [layOutItems]
  | cons item items ih =>
      rw [layOutItems]
      simp only [List.length_cons, List.length_append]
      omega

/-- Behind the first item every other one is read from a line of its own. -/
theorem itemsFrom_layOutItems {depth : Nat} {json : List Json}
    (h : ∀ j ∈ json, ReadsLaidOut depth j) (indent : Nat) {before : List Json}
    (hbefore : before ≠ []) {steps : Nat} (hsteps : json.length < steps) (rest : List Char) :
    itemsFrom id (value depth) steps before (layOutItems indent json ++ rest) =
      .ok (before.reverse ++ json, rest) := by
  have hfirst : before.isEmpty = false := List.isEmpty_eq_false_iff.mpr hbefore
  induction json generalizing before steps with
  | nil =>
      cases steps with
      | zero => exact absurd hsteps (Nat.not_lt_zero _)
      | succ steps =>
          rw [itemsFrom, hfirst, List.append_nil, layOutItems, List.append_assoc, nextItem_newline]
          rfl
  | cons j json ih =>
      cases steps with
      | zero => exact absurd hsteps (Nat.not_lt_zero _)
      | succ steps =>
          rcases h j List.mem_cons_self (indent + 1) with ⟨hstart, hread⟩
          have hmore := endsNumber_layOutItems indent json rest
          have hih := ih (fun k hk => h k (List.mem_cons_of_mem j hk)) (List.cons_ne_nil j before)
            (Nat.lt_of_succ_lt_succ hsteps) rfl
          rw [itemsFrom, hfirst, layOutItems, List.cons_append, List.append_assoc,
            nextItem_comma_newline, List.append_assoc, nextItem_comma hstart]
          simp only [hread _ hmore, hih, List.reverse_cons, List.append_assoc,
            List.singleton_append]

/-- Items that are laid out are read back, from behind the opening bracket. -/
theorem items_layOut {depth : Nat} {j : Json} {json : List Json}
    (h : ∀ k ∈ j :: json, ReadsLaidOut depth k) (indent : Nat) (rest : List Char) :
    items id (value depth)
      (newline (indent + 1) ++ (layOut (indent + 1) j ++ layOutItems indent json) ++ rest) =
        .ok (j :: json, rest) := by
  rcases h j List.mem_cons_self (indent + 1) with ⟨hstart, hread⟩
  have hlength := length_layOutItems indent json
  rw [items, itemsFrom, List.isEmpty_nil, List.append_assoc, nextItem_newline, List.append_assoc,
    nextItem_first hstart]
  simp only [hread _ (endsNumber_layOutItems indent json rest)]
  refine itemsFrom_layOutItems (fun k hk => h k (List.mem_cons_of_mem j hk)) indent
    (List.cons_ne_nil j []) ?_ rest
  simp only [List.length_append]
  omega

/-! ### Members -/

theorem endsNumber_layOutMembers (indent : Nat) (members : List (String × Json))
    (rest : List Char) : EndsNumber (layOutMembers indent members ++ rest) := by
  cases members with
  | nil =>
      rw [layOutMembers, List.append_assoc]
      exact endsNumber_newline indent _
  | cons member members => exact endsNumber_cons _ (by decide)

theorem length_layOutMembers (indent : Nat) (members : List (String × Json)) :
    members.length < (layOutMembers indent members).length := by
  induction members with
  | nil => simp [layOutMembers]
  | cons member members ih =>
      rw [layOutMembers]
      simp only [List.length_cons, List.length_append]
      omega

/-- The text of a member from behind the opening quote of its key. -/
def memberText (indent : Nat) (key : String) (json : Json) (more : List Char) : List Char :=
  key.toList.flatMap escapeChar ++ '"' :: ':' :: ' ' :: (layOut indent json ++ more)

/-- One step of the loop takes a member to the end of those read before. -/
theorem membersFrom_memberText {depth indent : Nat} {key : String} {json : Json} {first : Bool}
    {before : List (String × Json)} {cs more : List Char} (h : ReadsLaidOut depth json)
    (hnext : nextMember first cs = .ok (.more (memberText indent key json more)))
    (hmore : EndsNumber more) (hnew : key ∉ before.map Prod.fst) (steps : Nat) :
    membersFrom id (anyMember (value depth)) (steps + 1) first before cs =
      membersFrom id (anyMember (value depth)) steps false (before ++ [(key, json)]) more := by
  have hread := (h indent).2 more hmore
  have hcolon : colon (':' :: ' ' :: (layOut indent json ++ more)) =
      .ok (' ' :: (layOut indent json ++ more)) := rfl
  rw [membersFrom, hnext]
  simp only [memberText, string_flatMap, anyMember, hcolon, bind, Except.bind, value_space, hread,
    setEntry_of_not_mem hnew]

/-- Behind the first member every other one is read from a line of its own. -/
theorem membersFrom_layOutMembers {depth : Nat} {ms before : List (String × Json)}
    (h : ∀ m ∈ ms, ReadsLaidOut depth m.2) (indent : Nat)
    (hnodup : ((before ++ ms).map Prod.fst).Nodup) {steps : Nat} (hsteps : ms.length < steps)
    (rest : List Char) :
    membersFrom id (anyMember (value depth)) steps false before
      (layOutMembers indent ms ++ rest) = .ok (before ++ ms, rest) := by
  induction ms generalizing before steps with
  | nil =>
      cases steps with
      | zero => exact absurd hsteps (Nat.not_lt_zero _)
      | succ steps =>
          rw [membersFrom, List.append_nil, layOutMembers, List.append_assoc, nextMember_newline]
          rfl
  | cons m ms ih =>
      cases steps with
      | zero => exact absurd hsteps (Nat.not_lt_zero _)
      | succ steps =>
          rcases m with ⟨key, json⟩
          have hnew : key ∉ before.map Prod.fst := by
            rw [List.map_append, List.nodup_append] at hnodup
            exact fun hmem => hnodup.2.2 key hmem key List.mem_cons_self rfl
          have hnext : nextMember false (layOutMembers indent ((key, json) :: ms) ++ rest) =
              .ok (.more (memberText (indent + 1) key json (layOutMembers indent ms ++ rest))) := by
            rw [layOutMembers, List.cons_append, List.append_assoc, nextMember_comma_newline,
              List.append_assoc, writeString_append, memberText]
            simp [nextMember, skipSpace, isSpace]
          rw [membersFrom_memberText (h _ List.mem_cons_self) hnext
              (endsNumber_layOutMembers indent ms rest) hnew,
            ih (fun m hm => h m (List.mem_cons_of_mem _ hm)) (List.append_cons before _ ms ▸ hnodup)
              (Nat.lt_of_succ_lt_succ hsteps), ← List.append_cons]

/-- Members that are laid out are read back, from behind the opening brace. -/
theorem members_layOut {depth : Nat} {key : String} {json : Json} {ms : List (String × Json)}
    (h : ∀ m ∈ (key, json) :: ms, ReadsLaidOut depth m.2)
    (hnodup : (((key, json) :: ms).map Prod.fst).Nodup) (indent : Nat) (rest : List Char) :
    members id (anyMember (value depth)) []
      (newline (indent + 1) ++ (writeString key ++
        ':' :: ' ' :: (layOut (indent + 1) json ++ layOutMembers indent ms)) ++ rest) =
      .ok ((key, json) :: ms, rest) := by
  have hnext : nextMember true (newline (indent + 1) ++ (writeString key ++
        ':' :: ' ' :: (layOut (indent + 1) json ++ layOutMembers indent ms)) ++ rest) =
      .ok (.more (memberText (indent + 1) key json (layOutMembers indent ms ++ rest))) := by
    rw [List.append_assoc, nextMember_newline, List.append_assoc, writeString_append, memberText]
    simp [nextMember, skipSpace, isSpace]
  have hlength := length_layOutMembers indent ms
  rw [members, membersFrom_memberText (h _ List.mem_cons_self) hnext
    (endsNumber_layOutMembers indent ms rest) List.not_mem_nil]
  refine membersFrom_layOutMembers (fun m hm => h m (List.mem_cons_of_mem _ hm)) indent hnodup ?_
    rest
  simp only [List.length_append, List.length_cons]
  omega

/-! ### Values -/

/-- A tree that is laid out as it is written compactly. -/
theorem readsLaidOut_of_write {depth : Nat} {json : Json} (h : Legible depth json)
    (hwrite : ∀ indent, layOut indent json = write json) : ReadsLaidOut depth json := by
  intro indent
  rw [hwrite]
  exact readsItem_value h

/-- A value that is laid out is read back, in front of anything that does not go
    on with a number. -/
theorem readsLaidOut_value {depth : Nat} {json : Json} (h : Legible depth json) :
    ReadsLaidOut depth json := by
  induction depth generalizing json with
  | zero =>
      cases json with
      | null | bool _ | number _ | string _ => exact readsLaidOut_of_write h fun _ => rfl
      | array _ | object _ => exact absurd h id
  | succ depth ih =>
      cases json with
      | null | bool _ | number _ | string _ => exact readsLaidOut_of_write h fun _ => rfl
      | array items =>
          cases items with
          | nil => exact readsLaidOut_of_write h fun _ => rfl
          | cons j json =>
              refine fun indent => ⟨⟨'[', _, rfl, rfl, by decide⟩, fun rest _ => ?_⟩
              rw [layOut, List.cons_append, value_array, items_layOut fun k hk => ih (h k hk)]
              rfl
      | object members =>
          cases members with
          | nil => exact readsLaidOut_of_write h fun _ => rfl
          | cons m ms =>
              refine fun indent => ⟨⟨'\x7b', _, rfl, rfl, by decide⟩, fun rest _ => ?_⟩
              rw [layOut, List.cons_append, value_object,
                members_layOut (fun m hm => ih (h.2 m hm)) h.1]
              rfl

end Reader

/-- A text that was laid out from a tree is read as that tree, with a line break
    at its end. -/
theorem parse_layOut {json : Json} (h : Legible Reader.depthLimit json) :
    parse (layOut 0 json ++ ['\n']) = .ok json := by
  have hread := (Reader.readsLaidOut_value h 0).2 ['\n'] (Reader.endsNumber_cons _ (by decide))
  rw [parse, hread]
  rfl

end Json

end LogQuery
