import LogQuery.Json.Printer
import LogQuery.Proofs.Bindings
import LogQuery.Proofs.Json.Numerals

/-!
# Reading Back What Was Written

The strict reader undoes the compact layout. It cannot do so for every tree:
it refuses nesting beyond a depth, it merges repeated keys, and it rounds some
reals to a neighbour. `Json.Legible` leaves those trees out. It recurses on the
depth, as the reader does, so that the induction for whole values is on the
depth and the loops over items and members are inductions on lists inside it.

A value is followed by a comma, by a bracket or by nothing. All that its reader
needs to know of this is that no number goes on there, so `EndsNumber` is the
only condition on what follows.

The loops are treated apart from the values in them. `ReadsMembers` says that a
reader of members takes one state to another along members as they are written;
what the state is and what each member does to it is left open, because readers
of records run the same loop with states of their own.

The layout has no newline, whatever characters the strings have.

## Main definitions

* `ReadsMembers`: A reader of members follows members as they are written.
* `ReadsItem`: A reader finds a value as it is written.
* `Json.Legible`: The trees that can be read back.

## Theorems

* `string_flatMap`: Strings are read back.
* `members_membersText`: Objects are read back by any reader of members.
* `items_itemsText`: Arrays are read back.
* `readsItem_value`: Values are read back.
* `parse_write`: A text that was written from a tree is read as that tree.
* `newline_not_mem_write`: The compact layout of a tree is one line.
-/

namespace LogQuery

namespace Json

namespace Reader

/-! ### Strings -/

theorem hexValue?_hexDigit : ∀ n < 16, hexValue? (hexDigit n) = some n := by decide

/-- Control characters are written with two zeros and two digits. -/
theorem escape_hexDigits {c : Char} (hc : c.toNat < 0x20) (rest : List Char) :
    escape ('u' :: '0' :: '0' :: hexDigit (c.toNat / 16) :: hexDigit (c.toNat % 16) :: rest) =
      .ok (c, rest) := by
  have hzero : hexValue? '0' = some 0 := hexValue?_hexDigit 0 (by decide)
  have hhigh := hexValue?_hexDigit (c.toNat / 16) (by omega)
  have hlow := hexValue?_hexDigit (c.toNat % 16) (by omega)
  have hvalue : c.toNat / 16 * 16 + c.toNat % 16 = c.toNat := by omega
  have hfour : fourHex
      ('0' :: '0' :: hexDigit (c.toNat / 16) :: hexDigit (c.toNat % 16) :: rest) =
      .ok (c.toNat, rest) := by
    simp [fourHex, hexValues?, hzero, hhigh, hlow, hvalue]
  have hsurrogate : ¬ (0xdc00 ≤ c.toNat ∧ c.toNat ≤ 0xdfff) := by omega
  have hleading : ¬ (0xd800 ≤ c.toNat ∧ c.toNat ≤ 0xdbff) := by omega
  simp [escape, unicodeEscape, hfour, bind, Except.bind, hsurrogate, hleading]

theorem stringChars_escape {c : Char} {cs rest : List Char} (h : escape cs = .ok (c, rest))
    (steps : Nat) (before : List Char) :
    stringChars (steps + 1) before ('\\' :: cs) = stringChars steps (c :: before) rest := by
  simp [stringChars, h]

/-- One step takes the whole of what stands for a character. -/
theorem stringChars_escapeChar (steps : Nat) (before : List Char) (c : Char)
    (rest : List Char) :
    stringChars (steps + 1) before (escapeChar c ++ rest) =
      stringChars steps (c :: before) rest := by
  -- The branches are those of the writer: an escape of two characters for each of
  -- seven, one of six for other control characters, or the character as it is.
  unfold escapeChar
  split
  · next hc => subst hc; exact stringChars_escape rfl steps before
  split
  · next hc => subst hc; exact stringChars_escape rfl steps before
  split
  · next hc => subst hc; exact stringChars_escape rfl steps before
  split
  · next hc => subst hc; exact stringChars_escape rfl steps before
  split
  · next hc => subst hc; exact stringChars_escape rfl steps before
  split
  · next hc => subst hc; exact stringChars_escape rfl steps before
  split
  · next hc => subst hc; exact stringChars_escape rfl steps before
  split
  · next hc => exact stringChars_escape (escape_hexDigits hc rest) steps before
  · next hquote hslash _ _ _ _ _ hplain =>
    rw [List.singleton_append, stringChars, if_neg hquote, if_neg hslash, if_neg hplain]

theorem stringChars_flatMap (cs rest : List Char) {steps : Nat} (hsteps : cs.length < steps)
    (before : List Char) :
    stringChars steps before (cs.flatMap escapeChar ++ '"' :: rest) =
      .ok (before.reverse ++ cs, rest) := by
  induction cs generalizing steps before with
  | nil =>
      cases steps with
      | zero => exact absurd hsteps (Nat.not_lt_zero _)
      | succ steps => simp [stringChars]
  | cons c cs ih =>
      cases steps with
      | zero => exact absurd hsteps (Nat.not_lt_zero _)
      | succ steps =>
          rw [List.flatMap_cons, List.append_assoc, stringChars_escapeChar,
            ih (Nat.lt_of_succ_lt_succ hsteps), List.reverse_cons, List.append_assoc,
            List.singleton_append]

theorem length_flatMap_escapeChar (cs : List Char) :
    cs.length ≤ (cs.flatMap escapeChar).length := by
  have hone : ∀ c, 1 ≤ (escapeChar c).length := by
    intro c
    unfold escapeChar
    repeat' split
    all_goals exact Nat.succ_le_succ (Nat.zero_le _)
  induction cs with
  | nil => exact Nat.zero_le _
  | cons c cs ih =>
      have hc := hone c
      rw [List.flatMap_cons, List.length_append, List.length_cons]
      omega

/-- A string is read as it was before it was written. -/
theorem string_flatMap (s : String) (rest : List Char) :
    string (s.toList.flatMap escapeChar ++ '"' :: rest) = .ok (s, rest) := by
  have hsteps : s.toList.length <
      (s.toList.flatMap escapeChar ++ '"' :: rest).length := by
    have hlength := length_flatMap_escapeChar s.toList
    rw [List.length_append, List.length_cons]
    omega
  rw [string, stringChars_flatMap s.toList rest hsteps []]
  simp [Except.map]

theorem writeString_append (s : String) (rest : List Char) :
    writeString s ++ rest = '"' :: (s.toList.flatMap escapeChar ++ '"' :: rest) := by
  rw [writeString, List.cons_append, List.append_assoc, List.singleton_append]

/-! ### Loops -/

theorem skipSpace_cons {c : Char} (hc : isSpace c = false) (rest : List Char) :
    skipSpace (c :: rest) = c :: rest := by
  rw [skipSpace, List.dropWhile_cons_of_neg (by rw [hc]; exact Bool.false_ne_true)]

/-- The text of an object from behind its opening brace. -/
def membersText : List (String × Json) → List Char
  | [] => ['\x7d']
  | (key, value) :: rest => writeString key ++ ':' :: (write value ++ writeMembers rest)

theorem write_object (members : List (String × Json)) :
    write (.object members) = '\x7b' :: membersText members := by
  cases members with
  | nil => rfl
  | cons member rest => rfl

theorem endsNumber_writeMembers (members : List (String × Json)) (rest : List Char) :
    EndsNumber (writeMembers members ++ rest) := by
  cases members with
  | nil => exact endsNumber_cons rest (by decide)
  | cons member members => exact endsNumber_cons _ (by decide)

section Loops

variable {α ε : Type} (syntaxError : Fault → ε)

/-- A reader of members that takes one state to another along members as they
    are written. -/
inductive ReadsMembers (member : String → α → Reader α ε) :
    List (String × Json) → α → α → Prop where
  | nil (a : α) : ReadsMembers member [] a a
  | cons {key : String} {value : Json} {rest : List (String × Json)} {a b c : α}
      (hmember : ∀ more, EndsNumber more →
        member key a (':' :: (write value ++ more)) = .ok (b, more))
      (hrest : ReadsMembers member rest b c) :
      ReadsMembers member ((key, value) :: rest) a c

variable {member : String → α → Reader α ε}

theorem ReadsMembers.append {xs ys : List (String × Json)} {a b c : α}
    (hxs : ReadsMembers member xs a b) (hys : ReadsMembers member ys b c) :
    ReadsMembers member (xs ++ ys) a c := by
  induction hxs with
  | nil a => exact hys
  | cons hmember _ ih => exact .cons hmember (ih hys)

theorem membersFrom_cons {key : String} {value : Json} {first : Bool} {a b : α}
    {cs more : List Char}
    (hnext : nextMember first cs =
      .ok (.more (key.toList.flatMap escapeChar ++ '"' :: ':' :: (write value ++ more))))
    (hmember : member key a (':' :: (write value ++ more)) = .ok (b, more)) (steps : Nat) :
    membersFrom syntaxError member (steps + 1) first a cs =
      membersFrom syntaxError member steps false b more := by
  rw [membersFrom, hnext]
  simp only [string_flatMap, hmember]

/-- Behind the first member every other one is read after its comma. -/
theorem membersFrom_writeMembers {members : List (String × Json)} {a b : α}
    (h : ReadsMembers member members a b) {steps : Nat} (hsteps : members.length < steps)
    (rest : List Char) :
    membersFrom syntaxError member steps false a (writeMembers members ++ rest) =
      .ok (b, rest) := by
  -- The steps only bound the loop, so they are left free under the induction.
  induction h generalizing steps with
  | nil a =>
      cases steps with
      | zero => exact absurd hsteps (Nat.not_lt_zero _)
      | succ steps => rfl
  | @cons key value members a b c hmember _ ih =>
      cases steps with
      | zero => exact absurd hsteps (Nat.not_lt_zero _)
      | succ steps =>
          have hnext : nextMember false (writeMembers ((key, value) :: members) ++ rest) =
              .ok (.more (key.toList.flatMap escapeChar ++
                '"' :: ':' :: (write value ++ (writeMembers members ++ rest)))) := by
            rw [writeMembers, List.cons_append, List.append_assoc, writeString_append]
            simp [nextMember, skipSpace, isSpace]
          rw [membersFrom_cons syntaxError hnext (hmember _ (endsNumber_writeMembers members rest)),
            ih (Nat.lt_of_succ_lt_succ hsteps)]

theorem length_writeMembers (members : List (String × Json)) :
    members.length < (writeMembers members).length := by
  induction members with
  | nil => exact Nat.one_pos
  | cons member members ih =>
      rw [writeMembers]
      simp only [List.length_cons, List.length_append]
      omega

/-- Written members are read back, from behind the opening brace. -/
theorem members_membersText {ms : List (String × Json)} {a b : α}
    (h : ReadsMembers member ms a b) (rest : List Char) :
    members syntaxError member a (membersText ms ++ rest) = .ok (b, rest) := by
  unfold members
  cases h with
  | nil a => rfl
  | @cons key value ms a b c hmember hrest =>
      have hnext : nextMember true (membersText ((key, value) :: ms) ++ rest) =
          .ok (.more (key.toList.flatMap escapeChar ++
            '"' :: ':' :: (write value ++ (writeMembers ms ++ rest)))) := by
        rw [membersText, List.append_assoc, writeString_append]
        simp [nextMember, skipSpace, isSpace]
      rw [membersFrom_cons syntaxError hnext (hmember _ (endsNumber_writeMembers ms rest))]
      refine membersFrom_writeMembers syntaxError hrest ?_ rest
      have hlength := length_writeMembers ms
      simp only [membersText, List.length_append, List.length_cons]
      omega

end Loops

/-- The text of an array from behind its opening bracket. -/
def itemsText : List Json → List Char
  | [] => [']']
  | item :: rest => write item ++ writeItems rest

theorem write_array (items : List Json) : write (.array items) = '[' :: itemsText items := by
  cases items with
  | nil => rfl
  | cons item rest => rfl

theorem endsNumber_writeItems (items : List Json) (rest : List Char) :
    EndsNumber (writeItems items ++ rest) := by
  cases items with
  | nil => exact endsNumber_cons rest (by decide)
  | cons item items => exact endsNumber_cons _ (by decide)

theorem length_writeItems (items : List Json) : items.length < (writeItems items).length := by
  induction items with
  | nil => exact Nat.one_pos
  | cons item items ih =>
      rw [writeItems]
      simp only [List.length_cons, List.length_append]
      omega

/-- A text that is not taken for the end of an array, nor for blanks before it. -/
def StartsItem (cs : List Char) : Prop := ∃ c rest, cs = c :: rest ∧ isSpace c = false ∧ c ≠ ']'

theorem nextItem_first {cs : List Char} (h : StartsItem cs) (rest : List Char) :
    nextItem true (cs ++ rest) = .ok (.more (cs ++ rest)) := by
  rcases h with ⟨c, cs, rfl, hspace, hclose⟩
  rw [nextItem, List.cons_append, skipSpace_cons hspace]
  simp only [if_neg hclose, if_true]

theorem nextItem_comma {cs : List Char} (h : StartsItem cs) (rest : List Char) :
    nextItem false (',' :: (cs ++ rest)) = .ok (.more (cs ++ rest)) := by
  rcases h with ⟨c, cs, rfl, hspace, hclose⟩
  rw [nextItem, skipSpace_cons (by decide), List.cons_append]
  simp [skipSpace_cons hspace, hclose]

/-- Whether a reader finds an item as it is written, in front of what follows
    items. -/
def ReadsItem (item : Reader Json) (json : Json) : Prop :=
  StartsItem (write json) ∧ ∀ rest, EndsNumber rest → item (write json ++ rest) = .ok (json, rest)

theorem itemsFrom_writeItems {item : Reader Json} {json : List Json}
    (h : ∀ j ∈ json, ReadsItem item j) {before : List Json} (hbefore : before ≠ [])
    {steps : Nat} (hsteps : json.length < steps) (rest : List Char) :
    itemsFrom id item steps before (writeItems json ++ rest) =
      .ok (before.reverse ++ json, rest) := by
  have hfirst : before.isEmpty = false := List.isEmpty_eq_false_iff.mpr hbefore
  induction json generalizing before steps with
  | nil =>
      cases steps with
      | zero => exact absurd hsteps (Nat.not_lt_zero _)
      | succ steps =>
          rw [itemsFrom, hfirst, List.append_nil]
          rfl
  | cons j json ih =>
      cases steps with
      | zero => exact absurd hsteps (Nat.not_lt_zero _)
      | succ steps =>
          rcases h j List.mem_cons_self with ⟨hstart, hread⟩
          have hmore := endsNumber_writeItems json rest
          have hih := ih (fun k hk => h k (List.mem_cons_of_mem j hk)) (List.cons_ne_nil j before)
            (Nat.lt_of_succ_lt_succ hsteps) rfl
          rw [itemsFrom, hfirst, writeItems, List.cons_append, List.append_assoc,
            nextItem_comma hstart]
          simp only [hread _ hmore, hih, List.reverse_cons, List.append_assoc,
            List.singleton_append]

/-- Written items are read back, from behind the opening bracket. -/
theorem items_itemsText {item : Reader Json} {json : List Json}
    (h : ∀ j ∈ json, ReadsItem item j) (rest : List Char) :
    items id item (itemsText json ++ rest) = .ok (json, rest) := by
  unfold items
  cases json with
  | nil => rfl
  | cons j json =>
      rcases h j List.mem_cons_self with ⟨hstart, hread⟩
      have hsteps : json.length < (itemsText (j :: json) ++ rest).length := by
        have hlength := length_writeItems json
        simp only [itemsText, List.length_append]
        omega
      rw [itemsFrom, List.isEmpty_nil, itemsText, List.append_assoc, nextItem_first hstart]
      simp only [hread _ (endsNumber_writeItems json rest)]
      rw [itemsText, List.append_assoc] at hsteps
      exact itemsFrom_writeItems (fun k hk => h k (List.mem_cons_of_mem j hk))
        (List.cons_ne_nil j []) hsteps rest

/-! ### Values -/

end Reader

/-- What a reader finds again in the text of a tree: the nesting fits, no object
    repeats a key and the numbers are read back. -/
def Legible : Nat → Json → Prop
  | _, .null | _, .bool _ | _, .string _ => True
  | _, .number n => n.ReadsBack
  | 0, .array _ | 0, .object _ => False
  | depth + 1, .array items => ∀ item ∈ items, Legible depth item
  | depth + 1, .object members =>
    (members.map Prod.fst).Nodup ∧ ∀ member ∈ members, Legible depth member.2

namespace Reader

theorem readsMembers_anyMember {item : Reader Json} {ms : List (String × Json)}
    (h : ∀ m ∈ ms, ReadsItem item m.2) {before : List (String × Json)}
    (hnodup : ((before ++ ms).map Prod.fst).Nodup) :
    ReadsMembers (anyMember item) ms before (before ++ ms) := by
  induction ms generalizing before with
  | nil =>
      rw [List.append_nil]
      exact .nil before
  | cons m ms ih =>
      rcases m with ⟨key, value⟩
      -- No key is repeated, so the entry is a new one and goes to the end.
      have hset : setEntry key value before = before ++ [(key, value)] := by
        refine setEntry_of_not_mem (fun hmem => ?_) value
        rw [List.map_append, List.nodup_append] at hnodup
        exact hnodup.2.2 key hmem key List.mem_cons_self rfl
      rw [List.append_cons] at hnodup ⊢
      refine .cons (fun more hmore => ?_) (ih (fun m hm => h m (List.mem_cons_of_mem _ hm)) hnodup)
      have hcolon : colon (':' :: (write value ++ more)) = .ok (write value ++ more) := rfl
      simp only [anyMember, hcolon, (h _ List.mem_cons_self).2 more hmore, hset, bind, Except.bind]

theorem value_array (depth : Nat) (cs : List Char) :
    value (depth + 1) ('[' :: cs) =
      (items id (value depth) cs).map fun (items, rest) => (.array items, rest) := rfl

theorem value_object (depth : Nat) (cs : List Char) :
    value (depth + 1) ('\x7b' :: cs) =
      (members id (anyMember (value depth)) [] cs).map fun (members, rest) =>
        (.object members, rest) := rfl

theorem value_scalar {c : Char} (depth : Nat) (hspace : isSpace c = false)
    (hc : c ≠ '[' ∧ c ≠ '\x7b') (cs : List Char) : value depth (c :: cs) = scalar (c :: cs) := by
  cases depth with
  | zero => simp [value, skipSpace_cons hspace, hc.1, hc.2]
  | succ depth => simp [value, skipSpace_cons hspace, hc.1, hc.2]

theorem ne_of_number {c d : Char} (hc : c = '-' ∨ c.isDigit = true)
    (hd : ¬ (d = '-' ∨ d.isDigit = true)) : c ≠ d := by
  rintro rfl
  exact hd hc

theorem scalar_number {c : Char} (hc : c = '-' ∨ c.isDigit = true) (cs : List Char) :
    scalar (c :: cs) = (number (c :: cs)).map fun (n, rest) => (.number n, rest) := by
  have hnull : c ≠ 'n' := ne_of_number hc (by decide)
  have htrue : c ≠ 't' := ne_of_number hc (by decide)
  have hfalse : c ≠ 'f' := ne_of_number hc (by decide)
  have hquote : c ≠ '"' := ne_of_number hc (by decide)
  rw [scalar, if_neg hnull, if_neg htrue, if_neg hfalse, if_neg hquote, if_pos hc]

theorem isSpace_of_number {c : Char} (hc : c = '-' ∨ c.isDigit = true) : isSpace c = false := by
  have hne : ∀ d, ¬ (d = '-' ∨ d.isDigit = true) → (c == d) = false := fun d hd =>
    beq_eq_false_iff_ne.mpr (ne_of_number hc hd)
  rw [isSpace, hne ' ' (by decide), hne '\n' (by decide), hne '\t' (by decide),
    hne '\r' (by decide)]
  rfl

theorem readsItem_number {n : Number} (hn : n.ReadsBack) (depth : Nat) :
    ReadsItem (value depth) (.number n) := by
  rcases Number.head_of_number hn with ⟨c, cs, htext, hc⟩
  have hspace := isSpace_of_number hc
  have hwrite : write (.number n) = c :: cs := by rw [write, htext]
  refine ⟨⟨c, cs, hwrite, hspace, ne_of_number hc (by decide)⟩, fun rest hrest => ?_⟩
  have hbrackets : c ≠ '[' ∧ c ≠ '\x7b' :=
    ⟨ne_of_number hc (by decide), ne_of_number hc (by decide)⟩
  have hread := number_append hrest hn
  rw [htext, List.nil_append] at hread
  rw [hwrite, List.cons_append,
    value_scalar depth hspace hbrackets, scalar_number hc, ← List.cons_append, hread]
  rfl

theorem readsItem_string (s : String) (depth : Nat) : ReadsItem (value depth) (.string s) := by
  have hwrite : write (.string s) = writeString s := by rw [write]
  refine ⟨⟨'"', _, hwrite, rfl, by decide⟩, fun rest _ => ?_⟩
  rw [hwrite, writeString_append, value_scalar depth rfl (by decide), scalar,
    if_neg (by decide), if_neg (by decide), if_neg (by decide), if_pos rfl, string_flatMap]
  rfl

/-- A tree of no depth is a scalar, and read at every depth. -/
theorem readsItem_scalar {json : Json} (h : Legible 0 json) (depth : Nat) :
    ReadsItem (value depth) json := by
  cases json with
  | null =>
      refine ⟨⟨'n', _, rfl, rfl, by decide⟩, fun rest _ => ?_⟩
      exact value_scalar depth rfl (by decide) _
  | bool b =>
      cases b with
      | true =>
          refine ⟨⟨'t', _, rfl, rfl, by decide⟩, fun rest _ => ?_⟩
          exact value_scalar depth rfl (by decide) _
      | false =>
          refine ⟨⟨'f', _, rfl, rfl, by decide⟩, fun rest _ => ?_⟩
          exact value_scalar depth rfl (by decide) _
  | number n => exact readsItem_number h depth
  | string s => exact readsItem_string s depth
  | array items => exact absurd h id
  | object members => exact absurd h id

/-- A value that is written is read back, in front of anything that does not go
    on with a number. -/
theorem readsItem_value {depth : Nat} {json : Json} (h : Legible depth json) :
    ReadsItem (value depth) json := by
  -- Only brackets cost depth, so the scalars need no induction.
  induction depth generalizing json with
  | zero => exact readsItem_scalar h 0
  | succ depth ih =>
      cases json with
      | array items =>
          refine ⟨⟨'[', itemsText items, write_array items, rfl, by decide⟩, fun rest _ => ?_⟩
          rw [write_array, List.cons_append, value_array,
            items_itemsText (fun item hitem => ih (h item hitem))]
          rfl
      | object ms =>
          have hms : ReadsMembers (anyMember (value depth)) ms [] ms :=
            readsMembers_anyMember (fun m hm => ih (h.2 m hm)) h.1
          refine ⟨⟨'\x7b', membersText ms, write_object ms, rfl, by decide⟩, fun rest _ => ?_⟩
          rw [write_object, List.cons_append, value_object, members_membersText id hms]
          rfl
      | null =>
          have hscalar : Legible 0 .null := trivial
          exact readsItem_scalar hscalar (depth + 1)
      | bool b =>
          have hscalar : Legible 0 (.bool b) := trivial
          exact readsItem_scalar hscalar (depth + 1)
      | number n => exact readsItem_number h (depth + 1)
      | string s => exact readsItem_string s (depth + 1)

end Reader

/-- A text that was written from a tree is read as that tree. -/
theorem parse_write {json : Json} (h : Legible Reader.depthLimit json) :
    parse (write json) = .ok json := by
  have hread := (Reader.readsItem_value h).2 [] Reader.endsNumber_nil
  rw [List.append_nil] at hread
  rw [parse, hread]
  rfl

/-! ### Newlines -/

/-- The newline itself is escaped, and nothing else is written with one. -/
theorem newline_not_mem_escapeChar (c : Char) : '\n' ∉ escapeChar c := by
  have hdigit : ∀ n < 16, hexDigit n ≠ '\n' := by decide
  unfold escapeChar
  split
  · decide
  split
  · decide
  split
  · decide
  split
  · decide
  split
  · decide
  split
  · decide
  split
  · decide
  split
  · next hcontrol =>
    have hhigh := hdigit (c.toNat / 16) (by omega)
    have hlow := hdigit (c.toNat % 16) (by omega)
    simp [hhigh.symm, hlow.symm]
  · next hnewline _ _ _ =>
    rw [List.mem_singleton]
    exact Ne.symm hnewline

theorem newline_not_mem_writeString (s : String) : '\n' ∉ writeString s := by
  have hchars : '\n' ∉ s.toList.flatMap escapeChar := by
    rw [List.mem_flatMap]
    rintro ⟨c, _, hc⟩
    exact newline_not_mem_escapeChar c hc
  simp [writeString, hchars]

mutual

/-- The compact layout of a tree is one line. -/
theorem newline_not_mem_write : ∀ json : Json, '\n' ∉ write json
  | .null => by decide
  | .bool true => by decide
  | .bool false => by decide
  | .number n => by
    intro h
    rw [write] at h
    exact absurd (List.all_eq_true.mp n.numeral_text '\n' h) (by decide)
  | .string s => newline_not_mem_writeString s
  | .array [] => by decide
  | .array (item :: rest) => by
    have hitem := newline_not_mem_write item
    have hrest := newline_not_mem_writeItems rest
    simp [write, hitem, hrest]
  | .object [] => by decide
  | .object ((key, value) :: rest) => by
    have hkey := newline_not_mem_writeString key
    have hvalue := newline_not_mem_write value
    have hrest := newline_not_mem_writeMembers rest
    simp [write, hkey, hvalue, hrest]

theorem newline_not_mem_writeItems : ∀ items : List Json, '\n' ∉ writeItems items
  | [] => by decide
  | item :: rest => by
    have hitem := newline_not_mem_write item
    have hrest := newline_not_mem_writeItems rest
    simp [writeItems, hitem, hrest]

theorem newline_not_mem_writeMembers :
    ∀ members : List (String × Json), '\n' ∉ writeMembers members
  | [] => by decide
  | (key, value) :: rest => by
    have hkey := newline_not_mem_writeString key
    have hvalue := newline_not_mem_write value
    have hrest := newline_not_mem_writeMembers rest
    simp [writeMembers, hkey, hvalue, hrest]

end

end Json
end LogQuery
