import LogQuery.Json.Skip
import LogQuery.Proofs.Json.Numerals
import LogQuery.Proofs.Outcome

/-!
# What Readers Leave

A reader takes characters from the front of a text. What it leaves behind its
result is an end of that text, whatever it reads and however it fails elsewhere.
So every place at which something is read in the course of reading a text is an
end of the text, and can be spoken of without going through the reader again.

The loops over items and members are given readers by their callers, and for those
the fact is an assumption. It is carried together with any other property of the
items or members, because such a property is mostly one of the place at which they
stand. A reader that yields only what has the property can be put into a loop, and
the loop is such a reader again (`yields_items`, `yields_members`).

## Main definitions

* `Leaves`, `LeavesOnly`: What is left is an end of the text.
* `Yields`: Whatever is read inside a text has a property.

## Theorems

* `string_leaves`, `number_leaves`, `value_leaves`, `skip_leaves`: What readers of
  values leave.
* `yields_items`, `yields_members`: What the loops yield, from what is read in them.
-/

namespace LogQuery

namespace Json

namespace Reader

variable {α β ε : Type}

/-- What is left behind the result is an end of the text, if there is a result. -/
abbrev Leaves (text : List Char) (reading : Except ε (α × List Char)) : Prop :=
  Ensures (fun read => read.2 <:+ text) reading

/-- The same for a reader that passes over something. -/
abbrev LeavesOnly (text : List Char) (reading : Except ε (List Char)) : Prop :=
  Ensures (fun rest => rest <:+ text) reading

theorem Leaves.of_suffix {text cs : List Char} {reading : Except ε (α × List Char)}
    (h : Leaves cs reading) (hcs : cs <:+ text) : Leaves text reading :=
  h.mono fun _ hrest => hrest.trans hcs

theorem LeavesOnly.of_suffix {text cs : List Char} {reading : Except ε (List Char)}
    (h : LeavesOnly cs reading) (hcs : cs <:+ text) : LeavesOnly text reading :=
  h.mono fun _ hrest => hrest.trans hcs

theorem skipSpace_suffix (cs : List Char) : skipSpace cs <:+ cs := List.dropWhile_suffix _

theorem tail_suffix_of_skipSpace {c : Char} {cs rest : List Char} (h : skipSpace cs = c :: rest) :
    rest <:+ cs :=
  (List.suffix_cons c rest).trans (h ▸ skipSpace_suffix cs)

/-! ### Strings -/

theorem word_leaves (expected cs : List Char) : Leaves cs (word expected cs) := by
  fun_induction word expected cs with
  | case1 cs => exact List.suffix_refl cs
  | case2 => trivial
  | case3 more c rest ih => exact Leaves.of_suffix ih (List.suffix_cons c rest)
  | case4 => trivial

theorem fourHex_leaves (cs : List Char) : Leaves cs (fourHex cs) := by
  unfold fourHex
  extract_lets fault
  split
  · next a b c d rest =>
    split
    · exact List.suffix_append [a, b, c, d] rest
    · trivial
  · trivial

theorem lowSurrogate_leaves (high : Nat) (cs : List Char) : Leaves cs (lowSurrogate high cs) := by
  unfold lowSurrogate
  split
  · trivial
  · trivial
  · next rest =>
    refine Ensures.bind (fourHex_leaves rest) fun ⟨low, left⟩ hleft => ?_
    have hsuffix : left <:+ '\\' :: 'u' :: rest :=
      List.IsSuffix.trans hleft (List.suffix_append ['\\', 'u'] rest)
    dsimp only
    split
    · exact hsuffix
    · trivial
  · trivial
  · trivial

theorem unicodeEscape_leaves (cs : List Char) : Leaves cs (unicodeEscape cs) := by
  refine Ensures.bind (fourHex_leaves cs) fun ⟨n, rest⟩ hrest => ?_
  dsimp only
  split
  · trivial
  split
  · exact (lowSurrogate_leaves n rest).of_suffix hrest
  · exact hrest

theorem escape_leaves (cs : List Char) : Leaves cs (escape cs) := by
  unfold escape
  split
  · trivial
  · next c rest =>
    have hrest : rest <:+ c :: rest := List.suffix_cons c rest
    repeat' split
    all_goals first
      | exact hrest
      | exact (unicodeEscape_leaves rest).of_suffix hrest
      | trivial

theorem stringChars_leaves (steps : Nat) (before cs : List Char) :
    Leaves cs (stringChars steps before cs) := by
  fun_induction stringChars steps before cs with
  | case1 | case2 | case5 | case6 => trivial
  | case3 => exact List.suffix_cons _ _
  | case4 _ _ _ _ _ hescape _ ih =>
      have hleft := ensures_iff.mp (escape_leaves _) _ hescape
      exact Leaves.of_suffix ih (List.IsSuffix.trans hleft (List.suffix_cons _ _))
  | case7 _ _ _ _ _ _ _ ih => exact Leaves.of_suffix ih (List.suffix_cons _ _)

theorem string_leaves (cs : List Char) : Leaves cs (string cs) :=
  Ensures.map (stringChars_leaves cs.length [] cs)

/-! ### Numbers -/

theorem digits_suffix {cs ds rest : List Char} (h : digits cs = (ds, rest)) : rest <:+ cs := by
  cases h
  exact List.dropWhile_suffix _

theorem realOfParts_leaves (negative : Bool) (significand : Nat) (exponent : Int)
    (rest : List Char) : Leaves rest (realOfParts negative significand exponent rest) := by
  rw [realOfParts_eq]
  cases Binary64.scaled? negative significand exponent with
  | none => trivial
  | some value => exact List.suffix_refl rest

theorem exponentPart_leaves (negative : Bool) (significand : Nat) (start : Int) (cs : List Char) :
    Leaves cs (exponentPart negative significand start cs) := by
  unfold exponentPart
  split
  next minus left hsign =>
  have hleft : left <:+ cs := by
    split at hsign
    · cases hsign; exact List.suffix_cons _ _
    · cases hsign; exact List.suffix_cons _ _
    · cases hsign; exact List.suffix_refl cs
  split
  · trivial
  · trivial
  · next ds rest _ _ hdigits =>
    have hrest := (digits_suffix hdigits).trans hleft
    split
    · exact (realOfParts_leaves _ _ _ rest).of_suffix hrest
    · split
      · trivial
      · exact hrest

theorem fractionPart_leaves (negative : Bool) (significand : Nat) (start : Int) (cs : List Char) :
    Leaves cs (fractionPart negative significand start cs) := by
  unfold fractionPart
  split
  · trivial
  · trivial
  · next ds rest _ _ hdigits =>
    have hrest := digits_suffix hdigits
    dsimp only
    split
    · exact (exponentPart_leaves _ _ _ _).of_suffix ((List.suffix_cons _ _).trans hrest)
    · exact (exponentPart_leaves _ _ _ _).of_suffix ((List.suffix_cons _ _).trans hrest)
    · exact (realOfParts_leaves _ _ _ rest).of_suffix hrest

theorem behindInteger_leaves (negative : Bool) (significand dropped : Nat) (cs : List Char) :
    Leaves cs (unsignedNumber.behindInteger negative significand dropped cs) := by
  unfold unsignedNumber.behindInteger
  split
  · exact (fractionPart_leaves _ _ _ _).of_suffix (List.suffix_cons _ _)
  · exact (exponentPart_leaves _ _ _ _).of_suffix (List.suffix_cons _ _)
  · exact (exponentPart_leaves _ _ _ _).of_suffix (List.suffix_cons _ _)
  · split
    · exact List.suffix_refl _
    · exact realOfParts_leaves _ _ _ _

theorem unsignedNumber_leaves (negative : Bool) (cs : List Char) :
    Leaves cs (unsignedNumber negative cs) := by
  unfold unsignedNumber
  split
  · trivial
  · trivial
  · next more rest hdigits =>
    split
    · exact (behindInteger_leaves _ _ _ rest).of_suffix (digits_suffix hdigits)
    · trivial
  · next ds rest _ _ _ hdigits =>
    exact (behindInteger_leaves _ _ _ rest).of_suffix (digits_suffix hdigits)

theorem number_leaves (cs : List Char) : Leaves cs (number cs) := by
  unfold number
  split
  · exact (unsignedNumber_leaves true _).of_suffix (List.suffix_cons _ _)
  · exact unsignedNumber_leaves false _

/-! ### Arrays and objects -/

/-- The text behind a bracket, or from the next item on. -/
def Next.left : Next → List Char
  | more start => start
  | close rest => rest

theorem nextItem_left (first : Bool) (cs : List Char) :
    Ensures (fun next => next.left <:+ cs) (nextItem first cs) := by
  unfold nextItem
  split
  · trivial
  · next c rest hspace =>
    have hcons : c :: rest <:+ cs := hspace ▸ skipSpace_suffix cs
    have hrest := (List.suffix_cons c rest).trans hcons
    split
    · exact hrest
    split
    · exact hcons
    split
    · split
      · trivial
      · next d more hmore =>
        split
        · trivial
        · exact (hmore ▸ skipSpace_suffix rest : d :: more <:+ rest).trans hrest
    · trivial

theorem nextMember_left (first : Bool) (cs : List Char) :
    Ensures (fun next => next.left <:+ cs) (nextMember first cs) := by
  unfold nextMember
  split
  · trivial
  · next c rest hspace =>
    have hrest := tail_suffix_of_skipSpace hspace
    split
    · exact hrest
    split
    · split
      · exact hrest
      · trivial
    split
    · split
      · trivial
      · next d more hmore =>
        split
        · exact (tail_suffix_of_skipSpace hmore).trans hrest
        split
        · trivial
        · trivial
    · trivial

theorem colon_leaves (cs : List Char) : LeavesOnly cs (colon cs) := by
  unfold colon
  split
  · trivial
  · next c rest hspace =>
    split
    · exact tail_suffix_of_skipSpace hspace
    · trivial

/-! ### Loops -/

/-- Whatever is read from a place inside the text has a property, and what is left is
    an end of the text again. -/
def Yields (text : List Char) (P : α → Prop) (reader : Reader α ε) : Prop :=
  ∀ cs, cs <:+ text → Ensures (fun read => P read.1 ∧ read.2 <:+ cs) (reader cs)

theorem Yields.of_leaves {reader : Reader α ε} (h : ∀ cs, Leaves cs (reader cs))
    (text : List Char) : Yields text (fun _ => True) reader :=
  fun cs _ => (h cs).mono fun _ hrest => ⟨trivial, hrest⟩

/-- A reader that goes on from inside of what is read leaves an end of that, too. -/
theorem Yields.inside {text cs rest : List Char} {P : α → Prop} {reader : Reader α ε}
    (h : Yields text P reader) (hrest : rest <:+ cs) (hcs : cs <:+ text) :
    Ensures (fun read => P read.1 ∧ read.2 <:+ cs) (reader rest) :=
  (h rest (hrest.trans hcs)).mono fun _ hread => ⟨hread.1, hread.2.trans hrest⟩

theorem Yields.leaves {text cs : List Char} {P : α → Prop} {reader : Reader α ε}
    (h : Yields text P reader) (hcs : cs <:+ text) : Leaves cs (reader cs) :=
  (h cs hcs).mono fun _ hread => hread.2

section Loops

variable (syntaxError : Fault → ε) {text : List Char}

/-- What every item of an array has, all of them have. -/
theorem yields_itemsFrom {item : Reader α ε} {P : α → Prop} (h : Yields text P item)
    (steps : Nat) {before : List α} (hbefore : ∀ a ∈ before, P a) :
    Yields text (fun items => ∀ a ∈ items, P a) (itemsFrom syntaxError item steps before) := by
  induction steps generalizing before with
  | zero => exact fun _ _ => trivial
  | succ steps ih =>
      intro cs hcs
      have hnext := nextItem_left before.isEmpty cs
      rw [itemsFrom]
      split
      · trivial
      · next rest heq =>
        rw [heq] at hnext
        exact ⟨fun a ha => hbefore a (List.mem_reverse.mp ha), hnext⟩
      · next start heq =>
        rw [heq] at hnext
        have hstart : start <:+ cs := hnext
        -- The item starts inside the text, which is all that is known of the reader.
        have hitem := h start (hstart.trans hcs)
        split
        · trivial
        · next a rest hread =>
          rw [hread] at hitem
          have hrest := hitem.2.trans hstart
          exact (ih (List.forall_mem_cons.mpr ⟨hitem.1, hbefore⟩)).inside hrest hcs

theorem yields_items {item : Reader α ε} {P : α → Prop} (h : Yields text P item) :
    Yields text (fun read => ∀ a ∈ read, P a) (items syntaxError item) :=
  fun cs => yields_itemsFrom syntaxError h (cs.length + 1)
    (fun _ ha => absurd ha List.not_mem_nil) cs

/-- What every member of an object preserves holds when its brace closes. -/
theorem yields_membersFrom {member : String → α → Reader α ε} {I : α → Prop}
    (h : ∀ key state, I state → Yields text I (member key state)) (steps : Nat) (first : Bool)
    {state : α} (hstate : I state) :
    Yields text I (membersFrom syntaxError member steps first state) := by
  induction steps generalizing first state with
  | zero => exact fun _ _ => trivial
  | succ steps ih =>
      intro cs hcs
      have hnext := nextMember_left first cs
      rw [membersFrom]
      split
      · trivial
      · next rest heq =>
        rw [heq] at hnext
        exact ⟨hstate, hnext⟩
      · next start heq =>
        rw [heq] at hnext
        have hstart : start <:+ cs := hnext
        have hkey := string_leaves start
        split
        · trivial
        · next key left hread =>
          rw [hread] at hkey
          have hleft : left <:+ cs := hkey.trans hstart
          have hmember := h key state hstate left (hleft.trans hcs)
          split
          · trivial
          · next next rest hnext =>
            rw [hnext] at hmember
            have hrest := hmember.2.trans hleft
            exact (ih false hmember.1).inside hrest hcs

theorem yields_members {member : String → α → Reader α ε} {I : α → Prop}
    (h : ∀ key state, I state → Yields text I (member key state)) {state : α}
    (hstate : I state) : Yields text I (members syntaxError member state) :=
  fun cs => yields_membersFrom syntaxError h (cs.length + 1) true hstate cs

end Loops

/-! ### Values -/

theorem scalar_leaves (cs : List Char) : Leaves cs (scalar cs) := by
  unfold scalar
  split
  · trivial
  · next c rest =>
    have hrest : rest <:+ c :: rest := List.suffix_cons c rest
    split
    · exact Ensures.map ((word_leaves _ rest).of_suffix hrest)
    split
    · exact Ensures.map ((word_leaves _ rest).of_suffix hrest)
    split
    · exact Ensures.map ((word_leaves _ rest).of_suffix hrest)
    split
    · exact Ensures.map ((string_leaves rest).of_suffix hrest)
    split
    · exact Ensures.map (number_leaves (c :: rest))
    · trivial

theorem mem_setEntry {key : String} {json : Json} {before : List (String × Json)}
    {member : String × Json} (h : member ∈ setEntry key json before) :
    member.2 = json ∨ member ∈ before := by
  induction before with
  | nil =>
      rw [setEntry, List.mem_singleton] at h
      exact .inl (h ▸ rfl)
  | cons entry rest ih =>
      rcases entry with ⟨name, old⟩
      rw [setEntry] at h
      split at h
      · rcases List.mem_cons.mp h with rfl | hmem
        · exact .inl rfl
        · exact .inr (List.mem_cons_of_mem _ hmem)
      · rcases List.mem_cons.mp h with rfl | hmem
        · exact .inr List.mem_cons_self
        · exact (ih hmem).imp_right (List.mem_cons_of_mem _)

/-- What every member has that is read, all members of an object have. -/
theorem anyMember_yields {text : List Char} {item : Reader Json} {P : Json → Prop}
    (h : Yields text P item) (key : String) {before : List (String × Json)}
    (hbefore : ∀ member ∈ before, P member.2) :
    Yields text (fun members => ∀ member ∈ members, P member.2) (anyMember item key before) := by
  intro cs hcs
  refine Ensures.bind (colon_leaves cs) fun rest hrest => ?_
  have hrest : rest <:+ cs := hrest
  refine Ensures.bind (h.inside hrest hcs) fun ⟨json, left⟩ hread => ?_
  refine ⟨fun member hmember => ?_, hread.2⟩
  rcases mem_setEntry hmember with hjson | hmember
  · exact hjson ▸ hread.1
  · exact hbefore member hmember

theorem value_leaves (depth : Nat) (cs : List Char) : Leaves cs (value depth cs) := by
  induction depth generalizing cs with
  | zero =>
      rw [value]
      split
      · trivial
      · next c rest hspace =>
        split
        · trivial
        · exact (scalar_leaves _).of_suffix (hspace ▸ skipSpace_suffix cs)
  | succ depth ih =>
      rw [value]
      split
      · trivial
      · next c rest hspace =>
        have hrest := tail_suffix_of_skipSpace hspace
        split
        -- In a container the values are read with one level less.
        · have hitems := yields_items id (Yields.of_leaves ih cs)
          exact Ensures.map ((hitems.leaves hrest).of_suffix hrest)
        split
        · have hmembers : Yields cs (fun members => ∀ member ∈ members, True)
              (members id (anyMember (value depth)) []) :=
            yields_members id (fun key _ => anyMember_yields (.of_leaves ih cs) key)
              (fun _ _ => trivial)
          exact Ensures.map ((hmembers.leaves hrest).of_suffix hrest)
        · exact (scalar_leaves _).of_suffix (hspace ▸ skipSpace_suffix cs)

/-! ### Passing over a value -/

theorem skipChars_leaves (steps : Nat) (cs : List Char) : LeavesOnly cs (skipChars steps cs) := by
  induction steps generalizing cs with
  | zero => cases cs <;> trivial
  | succ steps ih =>
      cases cs with
      | nil => trivial
      | cons c rest =>
          have hrest : rest <:+ c :: rest := List.suffix_cons c rest
          unfold skipChars
          split
          · exact hrest
          split
          · split
            · trivial
            · next more =>
              have hmore : more <:+ c :: 'u' :: more := List.suffix_append [c, 'u'] more
              have hhex := fourHex_leaves more
              split
              · next left heq =>
                rw [heq] at hhex
                exact (ih left).of_suffix (List.IsSuffix.trans hhex hmore)
              · trivial
            · next d more _ =>
              split
              · exact (ih more).of_suffix (List.suffix_append [c, d] more)
              · trivial
          split
          · trivial
          · exact (ih rest).of_suffix hrest

theorem skipExponent_leaves (cs : List Char) : LeavesOnly cs (skipExponent cs) := by
  unfold skipExponent
  extract_lets body
  have hbody : body <:+ cs := by
    unfold body
    split
    · exact List.suffix_cons _ _
    · exact List.suffix_cons _ _
    · exact List.suffix_refl cs
  split
  · trivial
  · next hdigits => exact (digits_suffix hdigits).trans hbody

theorem skipNumber_leaves (cs : List Char) : LeavesOnly cs (skipNumber cs) := by
  unfold skipNumber
  split
  · trivial
  · trivial
  · next hdigits =>
    have hrest := (List.suffix_cons _ _).trans (digits_suffix hdigits)
    split
    · trivial
    · next hfraction =>
      exact (skipExponent_leaves _).of_suffix
        (((List.suffix_cons _ _).trans (digits_suffix hfraction)).trans hrest)
    · next hfraction =>
      exact (skipExponent_leaves _).of_suffix
        (((List.suffix_cons _ _).trans (digits_suffix hfraction)).trans hrest)
    · next hfraction => exact (digits_suffix hfraction).trans hrest
  · next hdigits =>
    exact (skipExponent_leaves _).of_suffix ((List.suffix_cons _ _).trans (digits_suffix hdigits))
  · next hdigits =>
    exact (skipExponent_leaves _).of_suffix ((List.suffix_cons _ _).trans (digits_suffix hdigits))
  · next hdigits => exact digits_suffix hdigits

theorem skipScalar_leaves (cs : List Char) : LeavesOnly cs (skipScalar cs) := by
  unfold skipScalar
  split
  · trivial
  · next c rest =>
    have hrest : rest <:+ c :: rest := List.suffix_cons c rest
    split
    · exact Ensures.map ((word_leaves _ rest).of_suffix hrest)
    split
    · exact Ensures.map ((word_leaves _ rest).of_suffix hrest)
    split
    · exact Ensures.map ((word_leaves _ rest).of_suffix hrest)
    split
    · exact (skipChars_leaves _ rest).of_suffix hrest
    split
    · exact (skipNumber_leaves rest).of_suffix hrest
    split
    · exact skipNumber_leaves (c :: rest)
    · trivial

theorem skipFrom_leaves (steps : Nat) (stack : List Frame) (expecting : Expecting)
    (cs : List Char) : LeavesOnly cs (skipFrom steps stack expecting cs) := by
  induction steps generalizing stack expecting cs with
  | zero => trivial
  | succ steps ih =>
      cases expecting with
      | value =>
          rw [skipFrom]
          split
          · next heq => exact (ih _ _ _).of_suffix (tail_suffix_of_skipSpace heq)
          · next heq => exact (ih _ _ _).of_suffix (tail_suffix_of_skipSpace heq)
          · have hscalar := (skipScalar_leaves (skipSpace cs)).of_suffix (skipSpace_suffix cs)
            split
            · next rest heq =>
              rw [heq] at hscalar
              exact (ih _ _ rest).of_suffix hscalar
            · trivial
      | firstItem =>
          cases stack with
          -- Nothing is open, so the value has ended in front of what is left.
          | nil => exact List.suffix_refl cs
          | cons frame stack =>
              rw [skipFrom]
              split
              · trivial
              · next c rest heq =>
                split
                · exact (ih _ _ rest).of_suffix (tail_suffix_of_skipSpace heq)
                · exact (ih _ _ _).of_suffix (heq ▸ skipSpace_suffix cs)
      | item =>
          cases stack with
          | nil => exact List.suffix_refl cs
          | cons frame stack =>
              cases frame with
              | list => exact ih _ _ cs
              | object =>
                  rw [skipFrom]
                  split
                  · trivial
                  · next c rest heq =>
                    have hrest := tail_suffix_of_skipSpace heq
                    split
                    · have hkey := skipChars_leaves rest.length rest
                      split
                      · trivial
                      · next left hskip =>
                        rw [← skipString, hskip] at hkey
                        have hcolon := colon_leaves left
                        split
                        · trivial
                        · next behind hbehind =>
                          rw [hbehind] at hcolon
                          have hleft : left <:+ cs := List.IsSuffix.trans hkey hrest
                          exact (ih _ _ behind).of_suffix (List.IsSuffix.trans hcolon hleft)
                    · trivial
      | commaOrEnd =>
          cases stack with
          | nil => exact List.suffix_refl cs
          | cons frame stack =>
              rw [skipFrom]
              split
              · trivial
              · next c rest heq =>
                have hrest := tail_suffix_of_skipSpace heq
                split
                · exact (ih _ _ rest).of_suffix hrest
                split
                · exact (ih _ _ rest).of_suffix hrest
                · trivial

theorem skip_leaves (cs : List Char) : LeavesOnly cs (skip cs) :=
  skipFrom_leaves _ [] .value cs

end Reader

end Json

end LogQuery
