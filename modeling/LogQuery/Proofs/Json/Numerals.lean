import LogQuery.Json.Reader
import Mathlib.Data.List.TakeWhile

/-!
# Numerals

What the text of a number is to a reader. The reader takes the longest numeral
that stands at the front of a text, so the number it finds depends on what
comes behind. `EndsNumber` is the condition under which it does not, and
commas, closing brackets and the end of a text all meet it. Then a number that
is read from a text of its own is read in the same way inside a larger one.

Whether a number is read back from its own text is another matter. An integer
always is. A real need not be, because the reader rounds twice where its text
was made to be rounded once; `Number.ReadsBack` says of a number that it is,
and can be decided.

## Main definitions

* `Json.Reader.EndsNumber`: Nothing here goes on with a number.
* `Number.ReadsBack`: The text of a number is read as that number.
* `Numeral`: A text of digits, signs, points and exponent marks.

## Theorems

* `number_append`: A number is read in the same way in front of other text.
* `readsBack_integer`: Integers are read back.
* `head_of_number`: A number starts with a sign or a digit.
* `Number.numeral_text`: The characters of the text of a number.
-/

namespace LogQuery

theorem isDigit_of_mem_decimalDigits {n : Nat} {c : Char} (hc : c ∈ decimalDigits n) :
    c.isDigit = true :=
  Nat.isDigit_of_mem_toDigits (by decide) (by decide) hc

theorem not_mem_decimalDigits {c : Char} (hc : c.isDigit = false) (n : Nat) :
    c ∉ decimalDigits n := by
  intro hmem
  rw [isDigit_of_mem_decimalDigits hmem] at hc
  cases hc

/-- The digits of a number give the number. -/
theorem ofDigitChars_decimalDigits (n : Nat) : Nat.ofDigitChars 10 (decimalDigits n) 0 = n :=
  Nat.ofDigitChars_ten_toDigits

namespace Json.Reader

/-- No digit, no point and no mark of an exponent stands first, so nothing here
    goes on with a number. -/
def EndsNumber (rest : List Char) : Prop :=
  ∀ c ∈ rest.head?, c.isDigit = false ∧ c ≠ '.' ∧ c ≠ 'e' ∧ c ≠ 'E'

theorem endsNumber_nil : EndsNumber [] := by
  intro c hc
  cases hc

theorem endsNumber_cons {c : Char} (rest : List Char)
    (h : c.isDigit = false ∧ c ≠ '.' ∧ c ≠ 'e' ∧ c ≠ 'E') : EndsNumber (c :: rest) := by
  intro d hd
  cases hd
  exact h

/-- Two texts that do not start with a character do not do so together. -/
theorem append_ne_cons {c : Char} {cs rest : List Char} (hcs : ∀ more, cs ≠ c :: more)
    (hrest : ∀ more, rest ≠ c :: more) (more : List Char) : cs ++ rest ≠ c :: more := by
  cases cs with
  | nil => exact hrest more
  | cons d cs =>
      intro h
      cases h
      exact hcs cs rfl

theorem EndsNumber.ne_cons {rest : List Char} (hrest : EndsNumber rest) {c : Char}
    (hc : c = '.' ∨ c = 'e' ∨ c = 'E') (more : List Char) : rest ≠ c :: more := by
  rintro rfl
  rcases hrest c rfl with ⟨_, hpoint, hlower, hupper⟩
  rcases hc with h | h | h
  · exact hpoint h
  · exact hlower h
  · exact hupper h

theorem digits_append (cs : List Char) {rest : List Char} (hrest : EndsNumber rest) :
    digits (cs ++ rest) = ((digits cs).1, (digits cs).2 ++ rest) := by
  induction cs with
  | nil =>
      cases rest with
      | nil => rfl
      | cons c rest =>
          have hc : c.isDigit = false := (hrest c rfl).1
          simp only [digits, List.nil_append, List.takeWhile_cons, List.dropWhile_cons, hc,
            Bool.false_eq_true, if_false, List.takeWhile_nil, List.dropWhile_nil]
  | cons c cs ih =>
      rcases Prod.ext_iff.mp ih with ⟨htake, hdrop⟩
      simp only [digits] at htake hdrop
      cases hc : c.isDigit with
      | true =>
          simp only [digits, List.cons_append, List.takeWhile_cons, List.dropWhile_cons, hc,
            if_true, htake, hdrop]
      | false =>
          simp only [digits, List.cons_append, List.takeWhile_cons, List.dropWhile_cons, hc,
            Bool.false_eq_true, if_false]

/-- The rule of a real as a function of what is left. Unfolded at a text it would
    have the checker compute powers of ten. -/
theorem realOfParts_eq (negative : Bool) (significand : Nat) (exponent : Int) :
    realOfParts negative significand exponent = fun rest =>
      match Binary64.scaled? negative significand exponent with
      | some value => .ok (.real value, rest)
      | none => .error (.here .numberOutOfRange rest) := rfl

theorem realOfParts_append {negative : Bool} {significand : Nat} {exponent : Int} {n : Number}
    {cs left : List Char} (rest : List Char)
    (h : realOfParts negative significand exponent cs = .ok (n, left)) :
    realOfParts negative significand exponent (cs ++ rest) = .ok (n, left ++ rest) := by
  rw [realOfParts_eq] at h ⊢
  cases hvalue : Binary64.scaled? negative significand exponent with
  | none =>
      rw [hvalue] at h
      cases h
  | some value =>
      rw [hvalue] at h
      cases h
      rfl

/-- The digits of an exponent whose sign has been read. -/
def exponentDigits (negative : Bool) (significand : Nat) (start : Int) (minus : Bool)
    (cs : List Char) : Except Fault (Number × List Char) :=
  match digits cs with
  | ([], []) => .error (.here .endInValue [])
  | ([], _) => .error (.beyond .invalidNumber cs)
  | (ds, rest) =>
    match absorb 0x80000000 0 ds with
    | (n, []) =>
      realOfParts negative significand (if minus then start - n else start + n) rest
    | (_, _ :: more) =>
      if significand ≠ 0 ∧ ¬ minus then .error (.here .numberOutOfRange (more ++ rest))
      else .ok (.real (.zero negative), rest)

theorem exponentDigits_append {negative : Bool} {significand : Nat} {start : Int} {minus : Bool}
    {n : Number} {cs left rest : List Char} (hrest : EndsNumber rest)
    (h : exponentDigits negative significand start minus cs = .ok (n, left)) :
    exponentDigits negative significand start minus (cs ++ rest) = .ok (n, left ++ rest) := by
  unfold exponentDigits at h ⊢
  rw [digits_append cs hrest]
  rcases hdigits : digits cs with ⟨ds, behind⟩
  rw [hdigits] at h
  cases ds with
  | nil => cases behind <;> cases h
  | cons d ds =>
      simp only at h ⊢
      split at h
      · exact realOfParts_append rest h
      · split at h
        · cases h
        · next hsmall =>
          cases h
          rw [if_neg hsmall]

/-- The sign of an exponent is its own character or is not there. -/
theorem exponentPart_cons (negative : Bool) (significand : Nat) (start : Int) (c : Char)
    (cs : List Char) :
    ∃ minus body, ∀ rest, exponentPart negative significand start (c :: cs ++ rest) =
      exponentDigits negative significand start minus (body ++ rest) := by
  by_cases hplus : c = '+'
  · subst hplus
    exact ⟨false, cs, fun _ => rfl⟩
  by_cases hminus : c = '-'
  · subst hminus
    exact ⟨true, cs, fun _ => rfl⟩
  refine ⟨false, c :: cs, fun rest => ?_⟩
  unfold exponentPart
  split
  next minus body hsign =>
    split at hsign
    · next heq => cases heq; exact absurd rfl hplus
    · next heq => cases heq; exact absurd rfl hminus
    · cases hsign
      rfl

theorem exponentPart_append {negative : Bool} {significand : Nat} {start : Int} {n : Number}
    {cs left rest : List Char} (hrest : EndsNumber rest)
    (h : exponentPart negative significand start cs = .ok (n, left)) :
    exponentPart negative significand start (cs ++ rest) = .ok (n, left ++ rest) := by
  cases cs with
  | nil => cases h
  | cons c cs =>
      rcases exponentPart_cons negative significand start c cs with ⟨minus, body, hbody⟩
      rw [hbody]
      have halone := hbody []
      rw [List.append_nil, List.append_nil] at halone
      exact exponentDigits_append hrest (halone.symm.trans h)

theorem fractionPart_append {negative : Bool} {significand : Nat} {start : Int} {n : Number}
    {cs left rest : List Char} (hrest : EndsNumber rest)
    (h : fractionPart negative significand start cs = .ok (n, left)) :
    fractionPart negative significand start (cs ++ rest) = .ok (n, left ++ rest) := by
  unfold fractionPart at h ⊢
  rw [digits_append cs hrest]
  rcases hdigits : digits cs with ⟨ds, behind⟩
  rw [hdigits] at h
  cases ds with
  | nil => cases behind <;> cases h
  | cons d ds =>
      simp only at h ⊢
      split at h
      · exact exponentPart_append hrest h
      · exact exponentPart_append hrest h
      · next hlower hupper =>
        split
        · next heq => exact absurd heq (append_ne_cons hlower (hrest.ne_cons (by simp)) _)
        · next heq => exact absurd heq (append_ne_cons hupper (hrest.ne_cons (by simp)) _)
        · exact realOfParts_append rest h

theorem behindInteger_append {negative : Bool} {significand dropped : Nat} {n : Number}
    {cs left rest : List Char} (hrest : EndsNumber rest)
    (h : unsignedNumber.behindInteger negative significand dropped cs = .ok (n, left)) :
    unsignedNumber.behindInteger negative significand dropped (cs ++ rest) =
      .ok (n, left ++ rest) := by
  unfold unsignedNumber.behindInteger at h ⊢
  split at h
  · exact fractionPart_append hrest h
  · exact exponentPart_append hrest h
  · exact exponentPart_append hrest h
  · next hpoint hlower hupper =>
    split
    · next heq => exact absurd heq (append_ne_cons hpoint (hrest.ne_cons (by simp)) _)
    · next heq => exact absurd heq (append_ne_cons hlower (hrest.ne_cons (by simp)) _)
    · next heq => exact absurd heq (append_ne_cons hupper (hrest.ne_cons (by simp)) _)
    · split at h
      · next hwhole =>
        simp only [Except.ok.injEq, Prod.mk.injEq] at h
        rw [if_pos hwhole, h.1, h.2]
      · next hpart =>
        rw [if_neg hpart]
        exact realOfParts_append rest h

theorem unsignedNumber_zero {cs rest : List Char} (negative : Bool)
    (h : digits cs = (['0'], rest)) :
    unsignedNumber negative cs = unsignedNumber.behindInteger negative 0 0 rest := by
  rw [unsignedNumber, h]
  rfl

theorem unsignedNumber_nonzero {d : Char} {cs ds rest : List Char} (negative : Bool)
    (hd : d ≠ '0') (h : digits cs = (d :: ds, rest)) :
    unsignedNumber negative cs = unsignedNumber.behindInteger negative
      (absorb 0x10000000000000000 0 (d :: ds)).1
      (absorb 0x10000000000000000 0 (d :: ds)).2.length rest := by
  rw [unsignedNumber, h]
  split
  · next heq => cases heq
  · next heq => cases heq
  · next heq => cases heq; exact absurd rfl hd
  · next heq => cases heq; rfl

theorem unsignedNumber_append {negative : Bool} {n : Number} {cs left rest : List Char}
    (hrest : EndsNumber rest) (h : unsignedNumber negative cs = .ok (n, left)) :
    unsignedNumber negative (cs ++ rest) = .ok (n, left ++ rest) := by
  have hmore := digits_append cs hrest
  rcases hdigits : digits cs with ⟨ds, behind⟩
  rw [hdigits] at hmore
  cases ds with
  | nil =>
      rw [unsignedNumber, hdigits] at h
      cases behind <;> cases h
  | cons d ds =>
      by_cases hd : d = '0'
      · subst hd
        cases ds with
        | nil =>
            rw [unsignedNumber_zero negative hdigits] at h
            rw [unsignedNumber_zero negative hmore]
            exact behindInteger_append hrest h
        | cons _ _ =>
            rw [unsignedNumber, hdigits] at h
            cases h
      · rw [unsignedNumber_nonzero negative hd hdigits] at h
        rw [unsignedNumber_nonzero negative hd hmore]
        exact behindInteger_append hrest h

theorem number_unsigned {c : Char} (hc : c ≠ '-') (cs : List Char) :
    number (c :: cs) = unsignedNumber false (c :: cs) := by
  unfold number
  split
  · next heq => cases heq; exact absurd rfl hc
  · rfl

/-- A number is read in the same way when something stands behind it that does
    not go on with it. -/
theorem number_append {n : Number} {cs left rest : List Char} (hrest : EndsNumber rest)
    (h : number cs = .ok (n, left)) : number (cs ++ rest) = .ok (n, left ++ rest) := by
  cases cs with
  | nil => cases h
  | cons c cs =>
      by_cases hc : c = '-'
      · subst hc
        exact unsignedNumber_append hrest h
      · rw [number_unsigned hc] at h
        rw [List.cons_append, number_unsigned hc]
        exact unsignedNumber_append hrest h

/-! ### Integers -/

theorem le_ofDigitChars (n : Nat) (ds : List Char) : n ≤ Nat.ofDigitChars 10 ds n := by
  rw [Nat.ofDigitChars_eq_ofDigitChars_zero]
  have hpower : 1 * n ≤ 10 ^ ds.length * n :=
    Nat.mul_le_mul_right n (Nat.pow_pos (by decide))
  omega

/-- Digits whose value fits are all absorbed. -/
theorem absorb_eq {limit : Nat} (n : Nat) (ds : List Char)
    (h : Nat.ofDigitChars 10 ds n < limit) :
    absorb limit n ds = (Nat.ofDigitChars 10 ds n, []) := by
  induction ds generalizing n with
  | nil => rw [absorb, Nat.ofDigitChars_nil]
  | cons d ds ih =>
      rw [Nat.ofDigitChars_cons, Nat.mul_comm] at h ⊢
      have hnext := Nat.lt_of_le_of_lt (le_ofDigitChars _ ds) h
      rw [absorb, if_pos hnext]
      exact ih _ h

/-- A positive number is written without a leading zero. -/
theorem decimalDigits_ne_zero_cons {n : Nat} (hn : 0 < n) (ds : List Char) :
    decimalDigits n ≠ '0' :: ds := by
  induction n using Nat.strongRecOn generalizing ds with
  | ind n ih =>
      unfold decimalDigits at ih ⊢
      rw [Nat.toDigits_eq_if (by decide)]
      split
      · next hsmall =>
        intro h
        have hd : n.digitChar = '0' := (List.cons.inj h).1
        have hnd := Nat.toNat_digitChar_of_lt_ten hsmall
        rw [hd] at hnd
        simp at hnd
        omega
      · next hlarge =>
        -- The first digit is that of the number without its last digit.
        intro h
        rcases hquotient : Nat.toDigits 10 (n / 10) with _ | ⟨d, more⟩
        · exact Nat.toDigits_ne_nil hquotient
        · rw [hquotient] at h
          have hd : d = '0' := (List.cons.inj h).1
          exact ih (n / 10) (by omega) (by omega) more (hd ▸ hquotient)

theorem digits_decimalDigits (n : Nat) : digits (decimalDigits n) = (decimalDigits n, []) := by
  have hall : ∀ c ∈ decimalDigits n, c.isDigit = true := fun _ => isDigit_of_mem_decimalDigits
  rw [digits, List.takeWhile_eq_self_iff.mpr hall, List.dropWhile_eq_nil_iff.mpr hall]

theorem unsignedNumber_decimalDigits (negative : Bool) {n : Nat} (hn : n < 0x10000000000000000) :
    unsignedNumber negative (decimalDigits n) = .ok (integerValue negative n, []) := by
  have hdigits := digits_decimalDigits n
  rcases hds : decimalDigits n with _ | ⟨d, ds⟩
  · exact absurd hds Nat.toDigits_ne_nil
  rw [hds] at hdigits
  rcases Nat.eq_zero_or_pos n with rfl | hpos
  · have hzero : d :: ds = ['0'] := hds.symm.trans (Nat.toDigits_zero 10)
    rw [hzero] at hdigits ⊢
    rw [unsignedNumber_zero negative hdigits]
    rfl
  · have hd : d ≠ '0' := by
      rintro rfl
      exact decimalDigits_ne_zero_cons hpos ds hds
    have hvalue : Nat.ofDigitChars 10 (d :: ds) 0 = n := hds ▸ ofDigitChars_decimalDigits n
    rw [unsignedNumber_nonzero negative hd hdigits,
      absorb_eq 0 (d :: ds) (by rw [hvalue]; exact hn), hvalue]
    rfl

end Json.Reader

namespace Number

open Json.Reader

/-- The reader of numbers finds in the text of a number that number, and nothing
    behind it. -/
def ReadsBack (n : Number) : Prop := number n.text.toList = .ok (n, [])

instance (n : Number) : Decidable n.ReadsBack :=
  match h : number n.text.toList with
  | .ok result => decidable_of_iff (result = (n, [])) (by rw [ReadsBack, h, Except.ok.injEq])
  | .error _ => isFalse fun hread => by cases h.symm.trans hread

theorem ofInt?_of_inRange {value : Int}
    (inRange : -0x8000000000000000 ≤ value ∧ value < 0x10000000000000000) :
    ofInt? value = some (integer value inRange) :=
  dif_pos inRange

/-- The literal of an integer, its digits read after its sign. -/
theorem integerValue_natAbs {value : Int}
    (inRange : -0x8000000000000000 ≤ value ∧ value < 0x10000000000000000) :
    integerValue (decide (value < 0)) value.natAbs = integer value inRange := by
  unfold integerValue
  have hvalue : (if decide (value < 0) = true then -(value.natAbs : Int) else value.natAbs) =
      value := by
    split
    · next hneg => rw [decide_eq_true_eq] at hneg; omega
    · next hneg => rw [decide_eq_true_eq] at hneg; omega
  rw [hvalue, ofInt?_of_inRange inRange]
  split
  · next hzero =>
    rw [Bool.and_eq_true, decide_eq_true_eq, beq_iff_eq] at hzero
    omega
  · rfl

theorem number_integerText (value : Int) :
    number (integerText value).toList =
      unsignedNumber (decide (value < 0)) (decimalDigits value.natAbs) := by
  unfold integerText
  by_cases hneg : value < 0
  · rw [if_pos hneg, String.toList_append, String.toList_ofList, String.toList_ofList,
      decide_eq_true hneg]
    rfl
  · rw [if_neg hneg, String.toList_ofList, decide_eq_false hneg]
    rcases hds : decimalDigits value.natAbs with _ | ⟨d, ds⟩
    · exact absurd hds Nat.toDigits_ne_nil
    · refine number_unsigned ?_ ds
      rintro rfl
      have hmem : '-' ∈ decimalDigits value.natAbs := hds ▸ List.mem_cons_self
      exact not_mem_decimalDigits (by decide) _ hmem

/-- Integers are read back. -/
theorem readsBack_integer (value : Int)
    (inRange : -0x8000000000000000 ≤ value ∧ value < 0x10000000000000000) :
    (integer value inRange).ReadsBack := by
  have htext : (integer value inRange).text = integerText value := rfl
  rw [ReadsBack, htext, number_integerText value,
    unsignedNumber_decimalDigits _ (by omega), integerValue_natAbs inRange]

/-- A text that is read as a number starts with a sign or a digit. -/
theorem head_of_number {cs left : List Char} {n : Number} (h : number cs = .ok (n, left)) :
    ∃ c rest, cs = c :: rest ∧ (c = '-' ∨ c.isDigit = true) := by
  rcases cs with _ | ⟨c, rest⟩
  · cases h
  refine ⟨c, rest, rfl, ?_⟩
  by_cases hc : c = '-'
  · exact .inl hc
  · rw [number_unsigned hc] at h
    cases hdigit : c.isDigit with
    | true => exact .inr rfl
    | false => simp [unsignedNumber, digits, hdigit] at h

end Number

/-! ### The characters of a number -/

/-- A character that texts of numbers are made of. -/
def numeralChar (c : Char) : Bool := c.isDigit || ['-', '+', '.', 'e'].contains c

/-- All characters of the text are such. -/
def Numeral (s : String) : Prop := s.toList.all numeralChar = true

instance (s : String) : Decidable (Numeral s) :=
  inferInstanceAs (Decidable (s.toList.all numeralChar = true))

theorem Numeral.append {a b : String} (ha : Numeral a) (hb : Numeral b) : Numeral (a ++ b) := by
  rw [Numeral, String.toList_append, List.all_append, Bool.and_eq_true]
  exact ⟨ha, hb⟩

theorem Numeral.ofList {cs : List Char} (h : ∀ c ∈ cs, numeralChar c = true) :
    Numeral (String.ofList cs) := by
  rw [Numeral, String.toList_ofList]
  exact List.all_eq_true.mpr h

theorem Numeral.ite {p : Prop} [Decidable p] {a b : String} (ha : Numeral a) (hb : Numeral b) :
    Numeral (if p then a else b) := by
  split
  · exact ha
  · exact hb

theorem numeralChar_of_mem_decimalDigits {n : Nat} {c : Char} (hc : c ∈ decimalDigits n) :
    numeralChar c = true := by
  rw [numeralChar, isDigit_of_mem_decimalDigits hc, Bool.true_or]

theorem numeralChar_of_mem_replicate {n : Nat} {c : Char} (hc : c ∈ List.replicate n '0') :
    numeralChar c = true := by
  rw [(List.mem_replicate.mp hc).2]
  decide

theorem mem_of_mem_trimZeros {digits : List Char} {c : Char}
    (hc : c ∈ Decimal.trimZeros digits) : c ∈ digits :=
  List.mem_reverse.mp ((List.dropWhile_suffix _).mem (List.mem_reverse.mp hc))

theorem numeralChar_of_mem_shortest {x : Binary64} {c : Char}
    (hc : c ∈ (Decimal.shortest x).digits) : numeralChar c = true :=
  numeralChar_of_mem_decimalDigits (mem_of_mem_trimZeros hc)

theorem numeral_plain (d : Decimal) (hd : ∀ c ∈ d.digits, numeralChar c = true) :
    Numeral (Number.layout.plain d) := by
  unfold RealLayout.plain
  refine .ite (.append (by decide) (.ofList ?_)) (.ite (.append (.ofList ?_) (by decide))
    (.append (.append (.ofList ?_) (by decide)) (.ofList ?_)))
  · intro c hc
    exact (List.mem_append.mp hc).elim numeralChar_of_mem_replicate (hd c)
  · intro c hc
    exact (List.mem_append.mp hc).elim (hd c) numeralChar_of_mem_replicate
  · exact fun c hc => hd c (List.mem_of_mem_take hc)
  · exact fun c hc => hd c (List.mem_of_mem_drop hc)

theorem numeral_scientific (d : Decimal) (hd : ∀ c ∈ d.digits, numeralChar c = true) :
    Numeral (Number.layout.scientific d) := by
  have hrest : Numeral (String.ofList (d.digits.drop 1)) :=
    .ofList fun c hc => hd c (List.mem_of_mem_drop hc)
  have hfirst : Numeral (String.ofList (d.digits.take 1)) :=
    .ofList fun c hc => hd c (List.mem_of_mem_take hc)
  have hexponent : Numeral (String.ofList (decimalDigits d.exponent.natAbs)) :=
    .ofList fun _ => numeralChar_of_mem_decimalDigits
  unfold RealLayout.scientific
  exact .append (.append (.append (.append hfirst (.ite (by decide) (.append (by decide) hrest)))
    (by decide)) (.ite (by decide) (by decide))) hexponent

/-- The text of a number has only digits, signs, a point and the mark of an
    exponent. -/
theorem Number.numeral_text (n : Number) : Numeral n.text := by
  cases n with
  | integer value inRange =>
      have hdigits : Numeral (String.ofList (decimalDigits value.natAbs)) :=
        .ofList fun _ => numeralChar_of_mem_decimalDigits
      exact .ite (.append (by decide) hdigits) hdigits
  | real x =>
      have hsign : Numeral (if x.negative then "-" else "") := .ite (by decide) (by decide)
      have hshortest := fun c => numeralChar_of_mem_shortest (x := x) (c := c)
      unfold Number.text RealLayout.text
      exact .ite (.append (.append hsign (by decide)) (by decide))
        (.ite (.append hsign (numeral_plain _ hshortest))
          (.append hsign (numeral_scientific _ hshortest)))

end LogQuery
