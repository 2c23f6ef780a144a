import LogQuery.Text.Utf8

/-!
# Texts and Their Bytes

Encoding and decoding are inverse to each other. Bytes decode to a text exactly
if they are the encoding of that text, so a statement about the bytes of a file
is a statement about its characters, and the other way round.

The two functions are not written alike: one goes by the size of the code point,
the other by the lead byte. `Sequence` stands between them. It lists the
well-formed sequences with their code points, and each of the two functions is
compared with the list and not with the other one.

Of single characters the newline is the one that matters, because lines are cut
at bytes and written as characters. Its byte occurs in no longer sequence, so
there are as many newlines in a text as in its bytes.

## Main definitions

* `Utf8.Sequence`: A well-formed sequence of bytes and its code point.

## Theorems

* `decodeFrom_sequence`: A sequence decodes to the character of its code point.
* `sequence_encode`: A character is encoded as a sequence of its code point.
* `encode_of_sequence`: A code point has one sequence.
* `decode_encode`: An encoded text is decoded.
* `decode_eq_ok_iff`: Only an encoded text is decoded.
* `eq_concat_of_encode`: A byte of ASCII at the end is the last character.
* `count_encode`: A text and its bytes have the same number of newlines.
-/

namespace LogQuery

namespace Utf8

/-- A well-formed sequence of bytes and the code point that it stands for. -/
inductive Sequence : Bytes → Nat → Prop where
  | one {a : UInt8} (ha : a.toNat < 0x80) : Sequence [a] a.toNat
  | two {a b : UInt8} (ha : 0xc2 ≤ a.toNat ∧ a.toNat ≤ 0xdf) (hb : isTail b = true) :
      Sequence [a, b] (a.toNat % 32 * 64 + tailBits b)
  | three {a b c : UInt8} (ha : 0xe0 ≤ a.toNat ∧ a.toNat ≤ 0xef)
      (hb : secondOfThree a b = true) (hc : isTail c = true) :
      Sequence [a, b, c] ((a.toNat % 16 * 64 + tailBits b) * 64 + tailBits c)
  | four {a b c d : UInt8} (ha : 0xf0 ≤ a.toNat ∧ a.toNat ≤ 0xf4)
      (hb : secondOfFour a b = true) (hc : isTail c = true) (hd : isTail d = true) :
      Sequence [a, b, c, d]
        (((a.toNat % 8 * 64 + tailBits b) * 64 + tailBits c) * 64 + tailBits d)

/-! ### Bytes as numbers -/

theorem between_iff (low high b : UInt8) :
    (decide (low ≤ b) && decide (b ≤ high)) = true ↔
      low.toNat ≤ b.toNat ∧ b.toNat ≤ high.toNat := by
  rw [Bool.and_eq_true, decide_eq_true_eq, decide_eq_true_eq, UInt8.le_iff_toNat_le,
    UInt8.le_iff_toNat_le]

theorem between_eq_false {low high b : UInt8}
    (h : b.toNat < low.toNat ∨ high.toNat < b.toNat) :
    (decide (low ≤ b) && decide (b ≤ high)) = false := by
  rw [← Bool.not_eq_true, between_iff]
  omega

theorem not_lt_of_toNat {a b : UInt8} (h : b.toNat ≤ a.toNat) : ¬ a < b :=
  fun hlt => Nat.lt_irrefl _ (Nat.lt_of_lt_of_le (UInt8.lt_iff_toNat_lt.mp hlt) h)

theorem isTail_iff (b : UInt8) : isTail b = true ↔ 0x80 ≤ b.toNat ∧ b.toNat ≤ 0xbf :=
  between_iff 0x80 0xbf b

/-- A byte that continues a sequence, but not so low behind one lead byte and not
    so high behind another. -/
theorem restrictedTail_iff {x y low high : UInt8} (hxy : x ≠ y) (hlow : 0x80 ≤ low.toNat)
    (hhigh : high.toNat ≤ 0xbf) (a b : UInt8) :
    (if a == x then decide (low ≤ b) && decide (b ≤ 0xbf)
      else if a == y then decide (0x80 ≤ b) && decide (b ≤ high) else isTail b) = true ↔
      (0x80 ≤ b.toNat ∧ b.toNat ≤ 0xbf) ∧ (a.toNat ≠ x.toNat ∨ low.toNat ≤ b.toNat) ∧
        (a.toNat ≠ y.toNat ∨ b.toNat ≤ high.toNat) := by
  have hx : a = x ↔ a.toNat = x.toNat := UInt8.toNat_inj.symm
  have hy : a = y ↔ a.toNat = y.toNat := UInt8.toNat_inj.symm
  have hne : x.toNat ≠ y.toNat := fun h => hxy (UInt8.toNat_inj.mp h)
  by_cases hax : a.toNat = x.toNat
  · rw [if_pos (beq_iff_eq.mpr (hx.mpr hax)), between_iff]
    simp only [UInt8.toNat_ofNat]
    omega
  · rw [if_neg (fun h => hax (hx.mp (beq_iff_eq.mp h)))]
    by_cases hay : a.toNat = y.toNat
    · rw [if_pos (beq_iff_eq.mpr (hy.mpr hay)), between_iff]
      simp only [UInt8.toNat_ofNat]
      omega
    · rw [if_neg (fun h => hay (hy.mp (beq_iff_eq.mp h))), isTail_iff]
      omega

theorem secondOfThree_iff (a b : UInt8) :
    secondOfThree a b = true ↔ (0x80 ≤ b.toNat ∧ b.toNat ≤ 0xbf) ∧
      (a.toNat ≠ 0xe0 ∨ 0xa0 ≤ b.toNat) ∧ (a.toNat ≠ 0xed ∨ b.toNat ≤ 0x9f) :=
  restrictedTail_iff (by decide) (by decide) (by decide) a b

theorem secondOfFour_iff (a b : UInt8) :
    secondOfFour a b = true ↔ (0x80 ≤ b.toNat ∧ b.toNat ≤ 0xbf) ∧
      (a.toNat ≠ 0xf0 ∨ 0x90 ≤ b.toNat) ∧ (a.toNat ≠ 0xf4 ∨ b.toNat ≤ 0x8f) :=
  restrictedTail_iff (by decide) (by decide) (by decide) a b

/-! ### Decoding a sequence -/

/-- A well-formed sequence decodes to the character of its code point, whatever
    stands around it. -/
theorem decodeFrom_sequence {s : Bytes} {n : Nat} (h : Sequence s n) (offset : Nat)
    (before : List Char) (rest : Bytes) :
    decodeFrom offset before (s ++ rest) =
      decodeFrom (offset + s.length) (Char.ofNat n :: before) rest := by
  cases h with
  | @one a ha =>
      have hlead : a < 0x80 := UInt8.lt_iff_toNat_lt.mpr ha
      rw [decodeFrom.eq_def]
      simp only [List.cons_append, List.nil_append, hlead, if_true]
      rfl
  | @two a b ha hb =>
      have hone : ¬ a < 0x80 := not_lt_of_toNat (Nat.le_trans (by decide) ha.1)
      have hlead := (between_iff 0xc2 0xdf a).mpr ha
      rw [decodeFrom.eq_def]
      simp only [List.cons_append, List.nil_append, hone, hlead, hb, if_false, if_true]
      rfl
  | @three a b c ha hb hc =>
      -- The ranges of the lead bytes exclude each other, so the tests before fail.
      have hone : ¬ a < 0x80 := not_lt_of_toNat (Nat.le_trans (by decide) ha.1)
      have htwo : (decide (0xc2 ≤ a) && decide (a ≤ 0xdf)) = false :=
        between_eq_false (.inr (Nat.lt_of_lt_of_le (by decide) ha.1))
      have hlead := (between_iff 0xe0 0xef a).mpr ha
      rw [decodeFrom.eq_def]
      simp only [List.cons_append, List.nil_append, hone, htwo, hlead, hb, hc, if_false, if_true,
        Bool.false_eq_true]
      rfl
  | @four a b c d ha hb hc hd =>
      have hone : ¬ a < 0x80 := not_lt_of_toNat (Nat.le_trans (by decide) ha.1)
      have htwo : (decide (0xc2 ≤ a) && decide (a ≤ 0xdf)) = false :=
        between_eq_false (.inr (Nat.lt_of_lt_of_le (by decide) ha.1))
      have hthree : (decide (0xe0 ≤ a) && decide (a ≤ 0xef)) = false :=
        between_eq_false (.inr (Nat.lt_of_lt_of_le (by decide) ha.1))
      have hlead := (between_iff 0xf0 0xf4 a).mpr ha
      rw [decodeFrom.eq_def]
      simp only [List.cons_append, List.nil_append, hone, htwo, hthree, hlead, hb, hc, hd,
        if_false, if_true, Bool.false_eq_true]
      rfl

/-! ### Encoding a character -/

theorem toNat_ofNat_valid {n : Nat} (h : n.isValidChar) : (Char.ofNat n).val.toNat = n := by
  rw [Char.ofNat, dif_pos h]
  rfl

theorem Sequence.of_eq {s : Bytes} {m n : Nat} (h : Sequence s m) (hmn : m = n) : Sequence s n :=
  hmn ▸ h

/-- The byte that continues a sequence with the last six bits of a number. -/
theorem tail_ofNat (n : Nat) :
    (UInt8.ofNat (n % 64 + 0x80)).toNat = n % 64 + 0x80 ∧
      isTail (UInt8.ofNat (n % 64 + 0x80)) = true ∧
      tailBits (UInt8.ofNat (n % 64 + 0x80)) = n % 64 := by
  have hbyte : (UInt8.ofNat (n % 64 + 0x80)).toNat = n % 64 + 0x80 :=
    UInt8.toNat_ofNat_of_lt' (by simp only [UInt8.size]; omega)
  rw [isTail_iff, tailBits, hbyte]
  omega

/-- The bytes of a character are a sequence of its code point. -/
theorem sequence_encode (c : Char) : Sequence (String.utf8EncodeChar c) c.toNat := by
  have hvalid : c.toNat < 0xd800 ∨ 0xdfff < c.toNat ∧ c.toNat < 0x110000 := c.valid
  have hbyte : ∀ n < 256, (UInt8.ofNat n).toNat = n := fun n hn => UInt8.toNat_ofNat_of_lt' hn
  unfold String.utf8EncodeChar
  simp only [Char.toNat_val]
  by_cases h₁ : c.toNat ≤ 0x7f
  · rw [if_pos h₁]
    have hone := hbyte c.toNat (by omega)
    exact (Sequence.one (by omega)).of_eq hone
  rw [if_neg h₁]
  rcases tail_ofNat c.toNat with ⟨_, hlast, hlastBits⟩
  by_cases h₂ : c.toNat ≤ 0x7ff
  · rw [if_pos h₂]
    have hlead := hbyte (c.toNat / 64 % 0x20 + 0xc0) (by omega)
    refine (Sequence.two (by omega) hlast).of_eq ?_
    rw [hlead, hlastBits]
    omega
  rw [if_neg h₂]
  rcases tail_ofNat (c.toNat / 64) with ⟨hsixth, hthird, hthirdBits⟩
  by_cases h₃ : c.toNat ≤ 0xffff
  · rw [if_pos h₃]
    have hlead := hbyte (c.toNat / 4096 % 0x10 + 0xe0) (by omega)
    refine (Sequence.three (by omega) ?_ hlast).of_eq ?_
    · -- A lead byte without bits of its own leaves a code point that needs three
      -- bytes to the second one, and the other limit keeps out surrogates.
      rw [secondOfThree_iff, hsixth, hlead]
      omega
    · rw [hlead, hthirdBits, hlastBits]
      omega
  rw [if_neg h₃]
  rcases tail_ofNat (c.toNat / 4096) with ⟨htwelfth, hsecond, hsecondBits⟩
  have hlead := hbyte (c.toNat / 262144 % 0x08 + 0xf0) (by omega)
  refine (Sequence.four (by omega) ?_ hthird hlast).of_eq ?_
  · rw [secondOfFour_iff, htwelfth, hlead]
    omega
  · rw [hlead, hsecondBits, hthirdBits, hlastBits]
    omega

/-- A code point has no other sequence than the bytes of its character. -/
theorem encode_of_sequence {s : Bytes} {n : Nat} (h : Sequence s n) :
    String.utf8EncodeChar (Char.ofNat n) = s := by
  have hbyte : ∀ (n : Nat) (b : UInt8), n = b.toNat → UInt8.ofNat n = b := by
    rintro n b rfl
    exact UInt8.ofNat_toNat
  cases h with
  | @one a ha =>
      have hvalid : (a.toNat).isValidChar := .inl (by omega)
      unfold String.utf8EncodeChar
      simp only [toNat_ofNat_valid hvalid]
      rw [if_pos (by omega), hbyte _ a rfl]
  | @two a b ha hb =>
      rw [isTail_iff] at hb
      have hvalid : (a.toNat % 32 * 64 + tailBits b).isValidChar :=
        .inl (by unfold tailBits; omega)
      unfold String.utf8EncodeChar
      simp only [toNat_ofNat_valid hvalid]
      unfold tailBits
      rw [if_neg (by omega), if_pos (by omega), hbyte _ a (by omega), hbyte _ b (by omega)]
  | @three a b c ha hb hc =>
      rw [secondOfThree_iff] at hb
      rw [isTail_iff] at hc
      have hvalid : ((a.toNat % 16 * 64 + tailBits b) * 64 + tailBits c).isValidChar := by
        unfold Nat.isValidChar tailBits
        omega
      unfold String.utf8EncodeChar
      simp only [toNat_ofNat_valid hvalid]
      unfold tailBits
      rw [if_neg (by omega), if_neg (by omega), if_pos (by omega), hbyte _ a (by omega),
        hbyte _ b (by omega), hbyte _ c (by omega)]
  | @four a b c d ha hb hc hd =>
      rw [secondOfFour_iff] at hb
      rw [isTail_iff] at hc hd
      have hvalid : (((a.toNat % 8 * 64 + tailBits b) * 64 + tailBits c) * 64 +
          tailBits d).isValidChar := by
        unfold Nat.isValidChar tailBits
        omega
      unfold String.utf8EncodeChar
      simp only [toNat_ofNat_valid hvalid]
      unfold tailBits
      rw [if_neg (by omega), if_neg (by omega), if_neg (by omega), hbyte _ a (by omega),
        hbyte _ b (by omega), hbyte _ c (by omega), hbyte _ d (by omega)]

/-! ### Whole texts -/

theorem encode_nil : encode [] = [] := rfl

theorem encode_cons (c : Char) (cs : List Char) :
    encode (c :: cs) = String.utf8EncodeChar c ++ encode cs :=
  List.flatMap_cons

theorem encode_append (xs ys : List Char) : encode (xs ++ ys) = encode xs ++ encode ys :=
  List.flatMap_append

theorem decodeFrom_encode (offset : Nat) (before cs : List Char) :
    decodeFrom offset before (encode cs) = .ok (before.reverse ++ cs) := by
  induction cs generalizing offset before with
  | nil =>
      rw [encode_nil, decodeFrom.eq_def, List.append_nil]
  | cons c rest ih =>
      rw [encode_cons, decodeFrom_sequence (sequence_encode c), Char.ofNat_toNat, ih,
        List.reverse_cons, List.append_assoc, List.singleton_append]

/-- An encoded text is decoded. -/
theorem decode_encode (cs : List Char) : decode (encode cs) = .ok cs :=
  decodeFrom_encode 0 [] cs

/-- One more sequence in front of an encoded text is one more character. -/
theorem encode_of_sequence_append {s rest : Bytes} {n : Nat} {before cs : List Char}
    (h : Sequence s n)
    (hrest : ∃ text, cs = (Char.ofNat n :: before).reverse ++ text ∧ rest = encode text) :
    ∃ text, cs = before.reverse ++ text ∧ s ++ rest = encode text := by
  rcases hrest with ⟨text, rfl, rfl⟩
  refine ⟨Char.ofNat n :: text, ?_, ?_⟩
  · rw [List.reverse_cons, List.append_assoc, List.singleton_append]
  · rw [encode_cons, encode_of_sequence h]

theorem encode_of_decodeFrom {offset : Nat} {before cs : List Char} {bytes : Bytes}
    (h : decodeFrom offset before bytes = .ok cs) :
    ∃ text, cs = before.reverse ++ text ∧ bytes = encode text := by
  -- There is a case for each way through the tests, and all but five end in a fault.
  fun_induction decodeFrom offset before bytes with
  | case1 offset before =>
      cases h
      exact ⟨[], (List.append_nil _).symm, rfl⟩
  | case2 offset before a rest ha ih =>
      exact encode_of_sequence_append (.one (UInt8.lt_iff_toNat_lt.mp ha)) (ih h)
  | case4 offset before a _ ha b rest hb ih =>
      exact encode_of_sequence_append (.two ((between_iff 0xc2 0xdf a).mp ha) hb) (ih h)
  | case8 offset before a _ _ ha b hb c rest hc code ih =>
      exact encode_of_sequence_append (.three ((between_iff 0xe0 0xef a).mp ha) hb hc) (ih h)
  | case14 offset before a _ _ _ ha b hb c hc d rest hd code ih =>
      exact encode_of_sequence_append (.four ((between_iff 0xf0 0xf4 a).mp ha) hb hc hd) (ih h)
  | _ => cases h

/-- Bytes are those of a text exactly if they decode to it. -/
theorem decode_eq_ok_iff {bytes : Bytes} {cs : List Char} :
    decode bytes = .ok cs ↔ bytes = encode cs := by
  constructor
  · intro h
    rcases encode_of_decodeFrom h with ⟨text, rfl, hbytes⟩
    exact hbytes
  · rintro rfl
    exact decode_encode cs

/-! ### Last bytes -/

/-- A byte of ASCII does not end a longer sequence. -/
theorem Sequence.eq_singleton {s : Bytes} {n : Nat} {b : UInt8} (h : Sequence s n)
    (hlast : s.getLast? = some b) (hb : b.toNat < 0x80) : s = [b] ∧ n = b.toNat := by
  have hlarge (c : UInt8) (hc : isTail c = true) : ¬ c.toNat < 0x80 := by
    rw [isTail_iff] at hc
    omega
  cases h with
  | one =>
      cases hlast
      exact ⟨rfl, rfl⟩
  | two _ hc =>
      cases hlast
      exact absurd hb (hlarge _ hc)
  | three _ _ hc =>
      cases hlast
      exact absurd hb (hlarge _ hc)
  | four _ _ _ hc =>
      cases hlast
      exact absurd hb (hlarge _ hc)

/-- A byte of ASCII at the end of the bytes of a text is the last character. -/
theorem eq_concat_of_encode {cs : List Char} {bytes : Bytes} {b : UInt8} (hb : b.toNat < 0x80)
    (h : encode cs = bytes ++ [b]) :
    ∃ front, cs = front ++ [Char.ofNat b.toNat] ∧ bytes = encode front := by
  rcases List.eq_nil_or_concat cs with rfl | ⟨front, c, rfl⟩
  · exact absurd h.symm (List.append_ne_nil_of_right_ne_nil bytes (List.cons_ne_nil b []))
  · rw [List.concat_eq_append, encode_append, encode_cons, encode_nil, List.append_nil] at h
    have hlast : (String.utf8EncodeChar c).getLast? = some b := by
      have hends := congrArg List.getLast? h
      have hne : String.utf8EncodeChar c ≠ [] := String.utf8EncodeChar_ne_nil
      rwa [List.getLast?_concat, List.getLast?_append, List.getLast?_eq_some_getLast hne,
        Option.some_or, ← List.getLast?_eq_some_getLast hne] at hends
    obtain ⟨hbyte, hcode⟩ := (sequence_encode c).eq_singleton hlast hb
    rw [hbyte] at h
    refine ⟨front, ?_, (List.append_cancel_right h).symm⟩
    rw [List.concat_eq_append, ← hcode, Char.ofNat_toNat]

/-! ### Newlines -/

/-- The newline is a byte of its own, which longer sequences do not have. -/
theorem count_of_sequence {s : Bytes} {n : Nat} (h : Sequence s n) :
    s.count 0x0a = if n = 0x0a then 1 else 0 := by
  -- The bytes of a longer sequence are large, and so is its code point.
  have hlong : ∀ (s : Bytes) (n : Nat), (∀ b ∈ s, 0x80 ≤ b.toNat) → 0x80 ≤ n →
      s.count 0x0a = if n = 0x0a then 1 else 0 := by
    intro s n hs hn
    rw [if_neg (by omega), List.count_eq_zero]
    intro hmem
    exact absurd (hs 0x0a hmem) (by decide)
  cases h with
  | @one a ha =>
      have hnewline : (a == 0x0a) = true ↔ a.toNat = 0x0a := by
        rw [beq_iff_eq, ← UInt8.toNat_inj]
        rfl
      simp only [List.count_singleton, hnewline]
  | @two a b ha hb =>
      rw [isTail_iff] at hb
      refine hlong _ _ ?_ (by omega)
      simp only [List.mem_cons, List.not_mem_nil, or_false, forall_eq_or_imp, forall_eq]
      omega
  | @three a b c ha hb hc =>
      rw [secondOfThree_iff] at hb
      rw [isTail_iff] at hc
      refine hlong _ _ ?_ (by unfold tailBits; omega)
      simp only [List.mem_cons, List.not_mem_nil, or_false, forall_eq_or_imp, forall_eq]
      omega
  | @four a b c d ha hb hc hd =>
      rw [secondOfFour_iff] at hb
      rw [isTail_iff] at hc hd
      refine hlong _ _ ?_ (by unfold tailBits; omega)
      simp only [List.mem_cons, List.not_mem_nil, or_false, forall_eq_or_imp, forall_eq]
      omega

theorem count_encodeChar (c : Char) :
    (String.utf8EncodeChar c).count 0x0a = if c = '\n' then 1 else 0 := by
  have hnewline : c.toNat = 0x0a ↔ c = '\n' := by
    constructor
    · intro h
      rw [← Char.ofNat_toNat c, h]
    · rintro rfl
      rfl
  simp only [count_of_sequence (sequence_encode c), hnewline]

/-- A text has as many newlines as its bytes. -/
theorem count_encode (cs : List Char) : (encode cs).count 0x0a = cs.count '\n' := by
  induction cs with
  | nil => rfl
  | cons c rest ih =>
      rw [encode_cons, List.count_append, ih, count_encodeChar, List.count_cons]
      simp only [beq_iff_eq]
      omega

end Utf8

end LogQuery
