/-!
# UTF-8

Texts are lists of characters and files are lists of bytes; this module goes
from one to the other. Decoding stops at the first ill-formed sequence and
says where it starts and how long it is. The length is that of the longest
prefix of a well-formed sequence found there, at least one byte, and a
sequence that the end of the input cuts short has no length: more input could
still complete it.

## Main definitions

* `Utf8.encode`: The bytes of a text.
* `Utf8.decode`: The text of some bytes, or the first fault in them.
* `Utf8.Fault.message`: The wording of a fault.
-/

namespace LogQuery

/-- A byte of a file or stream. -/
abbrev Bytes := List UInt8

namespace Utf8

/-- The first place where bytes are not UTF-8. -/
structure Fault where
  /-- How many bytes before the fault are well-formed. -/
  start : Nat
  /-- How many bytes are at fault, or `none` if the input ends too early. -/
  length : Option Nat
deriving DecidableEq, Repr

def Fault.message (fault : Fault) : String :=
  match fault.length with
  | some length =>
    "invalid utf-8 sequence of " ++ toString length ++ " bytes from index " ++
      toString fault.start
  | none => "incomplete utf-8 byte sequence from index " ++ toString fault.start

/-- The bytes of a text. -/
def encode (cs : List Char) : Bytes := cs.flatMap String.utf8EncodeChar

/-- The bytes of a string. -/
def ofString (s : String) : Bytes := encode s.toList

/-- How many bytes a text takes. -/
def size (cs : List Char) : Nat := cs.foldl (fun n c => n + c.utf8Size) 0

/-- Whether a byte continues a sequence. -/
def isTail (b : UInt8) : Bool := 0x80 ≤ b && b ≤ 0xbf

/-- The low six bits of a byte that continues a sequence. -/
def tailBits (b : UInt8) : Nat := b.toNat % 64

/-- Whether the second byte can follow the lead of a three-byte sequence. It
    must not lead to a shorter form or to a surrogate. -/
def secondOfThree (a b : UInt8) : Bool :=
  if a == 0xe0 then 0xa0 ≤ b && b ≤ 0xbf
  else if a == 0xed then 0x80 ≤ b && b ≤ 0x9f
  else isTail b

/-- Whether the second byte can follow the lead of a four-byte sequence. It
    must not lead to a shorter form or beyond the last character. -/
def secondOfFour (a b : UInt8) : Bool :=
  if a == 0xf0 then 0x90 ≤ b && b ≤ 0xbf
  else if a == 0xf4 then 0x80 ≤ b && b ≤ 0x8f
  else isTail b

/-- Decodes the bytes from an offset on, putting the characters before those
    already read. -/
def decodeFrom (offset : Nat) (before : List Char) : Bytes → Except Fault (List Char)
  | [] => .ok before.reverse
  | a :: rest =>
    if a < 0x80 then decodeFrom (offset + 1) (Char.ofNat a.toNat :: before) rest
    else if 0xc2 ≤ a && a ≤ 0xdf then
      match rest with
      | [] => .error ⟨offset, none⟩
      | b :: rest =>
        if isTail b then
          decodeFrom (offset + 2) (Char.ofNat ((a.toNat % 32) * 64 + tailBits b) :: before) rest
        else .error ⟨offset, some 1⟩
    else if 0xe0 ≤ a && a ≤ 0xef then
      match rest with
      | [] => .error ⟨offset, none⟩
      | b :: rest =>
        if secondOfThree a b then
          match rest with
          | [] => .error ⟨offset, none⟩
          | c :: rest =>
            if isTail c then
              let code := ((a.toNat % 16) * 64 + tailBits b) * 64 + tailBits c
              decodeFrom (offset + 3) (Char.ofNat code :: before) rest
            else .error ⟨offset, some 2⟩
        else .error ⟨offset, some 1⟩
    else if 0xf0 ≤ a && a ≤ 0xf4 then
      match rest with
      | [] => .error ⟨offset, none⟩
      | b :: rest =>
        if secondOfFour a b then
          match rest with
          | [] => .error ⟨offset, none⟩
          | c :: rest =>
            if isTail c then
              match rest with
              | [] => .error ⟨offset, none⟩
              | d :: rest =>
                if isTail d then
                  let code :=
                    (((a.toNat % 8) * 64 + tailBits b) * 64 + tailBits c) * 64 + tailBits d
                  decodeFrom (offset + 4) (Char.ofNat code :: before) rest
                else .error ⟨offset, some 3⟩
            else .error ⟨offset, some 2⟩
        else .error ⟨offset, some 1⟩
    else .error ⟨offset, some 1⟩

/-- The text of some bytes, or the first fault in them. -/
def decode (bytes : Bytes) : Except Fault (List Char) := decodeFrom 0 [] bytes

end Utf8

end LogQuery
