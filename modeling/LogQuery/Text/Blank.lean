/-!
# Blank Characters

The characters with the Unicode property `White_Space`, twenty-five of them,
and the trimming of texts by a class of characters.

## Main definitions

* `isBlank`: The property `White_Space`.
* `trimEnd`, `trim`: Remove the characters of a class from the ends of a text.
-/

namespace LogQuery

/-- The Unicode property `White_Space`. -/
def isBlank (c : Char) : Bool :=
  let n := c.toNat
  (0x09 ≤ n && n ≤ 0x0d) || n == 0x20 || n == 0x85 || n == 0xa0 || n == 0x1680 ||
    (0x2000 ≤ n && n ≤ 0x200a) || n == 0x2028 || n == 0x2029 || n == 0x202f ||
    n == 0x205f || n == 0x3000

/-- Removes the characters of a class from the end of a text. -/
def trimEnd (drop : Char → Bool) (cs : List Char) : List Char :=
  (cs.reverse.dropWhile drop).reverse

/-- Removes the characters of a class from both ends of a text. -/
def trim (drop : Char → Bool) (cs : List Char) : List Char :=
  trimEnd drop (cs.dropWhile drop)

end LogQuery
