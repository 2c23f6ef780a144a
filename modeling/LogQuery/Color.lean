import LogQuery.Bindings

/-!
# Colors of a Terminal

The line output of a record can be colored by its tag. A tag that names a
color gets that color. Any other tag gets the next color of a palette when it
is first seen and keeps it, so that equal tags look alike and neighbours look
different. The empty tag has no color.

## Main definitions

* `Color.named?`: The code of a color by its name.
* `ColorAllocator`: The tags that have got a color of the palette.
* `ColorAllocator.code`: The code of a tag, and the tags known behind it.
* `ColorChoice`: When to color at all.
-/

namespace LogQuery

namespace Color

/-- The sequence that switches a terminal to a color. -/
def escape (number : String) : String := "\x1b[" ++ number ++ "m"

/-- The sequence that switches a terminal back. -/
def reset : String := escape "0"

/-- The colors that have a name. -/
def names : List (String × String) :=
  [("black", "30"), ("red", "31"), ("green", "32"), ("yellow", "33"), ("blue", "34"),
    ("magenta", "35"), ("purple", "35"), ("cyan", "36"), ("white", "37"), ("gray", "90"),
    ("grey", "90")]

/-- The code of a color by its name, in ASCII letters of either case. -/
def named? (tag : String) : Option String :=
  (names.lookup (tag.map Char.toLower)).map escape

/-- The colors of the palette: cyan, yellow, magenta, green, blue and bright
    red. -/
def palette : List String := ["36", "33", "35", "32", "34", "91"]

/-- The code of a color of the palette, which goes around. -/
def paletteCode (i : Nat) : String := escape (palette.getD (i % palette.length) "0")

end Color

/-- The tags that have got a color of the palette. -/
structure ColorAllocator where
  /-- Which color of the palette a tag has got, counted on when the palette goes
      around. -/
  assigned : Bindings Nat
  /-- The color that the next new tag gets. -/
  next : Nat
deriving Inhabited

namespace ColorAllocator

/-- No tag has been seen. -/
def empty : ColorAllocator := ⟨.empty, 0⟩

/-- The code of a tag, and the tags known behind it. -/
def code (a : ColorAllocator) (tag : String) : Option String × ColorAllocator :=
  if tag = "" then (none, a)
  else
    match Color.named? tag with
    | some code => (some code, a)
    | none =>
      match a.assigned.get? tag with
      | some i => (some (Color.paletteCode i), a)
      | none =>
        (some (Color.paletteCode a.next), ⟨a.assigned.set tag a.next, a.next + 1⟩)

end ColorAllocator

/-- When to color. -/
inductive ColorChoice where
  /-- If the output goes to a terminal. -/
  | auto
  | always
  | never
deriving DecidableEq, Repr, Inhabited

/-- Whether to color an output that does or does not go to a terminal. -/
def ColorChoice.resolve (choice : ColorChoice) (terminal : Bool) : Bool :=
  match choice with
  | auto => terminal
  | always => true
  | never => false

end LogQuery
