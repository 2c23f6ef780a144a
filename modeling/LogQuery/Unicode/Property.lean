import LogQuery.Unicode.CategoryData
import LogQuery.Unicode.ScriptData
import LogQuery.Unicode.ScriptExtensionData
import LogQuery.Unicode.BinaryData
import LogQuery.Unicode.AgeData
import LogQuery.Unicode.BreakData
import LogQuery.Unicode.FoldData

/-!
# Properties of Characters

Properties are found by name. Names are compared loosely: blanks, hyphens,
underscores, case and a leading `is` do not count, and neither does anything
outside ASCII. A bare name is looked for among the binary properties, the
general categories and the scripts, in that order; a name with a value asks
for one of the properties whose values are named. The age of a character is
the version that assigned it, and asking for an age means that version or an
older one.

A property is kept as a union of tables, because some categories are groups
of others.

## Main definitions

* `Unicode.Property`: A set of characters as a union of range tables.
* `Unicode.Property.find?`: The property with a given name.
* `Unicode.Property.findValue?`: The property with a given name and value.
* `Unicode.isWord`: The characters of words.
* `Unicode.foldSet`: The characters that fold to the same one.
-/

namespace LogQuery

namespace Unicode

/-- A set of characters: those in any of the tables, or all others. -/
structure Property where
  tables : List Ranges
  complement : Bool
deriving DecidableEq

namespace Property

def contains (p : Property) (n : Nat) : Bool :=
  p.tables.any (fun table => table.contains n) != p.complement

/-- A property that one table gives. -/
def ofRanges (ranges : Ranges) : Property := ⟨[ranges], false⟩

/-- Makes names comparable. A leading `is` is dropped, but `isc` is a name of
    its own. -/
def looseName (name : String) : String :=
  let lower := name.toList.map Char.toLower
  let (cut, cs) :=
    match lower with
    | 'i' :: 's' :: rest => (true, rest)
    | _ => (false, lower)
  let kept := cs.filter fun c => c.toNat < 0x80 && c != ' ' && c != '_' && c != '-'
  if cut && kept == ['c'] then "isc" else String.ofList kept

/-- The categories that are groups of others. -/
def categoryGroups : List (List String × List String) :=
  [(["l", "letter"], ["lu", "ll", "lt", "lm", "lo"]),
   (["lc", "casedletter"], ["lu", "ll", "lt"]),
   (["m", "mark", "combiningmark"], ["mn", "mc", "me"]),
   (["n", "number"], ["nd", "nl", "no"]),
   (["p", "punctuation", "punct"], ["pc", "pd", "ps", "pe", "pi", "pf", "po"]),
   (["s", "symbol"], ["sm", "sc", "sk", "so"]),
   (["z", "separator"], ["zs", "zl", "zp"]),
   (["c", "other"], ["cc", "cf", "cs", "co", "cn"])]

/-- The general category with a loose name. -/
def category? (name : String) : Option Property :=
  if name = "any" then some ⟨[], true⟩
  else if name = "ascii" then some (ofRanges [(0, 0x7f)])
  else if name = "assigned" then
    (findTable "cn" categoryTables).map fun ranges => ⟨[ranges], true⟩
  else
    match categoryGroups.find? fun group => group.1.contains name with
    | some group => some ⟨group.2.filterMap (findTable · categoryTables), false⟩
    | none => (findTable name categoryTables).map ofRanges

/-- The script with a loose name. -/
def script? (name : String) : Option Property :=
  (findTable name scriptTables).map ofRanges

/-- The property with a bare name. -/
def find? (name : String) : Option Property :=
  let name := looseName name
  match findTable name binaryTables with
  | some ranges => some (ofRanges ranges)
  | none => category? name <|> script? name

/-- The characters of a version and of those before it. -/
def age? (name : String) : Option Property :=
  (ageTables.findIdx? fun table => table.names.contains name).map fun i =>
    ⟨(ageTables.take (i + 1)).map fun table => .ofText table.text, false⟩

/-- The tables of the properties whose values are plain tables. -/
def valueTables? (name : String) : Option (List PropertyTable) :=
  if name = "scx" ∨ name = "scriptextensions" then some scriptExtensionTables
  else if name = "gcb" ∨ name = "graphemeclusterbreak" then some signBreakTables
  else if name = "wb" ∨ name = "wordbreak" then some wordBreakTables
  else if name = "sb" ∨ name = "sentencebreak" then some sentenceBreakTables
  else none

/-- The property with a name and a value. -/
def findValue? (name value : String) : Option Property :=
  let name := looseName name
  let value := looseName value
  if name = "gc" ∨ name = "generalcategory" then category? value
  else if name = "sc" ∨ name = "script" then script? value
  else if name = "age" then age? value
  else do some (ofRanges (← findTable value (← valueTables? name)))

end Property

/-- The ranges of a category or binary property that the library itself uses. -/
def knownRanges (tables : List PropertyTable) (name : String) : Ranges :=
  (findTable name tables).getD []

/-- The decimal digits. -/
def digitRanges : Ranges := knownRanges categoryTables "nd"

/-- The characters of words: letters, marks, decimal digits, connectors and
    the two joiners. -/
def wordTables : List Ranges :=
  [knownRanges binaryTables "alphabetic", digitRanges, knownRanges categoryTables "mn",
   knownRanges categoryTables "mc", knownRanges categoryTables "me",
   knownRanges categoryTables "pc", knownRanges binaryTables "joinc"]

/-- Whether a character is one that words are made of. -/
def isWord (c : Char) : Bool :=
  if c.toNat < 0x80 then c.isAlphanum || c == '_'
  else wordTables.any fun table => table.contains c.toNat

/-- The characters that extend the one before them to a single sign. -/
def graphemeExtendRanges : Ranges := knownRanges binaryTables "graphemeextend"

/-- The categories whose characters have no visible form: controls, formats,
    surrogates, private use, unassigned, and all separators but the space. -/
def invisibleTables : List Ranges :=
  ["cc", "cf", "cs", "co", "cn", "zs", "zl", "zp"].map (knownRanges categoryTables)

/-- Whether a character is shown as itself. -/
def isVisible (c : Char) : Bool :=
  c == ' ' || !invisibleTables.any fun table => table.contains c.toNat

/-- The letters, by the property `Alphabetic`. -/
def isAlphabetic (c : Char) : Bool :=
  if c.toNat < 0x80 then c.isAlpha
  else (knownRanges binaryTables "alphabetic").contains c.toNat

/-- The digits and other numbers, by the general category. -/
def isNumeric (c : Char) : Bool :=
  if c.toNat < 0x80 then c.isDigit
  else ["nd", "nl", "no"].any fun name => (knownRanges categoryTables name).contains c.toNat

/-- The sets of characters that fold to one another. -/
def foldSets : List (List Nat) :=
  (entries foldText).map fun set => (set.splitOn ".").map fun code => hexNumber code.toList

/-- The characters that simple case folding does not tell apart from a given
    one, itself included. -/
def foldSet (n : Nat) : List Nat :=
  if n < 0x80 ∧ ¬ (Char.ofNat n).isAlpha then [n]
  else (foldSets.find? fun set => set.contains n).getD [n]

end Unicode

end LogQuery
