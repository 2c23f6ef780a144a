import LogQuery.Json.Basic
import LogQuery.Number.Literal
import LogQuery.Yaml.Node

/-!
# YAML as JSON

The JSON value that a YAML document stands for. A plain scalar without a tag
is what it looks like: nothing, a truth value, an integer in one of four
bases, a real, or else a text. A standard tag says what to look for. Keys are
always texts. A tag of the document's own has no meaning in JSON, so a node
with one is refused.

A node stands wherever an alias of it does. Nodes may nest only so deep, and
aliases may be followed only so often, in proportion to the size of the
document; a node inside itself runs into the first limit.

## Main definitions

* `Yaml.plainValue?`: What a plain scalar is.
* `Yaml.parse?`: Reads the only document of a text as JSON.
-/

namespace LogQuery

namespace Yaml

/-! ### Scalars -/

def isNull (text : String) : Bool :=
  text == "null" || text == "Null" || text == "NULL" || text == "~"

def bool? (text : String) : Option Bool :=
  if text = "true" ∨ text = "True" ∨ text = "TRUE" then some true
  else if text = "false" ∨ text = "False" ∨ text = "FALSE" then some false
  else none

/-- Whether digits start with a zero that makes them a text. -/
def isZeroPadded (text : List Char) : Bool :=
  let digits := match text with
    | '-' :: rest | '+' :: rest => rest
    | rest => rest
  match digits with
  | '0' :: d :: rest => (d :: rest).all Char.isDigit
  | _ => false

/-- The number that digits of a base stand for. -/
def digitsIn? (base : Nat) (digits : List Char) : Option Nat :=
  if digits.isEmpty then none
  else digits.foldlM (fun n c => (hexValue? c).bind fun d =>
    if d < base then some (base * n + d) else none) 0

/-- The magnitude of an integer with or without a mark of its base. -/
def magnitude? : List Char → Option Nat
  | '0' :: 'x' :: rest => digitsIn? 16 rest
  | '0' :: 'o' :: rest => digitsIn? 8 rest
  | '0' :: 'b' :: rest => digitsIn? 2 rest
  | digits => digitsIn? 10 digits

/-- The integer that a text stands for. -/
def integer? (text : List Char) : Option Int :=
  if isZeroPadded text then none
  else
    match text with
    | '-' :: rest => (magnitude? rest).map fun n => -Int.ofNat n
    | '+' :: rest => (magnitude? rest).map Int.ofNat
    | rest => (magnitude? rest).map Int.ofNat

/-- Whether an integer has at most 128 bits. One with more is read as a real. -/
def fitsWide (n : Int) : Bool :=
  decide (-0x80000000000000000000000000000000 ≤ n) &&
    decide (n < 0x100000000000000000000000000000000)

/-- The real that a text stands for: `none` inside is one that JSON cannot
    write. -/
def real? (text : String) : Option (Option Binary64) :=
  let unsigned := match text.toList with
    | '-' :: rest | '+' :: rest => String.ofList rest
    | _ => text
  if [".inf", ".Inf", ".INF"].contains unsigned then some none
  else if [".nan", ".NaN", ".NAN"].contains text then some none
  else
    match (RealText.read? text).bind RealText.finite? with
    | some value => some (some value)
    | none => none

/-- The JSON number of a real, or `null`. -/
def realJson : Option Binary64 → Json
  | some value => .number (.real value)
  | none => .null

/-- An integer, unless the text is none. Inside, one of more than 64 bits is
    refused. -/
def integerJson? (text : String) : Option (Option Json) :=
  match integer? text.toList with
  | some n => if fitsWide n then some ((Number.ofInt? n).map .number) else none
  | none => none

/-- What a plain scalar is. -/
def plainValue? (text : String) : Option Json :=
  if text = "" ∨ isNull text then some .null
  else
    match bool? text with
    | some b => some (.bool b)
    | none =>
      match integerJson? text with
      | some json => json
      | none =>
        if isZeroPadded text.toList then some (.string text)
        else
          match real? text with
          | some value => some (realJson value)
          | none => some (.string text)

/-- The tag of a standard type. -/
def standardTag (name : String) : String := "tag:yaml.org,2002:" ++ name

/-- What a scalar with a tag is. -/
def taggedValue? (tag text : String) : Option Json :=
  if tag = standardTag "bool" then (bool? text).map .bool
  else if tag = standardTag "int" then (integerJson? text).join
  else if tag = standardTag "float" then (real? text).map realJson
  else if tag = standardTag "null" then (if isNull text then some .null else none)
  else some (.string text)

/-- Whether a tag is the document's own, be it only the mark that begins one. -/
def isOwnTag (tag : Option String) : Bool := tag.any fun t => t.toList.head? == some '!'

/-! ### Nodes -/

namespace Node

mutual

/-- The nodes with anchors, in the order of the document. -/
def anchored : Node → List (Nat × Node)
  | aliasOf _ => []
  | node@(scalar properties _ _) => (properties.anchor.map fun n => (n, node)).toList
  | node@(sequence properties items) =>
    (properties.anchor.map fun n => (n, node)).toList ++ anchoredItems items
  | node@(mapping properties entries) =>
    (properties.anchor.map fun n => (n, node)).toList ++ anchoredEntries entries

def anchoredItems : List Node → List (Nat × Node)
  | [] => []
  | item :: rest => anchored item ++ anchoredItems rest

def anchoredEntries : List (Node × Node) → List (Nat × Node)
  | [] => []
  | (key, value) :: rest => anchored key ++ anchored value ++ anchoredEntries rest

end

mutual

/-- The size of a node: a collection counts for its start and its end. -/
def size : Node → Nat
  | aliasOf _ | scalar .. => 1
  | sequence _ items => 2 + sizeItems items
  | mapping _ entries => 2 + sizeEntries entries

def sizeItems : List Node → Nat
  | [] => 0
  | item :: rest => size item + sizeItems rest

def sizeEntries : List (Node × Node) → Nat
  | [] => 0
  | (key, value) :: rest => size key + size value + sizeEntries rest

end

end Node

/-- What the aliases of a document stand for, and how often they may be
    followed. -/
structure Anchors where
  /-- The nodes with anchors; of those with the same number the last counts. -/
  nodes : List (Nat × Node)
  limit : Nat

/-- A value and how often aliases have been followed. -/
abbrev Following (α : Type) := Nat → Option (α × Nat)

namespace Anchors

def ofNode (node : Node) : Anchors := ⟨node.anchored.reverse, 100 * node.size⟩

/-- Follows an alias. -/
def follow (anchors : Anchors) (number : Nat) : Following Node := fun followed =>
  if anchors.limit ≤ followed then none
  else (anchors.nodes.lookup number).map fun node => (node, followed + 1)

end Anchors

/-- The text of a key. -/
def keyText (anchors : Anchors) (key : Node) : Following String := fun followed =>
  match key with
  | .scalar _ _ text => some (text, followed)
  | .aliasOf number => do
    match ← anchors.follow number followed with
    | (.scalar _ _ text, followed) => some (text, followed)
    | _ => none
  | _ => none

/-- Applies a reader to the elements of a list in turn. -/
def mapFollowing {α β : Type} (f : α → Following β) : List α → Following (List β)
  | [], followed => some ([], followed)
  | a :: rest, followed => do
    let (b, followed) ← f a followed
    let (bs, followed) ← mapFollowing f rest followed
    some (b :: bs, followed)

/-- The value of a node that may nest `depth` deep. An alias is never followed
    by another one, so the fuel need only be twice the depth. -/
def nodeValue (anchors : Anchors) : Nat → Nat → Node → Following Json
  | 0, _, _ => fun _ => none
  | fuel + 1, depth, node => fun followed =>
    match node with
    | .aliasOf number => do
      let (node, followed) ← anchors.follow number followed
      nodeValue anchors fuel depth node followed
    | .scalar properties plain text =>
      match properties.tag with
      | some tag =>
        if isOwnTag (some tag) then none
        else (taggedValue? tag text).map fun json => (json, followed)
      | none =>
        if plain then (plainValue? text).map fun json => (json, followed)
        else some (.string text, followed)
    | .sequence properties items =>
      if isOwnTag properties.tag || depth == 0 then none
      else do
        let (values, followed) ← mapFollowing (nodeValue anchors fuel (depth - 1)) items followed
        some (.array values, followed)
    | .mapping properties entries =>
      if isOwnTag properties.tag || depth == 0 then none
      else do
        let member := fun (entry : Node × Node) followed => do
          let (key, followed) ← keyText anchors entry.1 followed
          let (value, followed) ← nodeValue anchors fuel (depth - 1) entry.2 followed
          some ((key, value), followed)
        let (members, followed) ← mapFollowing member entries followed
        let members := members.foldl (fun acc entry => setEntry entry.1 entry.2 acc) []
        some (.object members, followed)

/-- How deep collections may nest. -/
def depthLimit : Nat := 128

/-- The JSON value of a document; a document that is missing is nothing. -/
def documentValue? : Option Node → Option Json
  | none => some .null
  | some node =>
    (nodeValue (.ofNode node) (2 * depthLimit + 3) depthLimit node 0).map Prod.fst

/-- Reads the only document of a text as JSON. -/
def parse? (text : String) : Option Json := do
  let tokens ← Token.ofText? text.toList
  documentValue? (← Node.ofTokens? tokens)

end Yaml

end LogQuery
