import LogQuery.Bindings
import LogQuery.Yaml.Token

/-!
# Nodes of a YAML Document

The tree that the tokens of a text describe. A node may carry an anchor, by
which later places can stand for it, and a tag. Aliases are kept in the tree
as the numbers of their anchors.

An anchor gets as its number how many other names are known when it comes up.
A name that is used again gets a new number, so the number of an anchor behind
it may have been given before; then the later node counts everywhere.

The grammar reads one token ahead. Where a node may be missing, an empty plain
scalar takes its place.

## Main definitions

* `Yaml.Node`: A node.
* `Yaml.Node.ofTokens?`: The only document of a text, or none if it is empty.
-/

namespace LogQuery

namespace Yaml

/-- What a node carries besides its content. -/
structure Properties where
  anchor : Option Nat
  tag : Option String

/-- A node of a document. -/
inductive Node where
  | aliasOf (anchor : Nat)
  | scalar (properties : Properties) (plain : Bool) (text : String)
  | sequence (properties : Properties) (items : List Node)
  | mapping (properties : Properties) (entries : List (Node × Node))

namespace Node

/-- What takes the place of a node that is missing. -/
def missing : Node := .scalar ⟨none, none⟩ true ""

instance : Inhabited Node := ⟨missing⟩

/-- The names that are known at a place in a document. -/
structure Names where
  anchors : Bindings Nat
  /-- The expansions of tag handles. -/
  handles : List (String × String)

/-- A part of the grammar: reads something from the tokens that are left. -/
abbrev Grammar (α : Type) := List Token → Names → Option (α × List Token × Names)

/-! ### Properties -/

/-- The whole tag that a handle and a suffix stand for. -/
def expandTag (names : Names) (handle suffix : String) : Option String :=
  if handle = "" then some suffix
  else (names.handles.lookup handle).map (· ++ suffix)

/-- Reads an anchor and a tag, in either order. An anchor counts from here on,
    so the inside of a node may stand for the node. -/
def readProperties : Grammar Properties := fun tokens names => do
  let (anchor, tag, tokens) :=
    match tokens with
    | .anchor name :: .tag handle suffix :: rest => (some name, some (handle, suffix), rest)
    | .tag handle suffix :: .anchor name :: rest => (some name, some (handle, suffix), rest)
    | .anchor name :: rest => (some name, none, rest)
    | .tag handle suffix :: rest => (none, some (handle, suffix), rest)
    | rest => (none, none, rest)
  let tag ← match tag with
    | some (handle, suffix) => (expandTag names handle suffix).map some
    | none => some none
  match anchor with
  | some name =>
    let number := names.anchors.size
    some (⟨some number, tag⟩, tokens, { names with anchors := names.anchors.set name number })
  | none => some (⟨none, tag⟩, tokens, names)

def hasProperties : List Token → Bool
  | .anchor _ :: _ | .tag .. :: _ => true
  | _ => false

/-- A scalar that is written with the single exclamation mark for a tag counts as one
    without. Where nothing is written behind the mark, it is a tag like any other. -/
def makeScalar (properties : Properties) (plain : Bool) (text : String) : Node :=
  if properties.tag = some "!" then .scalar { properties with tag := none } plain text
  else .scalar properties plain text

/-! ### Where a node is missing -/

/-- Whether the token ends an element of a block sequence. -/
def endsEntry : Token → Bool
  | .entry | .blockEnd => true
  | _ => false

/-- Whether the token ends an element of a sequence that is not indented. -/
def endsLooseEntry : Token → Bool
  | .entry | .key | .value | .blockEnd => true
  | _ => false

/-- Whether the token ends a key or a value of a block mapping. -/
def endsMember : Token → Bool
  | .key | .value | .blockEnd => true
  | _ => false

/-- Whether the token ends a value in square brackets. -/
def endsFlowItem : Token → Bool
  | .comma | .flowSequenceEnd => true
  | _ => false

/-- Whether the token ends a value in braces. -/
def endsFlowMember : Token → Bool
  | .comma | .flowMappingEnd => true
  | _ => false

/-- Reads a node unless the next token shows that it is missing. -/
def orMissing (ends : Token → Bool) (read : Grammar Node) : Grammar Node :=
  fun tokens names =>
    if tokens.head?.any ends then some (missing, tokens, names) else read tokens names

/-- Reads a value with its colon, if there is one. -/
def readValue (ends : Token → Bool) (read : Grammar Node) : Grammar Node
  | .value :: rest, names => orMissing ends read rest names
  | tokens, names => some (missing, tokens, names)

/-- Skips the comma before any element but the first. -/
def skipComma (first : Bool) : List Token → Option (List Token)
  | .comma :: rest => if first then some (.comma :: rest) else some rest
  | tokens => if first then some tokens else none

/-! ### Nodes -/

mutual

/-- Reads a node. Blocks are not allowed everywhere; as the value of a member,
    a sequence need not be indented. -/
def read : Nat → (block loose : Bool) → Grammar Node
  | 0, _, _ => fun _ _ => none
  | fuel + 1, block, loose => fun tokens names =>
    match tokens with
    | .aliasOf name :: rest => do some (.aliasOf (← names.anchors.get? name), rest, names)
    | _ => do
      let (properties, rest, names) ← readProperties tokens names
      match rest with
      | .entry :: _ =>
        if loose then do
          let (items, rest, names) ← readLooseEntries fuel rest names
          some (.sequence properties items, rest, names)
        else if hasProperties tokens then some (.scalar properties true "", rest, names)
        else none
      | .scalar plain text :: rest => some (makeScalar properties plain text, rest, names)
      | .flowSequence :: rest => do
        let (items, rest, names) ← readItems fuel true rest names
        some (.sequence properties items, rest, names)
      | .flowMapping :: rest => do
        let (entries, rest, names) ← readMembers fuel true rest names
        some (.mapping properties entries, rest, names)
      | token :: inner =>
        if token = .blockSequence ∧ block then do
          let (items, rest, names) ← readEntries fuel inner names
          some (.sequence properties items, rest, names)
        else if token = .blockMapping ∧ block then do
          let (entries, rest, names) ← readBlockMembers fuel inner names
          some (.mapping properties entries, rest, names)
        else if hasProperties tokens then some (.scalar properties true "", rest, names)
        else none
      | [] => none

/-- Reads the elements of a block sequence. -/
def readEntries : Nat → Grammar (List Node)
  | 0 => fun _ _ => none
  | fuel + 1 => fun tokens names =>
    match tokens with
    | .blockEnd :: rest => some ([], rest, names)
    | .entry :: rest => do
      let (item, rest, names) ← orMissing endsEntry (read fuel true false) rest names
      let (items, rest, names) ← readEntries fuel rest names
      some (item :: items, rest, names)
    | _ => none

/-- Reads the elements of a sequence that is not indented. -/
def readLooseEntries : Nat → Grammar (List Node)
  | 0 => fun _ _ => none
  | fuel + 1 => fun tokens names =>
    match tokens with
    | .entry :: rest => do
      let (item, rest, names) ← orMissing endsLooseEntry (read fuel true false) rest names
      let (items, rest, names) ← readLooseEntries fuel rest names
      some (item :: items, rest, names)
    | _ => some ([], tokens, names)

/-- Reads the members of a block mapping. -/
def readBlockMembers : Nat → Grammar (List (Node × Node))
  | 0 => fun _ _ => none
  | fuel + 1 => fun tokens names =>
    match tokens with
    | .blockEnd :: rest => some ([], rest, names)
    | .key :: rest => do
      let (key, rest, names) ← orMissing endsMember (read fuel true true) rest names
      let (value, rest, names) ← readValue endsMember (read fuel true true) rest names
      let (members, rest, names) ← readBlockMembers fuel rest names
      some ((key, value) :: members, rest, names)
    | _ => none

/-- Reads the elements in square brackets. An element may be a single member
    of a mapping. -/
def readItems : Nat → Bool → Grammar (List Node)
  | 0, _ => fun _ _ => none
  | fuel + 1, first => fun tokens names =>
    match tokens with
    | .flowSequenceEnd :: rest => some ([], rest, names)
    | _ => do
      match ← skipComma first tokens with
      | .flowSequenceEnd :: rest => some ([], rest, names)
      | .key :: rest => do
        let (key, rest, names) ← readItemKey fuel rest names
        let (value, rest, names) ← readValue endsFlowItem (read fuel false false) rest names
        let (items, rest, names) ← readItems fuel false rest names
        some (.mapping ⟨none, none⟩ [(key, value)] :: items, rest, names)
      | tokens => do
        let (item, rest, names) ← read fuel false false tokens names
        let (items, rest, names) ← readItems fuel false rest names
        some (item :: items, rest, names)

/-- Reads the key of a member in square brackets. In the place of a missing
    key a token is lost. -/
def readItemKey : Nat → Grammar Node
  | 0 => fun _ _ => none
  | fuel + 1 => fun tokens names =>
    match tokens with
    | .value :: rest | .comma :: rest | .flowSequenceEnd :: rest => some (missing, rest, names)
    | _ => read fuel false false tokens names

/-- Reads the members in braces. A key need not be marked as one, and then it
    has no value. -/
def readMembers : Nat → Bool → Grammar (List (Node × Node))
  | 0, _ => fun _ _ => none
  | fuel + 1, first => fun tokens names =>
    match tokens with
    | .flowMappingEnd :: rest => some ([], rest, names)
    | _ => do
      match ← skipComma first tokens with
      | .flowMappingEnd :: rest => some ([], rest, names)
      | .key :: rest => do
        let endsKey := fun token => token = .value || endsFlowMember token
        let (key, rest, names) ← orMissing endsKey (read fuel false false) rest names
        let (value, rest, names) ← readValue endsFlowMember (read fuel false false) rest names
        let (members, rest, names) ← readMembers fuel false rest names
        some ((key, value) :: members, rest, names)
      | tokens => do
        let (key, rest, names) ← read fuel false false tokens names
        let (members, rest, names) ← readMembers fuel false rest names
        some ((key, missing) :: members, rest, names)

end

/-! ### Documents -/

/-- The handles that need no directive. -/
def standardHandles : List (String × String) := [("!", "!"), ("!!", "tag:yaml.org,2002:")]

/-- Reads the directives before a document. Of each kind of thing at most one
    may be said. -/
def readDirectives (versioned : Bool) (handles : List (String × String)) :
    List Token → Option (List (String × String) × List Token)
  | .version major minor :: rest =>
    if versioned ∨ major ≠ 1 ∨ (minor ≠ 1 ∧ minor ≠ 2) then none
    else readDirectives true handles rest
  | .tagHandle handle expansion :: rest =>
    if (handles.lookup handle).isSome then none
    else readDirectives versioned (handles ++ [(handle, expansion)]) rest
  | tokens => some (handles ++ standardHandles, tokens)

def startsDirective : List Token → Bool
  | .version .. :: _ | .tagHandle .. :: _ => true
  | _ => false

/-- Whether the tokens start with one that ends a document. -/
def atDocumentEnd (tokens : List Token) : Bool :=
  startsDirective tokens ||
    (match tokens with
      | .documentStart :: _ | .documentEnd :: _ | .streamEnd :: _ => true
      | _ => false)

/-- Reads the content of a document whose start is marked, or of one whose
    start is not. -/
def readDocument : List Token → Option (Node × List Token) := fun tokens => do
  let marked := startsDirective tokens || tokens.head? == some .documentStart
  let fuel := 4 * tokens.length + 4
  let (node, rest, _) ←
    if marked then
      match ← readDirectives false [] tokens with
      | (handles, .documentStart :: rest) =>
        if atDocumentEnd rest then some (missing, rest, ⟨.empty, []⟩)
        else read fuel true false rest ⟨.empty, handles⟩
      | _ => none
    else read fuel true false tokens ⟨.empty, standardHandles⟩
  some (node, rest)

/-- The document of a text, if it has exactly one; the text may also have
    none. -/
def ofTokens? (tokens : List Token) : Option (Option Node) :=
  match tokens with
  | [.streamEnd] => some none
  | _ => do
    let (node, rest) ← readDocument tokens
    match rest.dropWhile (· == .documentEnd) with
    | [.streamEnd] => some (some node)
    | _ => none

end Node

end Yaml

end LogQuery
