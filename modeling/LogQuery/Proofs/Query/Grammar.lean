import LogQuery.Proofs.Query.RoundTrip
import Mathlib.Tactic.SplitIfs

/-!
# The Grammar of Queries

Which JSON values denote a query, said without a reader. `DenotesQuery` and the
relations below it are the rules of the language: what keys an object has to
have and may have, which of them have a second name, and what is meant where
one is left out. They speak of no place and of no order in which anything is
looked at, and nothing can go wrong in them; a value that follows no rule
denotes nothing.

The reader does go wrong, and in many places, so what it has to be held against
is stated once for any part of it. `Yields` says of a reading that it either
ends well, with a result that has some property, or rejects its input as an
invalid query. Readings in a row yield what the last of them yields, given what
those before it have found out, and so each part of the reader has one lemma,
which says that it yields what its input denotes. That is one direction of the
main theorem, together with what happens otherwise. The other direction, that
nothing legal is refused, goes along the rules.

An object may have the same key twice in the type of JSON values, though not in
a text that has been read. Where that happens the first member is the one that
counts, and an object with a key and no other has one member.

## Main definitions

* `DenotesExpression`, `DenotesMatch`, `DenotesCondition`: The rules of
  expressions and conditions.
* `DenotesOperation`, `DenotesBranch`, `DenotesOperations`: The rules of
  operations.
* `DenotesQuery`: The rule of queries.
* `QueryReader.Yields`: A reading finds something or rejects the query.

## Theorems

* `yields_bind`: Readings in a row.
* `readExpression_yields`, `readMatch_yields`, `readEitherCondition_yields`,
  `readSet_yields`, `readOperation_yields`: Each part of the reader yields what
  its input denotes.
* `readExpression_of_denotes`, `readMatch_of_denotes`,
  `readEitherCondition_of_denotes`, `readOperation_of_denotes`: Each part of
  the reader accepts what denotes something.
* `ofJson_reads_grammar`: The reader accepts exactly its grammar.
-/

namespace LogQuery

/-! ### The rules -/

/-- An object has no keys but some. -/
def KeysAmong (allowed : List String) (members : List (String × Json)) : Prop :=
  ∀ member ∈ members, member.1 ∈ allowed

/-- A JSON value denotes an expression. It is an object with a single key. -/
inductive DenotesExpression : Json → Expression → Prop where
  | record {body : Json} (empty : body = .object [] ∨ body = .null) :
      DenotesExpression (.object [("record", body)]) .record
  | var {tag name : String} (spelling : tag = "var" ∨ tag = "variable") :
      DenotesExpression (.object [(tag, .string name)]) (.var name)
  | lastVarValue {tag name : String}
      (spelling : tag = "lastVarValue" ∨ tag = "lastVariableValue") :
      DenotesExpression (.object [(tag, .string name)]) (.lastVarValue name)
  | field {name : String} : DenotesExpression (.object [("field", .string name)]) (.field name)
  /-- A string, a number, a truth value or `null` is the form of a value. -/
  | constant {value : Value} :
      DenotesExpression (.object [("constant", value.toJson)]) (.constant value)

/-- A JSON value denotes what is matched against what. Both keys are needed. -/
inductive DenotesMatch : Json → Condition → Prop where
  | intro {members : List (String × Json)} {json : Json} {expression : Expression}
      {pattern : String} (keys : KeysAmong ["expression", "pattern"] members)
      (hasExpression : Json.member? "expression" members = some json)
      (denotes : DenotesExpression json expression)
      (hasPattern : Json.member? "pattern" members = some (.string pattern)) :
      DenotesMatch (.object members) ⟨expression, pattern⟩

/-- The members of an `if` give its condition, in one of two forms. -/
inductive DenotesCondition (members : List (String × Json)) : Condition → Prop where
  | wrapped {json : Json} {condition : Condition}
      (hasCondition : Json.member? "condition" members = some (.object [("match", json)]))
      (noMatch : Json.member? "match" members = none)
      (denotes : DenotesMatch json condition) : DenotesCondition members condition
  | inline {json : Json} {condition : Condition}
      (noCondition : Json.member? "condition" members = none)
      (hasMatch : Json.member? "match" members = some json)
      (denotes : DenotesMatch json condition) : DenotesCondition members condition

/-- What is under the key for the expression of a `set`, if the key is there,
    gives the expression. -/
inductive DenotesSource : Option Json → Expression → Prop where
  | absent : DenotesSource none (.constant (.string ""))
  | present {json : Json} {expression : Expression}
      (denotes : DenotesExpression json expression) : DenotesSource (some json) expression

mutual

/-- A JSON value denotes an operation. It is an object with a single key. -/
inductive DenotesOperation : Json → Operation → Prop where
  | branch {members : List (String × Json)} {condition : Condition}
      {thenOps elseOps : List Operation}
      (keys : KeysAmong ["condition", "match", "then", "else"] members)
      (hasCondition : DenotesCondition members condition)
      (hasThen : DenotesBranch (Json.member? "then" members) thenOps)
      (hasElse : DenotesBranch (Json.member? "else" members) elseOps) :
      DenotesOperation (.object [("if", .object members)]) (.branch condition thenOps elseOps)
  | set {members : List (String × Json)} {target : String} {expression : Expression}
      (keys : KeysAmong ["target", "expression"] members)
      (hasTarget : Json.member? "target" members = some (.string target))
      (hasSource : DenotesSource (Json.member? "expression" members) expression) :
      DenotesOperation (.object [("set", .object members)]) (.set target expression)
  | colorBy {json : Json} {expression : Expression}
      (denotes : DenotesExpression json expression) :
      DenotesOperation (.object [("colorBy", json)]) (.colorBy expression)
  | skipRecord {tag : String} (spelling : tag = "skipRecord" ∨ tag = "skip") :
      DenotesOperation (.object [(tag, .object [])]) .skipRecord

/-- What is under the key of a branch, if the key is there, gives its
    operations. -/
inductive DenotesBranch : Option Json → List Operation → Prop where
  | absent : DenotesBranch none []
  | present {items : List Json} {operations : List Operation}
      (denotes : DenotesOperations items operations) :
      DenotesBranch (some (.array items)) operations

/-- JSON values denote operations, each its own. -/
inductive DenotesOperations : List Json → List Operation → Prop where
  | nil : DenotesOperations [] []
  | cons {item : Json} {rest : List Json} {operation : Operation} {operations : List Operation}
      (head : DenotesOperation item operation) (tail : DenotesOperations rest operations) :
      DenotesOperations (item :: rest) (operation :: operations)

end

/-- A JSON value denotes a query. -/
inductive DenotesQuery : Json → Query → Prop where
  | intro {members : List (String × Json)} {items : List Json} {operations : List Operation}
      (keys : KeysAmong ["operations"] members)
      (hasOperations : Json.member? "operations" members = some (.array items))
      (denotes : DenotesOperations items operations) :
      DenotesQuery (.object members) ⟨operations⟩

namespace QueryReader

/-! ### What a reading yields -/

/-- A reading ends well, with a result that has a property, or it rejects what
    it reads as an invalid query. -/
def Yields {α : Type} (P : α → Prop) (reading : Reading α) : Prop :=
  match reading with
  | .ok a => P a
  | .error e => ∃ place problem, e = .invalidQuery place problem

theorem yields_reject {α : Type} (P : α → Prop) (place : Path) (problem : QueryProblem) :
    Yields P (reject place problem) :=
  ⟨place, problem, rfl⟩

/-- Readings in a row yield what the second yields after the first. -/
theorem yields_bind {α β : Type} {P : α → Prop} {Q : β → Prop} {reading : Reading α}
    {next : α → Reading β} (h : Yields P reading) (hnext : ∀ a, P a → Yields Q (next a)) :
    Yields Q (reading >>= next) := by
  cases reading with
  | error e => exact h
  | ok a => exact hnext a h

theorem yields_mono {α : Type} {P Q : α → Prop} {reading : Reading α} (h : Yields P reading)
    (hPQ : ∀ a, P a → Q a) : Yields Q reading := by
  cases reading with
  | error e => exact h
  | ok a => exact hPQ a h

theorem yields_map {α β : Type} {P : β → Prop} {reading : Reading α} {f : α → β}
    (h : Yields (fun a => P (f a)) reading) : Yields P (reading.map f) := by
  cases reading with
  | error e => exact h
  | ok a => exact h

theorem expectObject_yields (place : Path) (json : Json) :
    Yields (fun members => json = .object members) (expectObject place json) := by
  cases json with
  | object members => exact rfl
  | null | bool _ | number _ | string _ | array _ => exact yields_reject _ _ _

theorem expectString_yields (place : Path) (json : Json) :
    Yields (fun s => json = .string s) (expectString place json) := by
  cases json with
  | string s => exact rfl
  | null | bool _ | number _ | array _ | object _ => exact yields_reject _ _ _

/-- No key is found that is not allowed. -/
theorem find?_eq_none_iff {allowed : List String} {members : List (String × Json)} :
    (members.find? fun member => !allowed.contains member.1) = none ↔
      KeysAmong allowed members := by
  unfold KeysAmong
  simp only [List.find?_eq_none, Bool.not_eq_true', Bool.not_eq_false, List.contains_iff_mem]

theorem checkKeys_yields (place : Path) (allowed : List String)
    (members : List (String × Json)) :
    Yields (fun _ => KeysAmong allowed members) (checkKeys place allowed members) := by
  unfold checkKeys
  cases hfind : members.find? fun member => !allowed.contains member.1 with
  | some member => exact yields_reject _ _ _
  | none => exact find?_eq_none_iff.mp hfind

theorem singleMember_yields (place : Path) (members : List (String × Json)) :
    Yields (fun member => members = [member]) (singleMember place members) := by
  cases members with
  | nil => exact yields_reject _ _ _
  | cons member rest =>
      cases rest with
      | nil => exact rfl
      | cons other rest => exact yields_reject _ _ _

/-- A member that has to be there is there, and yields what can be read of it. -/
theorem require_yields {α : Type} {P : Json → α → Prop} {read : Path → Json → Reading α}
    (hread : ∀ place json, Yields (P json) (read place json)) (place : Path)
    (members : List (String × Json)) (key : String) (missing : QueryProblem) :
    Yields (fun a => ∃ json, Json.member? key members = some json ∧ P json a)
      (require place members key missing read) := by
  unfold require
  cases hmember : Json.member? key members with
  | none => exact yields_reject _ _ _
  | some json => exact yields_mono (hread _ json) fun a ha => ⟨json, rfl, ha⟩

/-- What is read as a name is a string. -/
theorem readName_yields {P : Expression → Prop} {make : String → Expression} {body : Json}
    (h : ∀ name, body = .string name → P (make name)) (place : Path) :
    Yields P (readName place make body) :=
  yields_map (yields_mono (expectString_yields place body) h)

/-! ### Each part yields what its input denotes -/

theorem readExpression_yields (place : Path) (json : Json) :
    Yields (DenotesExpression json) (readExpression place json) := by
  unfold readExpression
  refine yields_bind (expectObject_yields place json) ?_
  rintro members rfl
  refine yields_bind (singleMember_yields place members) ?_
  rintro ⟨tag, body⟩ rfl
  simp only []
  -- One case for each tag. Where a tag has two spellings, so has its rule.
  split_ifs with hrecord hvar hlast hfield hconstant
  · subst hrecord
    split
    · exact .record (.inr rfl)
    · exact .record (.inl rfl)
    · exact yields_reject _ _ _
  · refine readName_yields ?_ _
    rintro name rfl
    exact .var hvar
  · refine readName_yields ?_ _
    rintro name rfl
    exact .lastVarValue hlast
  · subst hfield
    refine readName_yields ?_ _
    rintro name rfl
    exact .field
  · subst hconstant
    cases hvalue : Value.ofJson? body with
    | none => exact yields_reject _ _ _
    | some value =>
        rw [← Value.toJson_of_ofJson? hvalue]
        exact .constant
  · exact yields_reject _ _ _

theorem readMatch_yields (place : Path) (json : Json) :
    Yields (DenotesMatch json) (readMatch place json) := by
  unfold readMatch
  refine yields_bind (expectObject_yields place json) ?_
  rintro members rfl
  refine yields_bind (checkKeys_yields place _ members) fun _ hkeys => ?_
  refine yields_bind (require_yields readExpression_yields place members _ _) ?_
  rintro expression ⟨expressionJson, hexpression, hdenotes⟩
  refine yields_bind (require_yields expectString_yields place members _ _) ?_
  rintro pattern ⟨patternJson, hpattern, rfl⟩
  exact .intro hkeys hexpression hdenotes hpattern

/-- A condition under its own key is wrapped once more. -/
theorem readCondition_yields (place : Path) (json : Json) :
    Yields
      (fun condition => ∃ body, json = .object [("match", body)] ∧ DenotesMatch body condition)
      (readCondition place json) := by
  unfold readCondition
  refine yields_bind (expectObject_yields place json) ?_
  rintro members rfl
  refine yields_bind (singleMember_yields place members) ?_
  rintro ⟨tag, body⟩ rfl
  simp only []
  split_ifs with htag
  · subst htag
    exact yields_mono (readMatch_yields _ body) fun condition h => ⟨body, rfl, h⟩
  · exact yields_reject _ _ _

theorem readEitherCondition_yields (place : Path) (members : List (String × Json)) :
    Yields (DenotesCondition members) (readEitherCondition place members) := by
  unfold readEitherCondition
  cases hcondition : Json.member? "condition" members with
  | none =>
      cases hmatch : Json.member? "match" members with
      | none => exact yields_reject _ _ _
      | some body =>
          exact yields_mono (readMatch_yields _ body) fun _ h => .inline hcondition hmatch h
  | some json =>
      cases hmatch : Json.member? "match" members with
      | some body => exact yields_reject _ _ _
      | none =>
          refine yields_mono (readCondition_yields _ json) ?_
          rintro condition ⟨body, rfl, h⟩
          exact .wrapped hcondition hmatch h

theorem readSet_yields (place : Path) (json : Json) :
    Yields (fun operation => DenotesOperation (.object [("set", json)]) operation)
      (readSet place json) := by
  unfold readSet
  refine yields_bind (expectObject_yields place json) ?_
  rintro members rfl
  refine yields_bind (checkKeys_yields place _ members) fun _ hkeys => ?_
  refine yields_bind (require_yields expectString_yields place members _ _) ?_
  rintro target ⟨targetJson, htarget, rfl⟩
  cases hsource : Json.member? "expression" members with
  | none =>
      have hdenotes :
          DenotesSource (Json.member? "expression" members) (.constant (.string "")) := by
        rw [hsource]
        exact .absent
      exact DenotesOperation.set hkeys htarget hdenotes
  | some json =>
      refine yields_bind (readExpression_yields _ json) fun expression h => ?_
      have hdenotes : DenotesSource (Json.member? "expression" members) expression := by
        rw [hsource]
        exact .present h
      exact DenotesOperation.set hkeys htarget hdenotes

theorem readSkip_yields (place : Path) (json : Json) :
    Yields (fun operation => json = .object [] ∧ operation = .skipRecord)
      (readSkip place json) := by
  unfold readSkip
  refine yields_bind (expectObject_yields place json) ?_
  rintro members rfl
  cases members with
  | nil => exact ⟨rfl, rfl⟩
  | cons member rest => exact yields_reject _ _ _

mutual

/-- The reader takes the parts of a value, so this goes along the value; a
    branch is read from whichever member of an `if` has its key. -/
theorem readOperation_yields (place : Path) :
    ∀ json : Json, Yields (DenotesOperation json) (readOperation place json)
  | .object [(tag, body)] => by
      rw [readOperation]
      split_ifs with hif hset hcolor hskip
      · subst hif
        exact readIf_yields _ body
      · subst hset
        exact readSet_yields _ body
      · subst hcolor
        exact yields_map (yields_mono (readExpression_yields _ body) fun _ h => .colorBy h)
      · refine yields_mono (readSkip_yields _ body) ?_
        rintro operation ⟨rfl, rfl⟩
        exact .skipRecord hskip
      · exact yields_reject _ _ _
  | .object [] => by
      rw [readOperation]
      exact yields_reject _ _ _
  | .object (first :: second :: rest) => by
      rw [readOperation]
      · exact yields_reject _ _ _
      all_goals simp
  | .null | .bool _ | .number _ | .string _ | .array _ => by
      rw [readOperation]
      · exact yields_reject _ _ _
      all_goals simp

theorem readIf_yields (place : Path) :
    ∀ json : Json, Yields (fun operation => DenotesOperation (.object [("if", json)]) operation)
      (readIf place json)
  | .object members => by
      rw [readIf]
      refine yields_bind (checkKeys_yields place _ members) fun _ hkeys => ?_
      refine yields_bind (readEitherCondition_yields place members) fun condition hcondition => ?_
      refine yields_bind (readBranch_yields place "then" members) fun thenOps hthen => ?_
      exact yields_bind (readBranch_yields place "else" members) fun elseOps helse =>
        .branch hkeys hcondition hthen helse
  | .null | .bool _ | .number _ | .string _ | .array _ => by
      rw [readIf]
      · exact yields_reject _ _ _
      all_goals simp

theorem readBranch_yields (place : Path) (key : String) :
    ∀ members : List (String × Json), Yields (DenotesBranch (Json.member? key members))
      (readBranch place key members)
  | [] => by
      rw [readBranch]
      exact DenotesBranch.absent
  | (name, json) :: rest => by
      -- The reader looks for the key itself, as a look-up does.
      rw [readBranch, Json.member?, lookupEntry]
      by_cases hname : name = key
      · rw [if_pos hname, if_pos hname]
        exact readBranchBody_yields (place.child key) json
      · rw [if_neg hname, if_neg hname]
        exact readBranch_yields place key rest

theorem readBranchBody_yields (place : Path) :
    ∀ json : Json, Yields (DenotesBranch (some json)) (readBranchBody place json)
  | .array items => by
      rw [readBranchBody]
      exact yields_mono (readOperations_yields place 0 items) fun _ h => .present h
  | .null | .bool _ | .number _ | .string _ | .object _ => by
      rw [readBranchBody]
      · exact yields_reject _ _ _
      all_goals simp

theorem readOperations_yields (place : Path) (i : Nat) :
    ∀ items : List Json, Yields (DenotesOperations items) (readOperations place i items)
  | [] => by
      rw [readOperations]
      exact DenotesOperations.nil
  | item :: rest => by
      rw [readOperations]
      refine yields_bind (readOperation_yields (place.element i) item) fun operation hhead => ?_
      exact yields_bind (readOperations_yields place (i + 1) rest) fun operations htail =>
        .cons hhead htail

end

/-! ### Each part accepts what denotes something -/

theorem checkKeys_of_among {allowed : List String} {members : List (String × Json)}
    (h : KeysAmong allowed members) (place : Path) : checkKeys place allowed members = .ok () := by
  unfold checkKeys
  rw [find?_eq_none_iff.mpr h]

theorem require_of_member {α : Type} {members : List (String × Json)} {key : String} {json : Json}
    (h : Json.member? key members = some json) (place : Path) (missing : QueryProblem)
    (read : Path → Json → Reading α) :
    require place members key missing read = read (place.child key) json := by
  unfold require
  rw [h]

theorem readExpression_of_denotes {json : Json} {expression : Expression}
    (h : DenotesExpression json expression) (place : Path) :
    readExpression place json = .ok expression := by
  cases h with
  | record empty =>
      rcases empty with rfl | rfl
      · rfl
      · rfl
  | var spelling =>
      rcases spelling with rfl | rfl
      · rfl
      · rfl
  | lastVarValue spelling =>
      rcases spelling with rfl | rfl
      · rfl
      · rfl
  | field => rfl
  | @constant value =>
      -- The form of a value is the form that it is written in.
      exact readExpression_toJson place (.constant value)

theorem readMatch_of_denotes {json : Json} {condition : Condition}
    (h : DenotesMatch json condition) (place : Path) : readMatch place json = .ok condition := by
  cases h with
  | @intro members expressionJson expression pattern keys hasExpression denotes hasPattern =>
      have hparts : readMatch place (.object members) =
          checkKeys place ["expression", "pattern"] members >>= fun _ =>
          require place members "expression" .missingExpression readExpression >>= fun e =>
          require place members "pattern" .missingPattern expectString >>= fun p =>
            .ok ⟨e, p⟩ := rfl
      rw [hparts, checkKeys_of_among keys, require_of_member hasExpression,
        require_of_member hasPattern, readExpression_of_denotes denotes]
      rfl

theorem readEitherCondition_of_denotes {members : List (String × Json)} {condition : Condition}
    (h : DenotesCondition members condition) (place : Path) :
    readEitherCondition place members = .ok condition := by
  unfold readEitherCondition
  cases h with
  | @wrapped json _ hasCondition noMatch denotes =>
      have hparts : readCondition (place.child "condition") (.object [("match", json)]) =
          readMatch ((place.child "condition").child "match") json := rfl
      rw [hasCondition, noMatch]
      exact hparts.trans (readMatch_of_denotes denotes _)
  | inline noCondition hasMatch denotes =>
      rw [noCondition, hasMatch]
      exact readMatch_of_denotes denotes _

theorem readSet_of_denotes {members : List (String × Json)} {target : String}
    {expression : Expression} (hkeys : KeysAmong ["target", "expression"] members)
    (htarget : Json.member? "target" members = some (.string target))
    (hsource : DenotesSource (Json.member? "expression" members) expression) (place : Path) :
    readSet place (.object members) = .ok (.set target expression) := by
  unfold readSet
  simp only [expectObject, bind, Except.bind, checkKeys_of_among hkeys,
    require_of_member htarget, expectString]
  -- What is left is the expression, which may be left out.
  cases hmember : Json.member? "expression" members with
  | none =>
      rw [hmember] at hsource
      cases hsource
      rfl
  | some json =>
      rw [hmember] at hsource
      cases hsource with
      | present denotes => simp only [readExpression_of_denotes denotes]

/-- A branch is read from the member that a look-up finds. -/
theorem readBranch_eq (place : Path) (key : String) (members : List (String × Json)) :
    readBranch place key members =
      match Json.member? key members with
      | none => .ok []
      | some json => readBranchBody (place.child key) json := by
  induction members with
  | nil =>
      rw [readBranch]
      rfl
  | cons member rest ih =>
      rw [readBranch, Json.member?, lookupEntry]
      by_cases hkey : member.1 = key
      · rw [if_pos hkey, if_pos hkey]
      · rw [if_neg hkey, if_neg hkey, ih]
        rfl

mutual

theorem readOperation_of_denotes {json : Json} {operation : Operation} :
    DenotesOperation json operation →
      ∀ place : Path, readOperation place json = .ok operation
  | .branch keys hasCondition hasThen hasElse, place => by
      have hthen := readBranch_of_denotes hasThen (place.child "if") "then" _ rfl
      have helse := readBranch_of_denotes hasElse (place.child "if") "else" _ rfl
      rw [readOperation, if_pos rfl, readIf, checkKeys_of_among keys,
        readEitherCondition_of_denotes hasCondition, hthen, helse]
      rfl
  | .set keys hasTarget hasSource, place => by
      rw [readOperation]
      exact readSet_of_denotes keys hasTarget hasSource _
  | .colorBy denotes, place => by
      rw [readOperation, readExpression_of_denotes denotes]
      rfl
  | .skipRecord spelling, place => by
      rw [readOperation]
      rcases spelling with rfl | rfl
      · rfl
      · rfl

theorem readBranch_of_denotes {found : Option Json} {operations : List Operation} :
    DenotesBranch found operations →
      ∀ (place : Path) (key : String) (members : List (String × Json)),
        Json.member? key members = found → readBranch place key members = .ok operations
  | .absent, place, key, members, hfound => by
      rw [readBranch_eq, hfound]
  | .present denotes, place, key, members, hfound => by
      rw [readBranch_eq, hfound]
      simp only []
      rw [readBranchBody, readOperations_of_denotes denotes]

theorem readOperations_of_denotes {items : List Json} {operations : List Operation} :
    DenotesOperations items operations →
      ∀ (place : Path) (i : Nat), readOperations place i items = .ok operations
  | .nil, place, i => by
      rw [readOperations]
  | .cons head tail, place, i => by
      rw [readOperations, readOperation_of_denotes head, readOperations_of_denotes tail]
      rfl

end

end QueryReader

/-! ### Queries -/

open QueryReader

theorem Query.ofJson_yields (json : Json) : Yields (DenotesQuery json) (Query.ofJson json) := by
  unfold Query.ofJson
  refine yields_bind (expectObject_yields [] json) ?_
  rintro members rfl
  refine yields_bind (checkKeys_yields [] _ members) fun _ hkeys => ?_
  cases hmember : Json.member? "operations" members with
  | none => exact yields_reject _ _ _
  | some found =>
      cases found with
      | array items =>
          exact yields_bind (readOperations_yields _ 0 items) fun operations h =>
            DenotesQuery.intro hkeys hmember h
      | null | bool _ | number _ | string _ | object _ => exact yields_reject _ _ _

theorem Query.ofJson_of_denotes {json : Json} {q : Query} (h : DenotesQuery json q) :
    Query.ofJson json = .ok q := by
  cases h with
  | intro keys hasOperations denotes =>
      unfold Query.ofJson
      simp only [expectObject, bind, Except.bind, checkKeys_of_among keys, hasOperations,
        readOperations_of_denotes denotes]

/-- The reader accepts exactly its grammar. It reads a query from a value if and
    only if the value denotes that query, and what denotes no query it rejects,
    always as an invalid query. -/
theorem ofJson_reads_grammar (json : Json) :
    (∀ q, Query.ofJson json = .ok q ↔ DenotesQuery json q) ∧
      ((¬ ∃ q, DenotesQuery json q) ↔
        ∃ place problem, Query.ofJson json = .error (.invalidQuery place problem)) := by
  have hyields := Query.ofJson_yields json
  refine ⟨fun q => ⟨fun h => ?_, Query.ofJson_of_denotes⟩, fun hnone => ?_, ?_⟩
  · rw [h] at hyields
    exact hyields
  · cases hread : Query.ofJson json with
    | ok q =>
        rw [hread] at hyields
        exact absurd ⟨q, hyields⟩ hnone
    | error e =>
        rw [hread] at hyields
        rcases hyields with ⟨place, problem, rfl⟩
        exact ⟨place, problem, rfl⟩
  · rintro ⟨place, problem, herror⟩ ⟨q, hdenotes⟩
    rw [Query.ofJson_of_denotes hdenotes] at herror
    cases herror

end LogQuery
