import LogQuery.Proofs.Json.Places
import LogQuery.Proofs.LazyRun
import LogQuery.Proofs.Query.PathText
import LogQuery.Query.Writer

/-!
# What Compilation Checks

A query compiles if and only if every operation in it, at every depth, names
something where it needs a name and has a regular expression for its pattern.
Where one does not, compilation says which: the path of its error leads through
the JSON form of the query to the faulty string, and no faulty string is written
before that one.

The checks and the written form know nothing of each other. What they share is
the order in which they go through an operation, and the steps that they add to
the path at hand. So the statement to be carried along is about a check and a
list of strings: a check `Searches` strings if it either succeeds and none of
them is faulty, or fails at the first that is. One check after another searches
one list after the other (`searches_bind`), and then every part of the compiler
has one lemma, which says that it searches the strings of the part that is
written.

That no string is faulty is still a statement about the written form. It becomes
one about the operations in `faultless_iff`, where the path of a string tells
what the string is there for. A constant may be empty, a name may not, and only
the key above them tells the two apart.

An error shows its path as text. No key of the grammar has a point or a bracket
in it, so the text leads to the same string as the path (`Operation.plainPaths`).

## Main definitions

* `Operation.Occurs`: An operation is in a list at some depth.
* `Operation.Sound`, `Query.Valid`: What has to hold of an operation and of a
  query.
* `IsFaulty`, `Faultless`: A string of a written query is one that no query may
  have there, and none of them is.
* `PlainPaths`: The keys that lead to some strings are words.
* `QueryError.Blames`: What an error says of the string it is about.
* `Searches`: A check that fails at the first faulty string.

## Theorems

* `forall_occurs_cons_iff`, `forall_occurs_branch_iff`, `forall_occurs_leaf_iff`: What
  holds of all operations at every depth, operation by operation.
* `strings_branch`, `strings_set`, `strings_colorBy`: The strings of a written
  operation, in order.
* `Operation.plainPaths`, `Query.plainPaths`: No key of a written query can be
  mistaken in a path.
* `Operation.faultless_iff`, `faultless_list_iff`: The strings of operations are
  faultless where the operations are sound.
* `searches_bind`: Checks in a row.
* `Expression.check_searches`, `Condition.compile_searches`,
  `Operation.compile_searches`, `compileList_searches`: Each part of the compiler
  searches what is written of its part of the query.
* `Query.toJson_distinct`: Nothing is written with the same key twice.
* `Query.compile_isOk_iff`: A query compiles where it is valid.
* `Query.run_eq_error_iff`: A run fails where its query does not compile.
* `compile_finds_first_fault`: Validation is exact and names the first fault.
-/

namespace LogQuery

/-! ### Valid queries -/

/-- An operation is in a list, or in a branch of an operation in it, at any
    depth. -/
inductive Operation.Occurs (op : Operation) : List Operation → Prop where
  | head {rest : List Operation} : Occurs op (op :: rest)
  | tail {other : Operation} {rest : List Operation} (h : Occurs op rest) :
      Occurs op (other :: rest)
  | inThen {condition : Condition} {thenOps elseOps rest : List Operation}
      (h : Occurs op thenOps) : Occurs op (.branch condition thenOps elseOps :: rest)
  | inElse {condition : Condition} {thenOps elseOps rest : List Operation}
      (h : Occurs op elseOps) : Occurs op (.branch condition thenOps elseOps :: rest)

/-- An expression does not look up the empty name. -/
def Expression.Sound (e : Expression) : Prop := ∀ name, e.name? = some name → name ≠ ""

/-- An operation names something where it needs a name, and its pattern is a
    regular expression. This says nothing of the operations in its branches. -/
def Operation.Sound : Operation → Prop
  | branch condition _ _ =>
    condition.expression.Sound ∧ (Pattern.compile? condition.pattern).isSome
  | set target expression => target ≠ "" ∧ expression.Sound
  | colorBy expression => expression.Sound
  | skipRecord => True

/-- Every operation among some, at every depth, is sound. -/
def Operation.AllSound (ops : List Operation) : Prop :=
  ∀ op : Operation, op.Occurs ops → op.Sound

/-- Every operation of a query, at every depth, is sound. -/
def Query.Valid (q : Query) : Prop := Operation.AllSound q.operations

namespace Expression

theorem sound_iff {e : Expression} {name : String} (h : e.name? = some name) :
    e.Sound ↔ name ≠ "" := by
  unfold Sound
  simp only [h, Option.some.injEq, forall_eq']

theorem sound_of_no_name {e : Expression} (h : e.name? = none) : e.Sound := by
  intro name hname
  rw [h] at hname
  cases hname

end Expression

namespace Operation

/-- What holds of every operation among some holds of those at the head and of those
    behind it. -/
theorem forall_occurs_cons_iff {P : Operation → Prop} {op : Operation} {rest : List Operation} :
    (∀ inner, Occurs inner (op :: rest) → P inner) ↔
      (∀ inner, Occurs inner [op] → P inner) ∧ ∀ inner, Occurs inner rest → P inner := by
  constructor
  · intro h
    refine ⟨fun inner hinner => h inner ?_, fun inner hinner => h inner (.tail hinner)⟩
    cases hinner with
    | head => exact .head
    | tail hnone => cases hnone
    | inThen hthen => exact .inThen hthen
    | inElse helse => exact .inElse helse
  · rintro ⟨hop, hrest⟩ inner hinner
    cases hinner with
    | head => exact hop op .head
    | tail htail => exact hrest inner htail
    | inThen hthen => exact hop inner (.inThen hthen)
    | inElse helse => exact hop inner (.inElse helse)

/-- What holds of every operation in an `if` holds of the `if` itself and of those in
    its branches. -/
theorem forall_occurs_branch_iff {P : Operation → Prop} {condition : Condition}
    {thenOps elseOps : List Operation} :
    (∀ inner, Occurs inner [branch condition thenOps elseOps] → P inner) ↔
      P (branch condition thenOps elseOps) ∧ (∀ inner, Occurs inner thenOps → P inner) ∧
        ∀ inner, Occurs inner elseOps → P inner := by
  constructor
  · intro h
    exact ⟨h _ .head, fun inner hinner => h inner (.inThen hinner),
      fun inner hinner => h inner (.inElse hinner)⟩
  · rintro ⟨hop, hthen, helse⟩ inner hinner
    cases hinner with
    | head => exact hop
    | tail hnone => cases hnone
    | inThen h => exact hthen inner h
    | inElse h => exact helse inner h

/-- An operation that has no branches is all that occurs in a list of it. -/
theorem forall_occurs_leaf_iff {P : Operation → Prop} (op : Operation)
    (h : ∀ condition thenOps elseOps, op ≠ branch condition thenOps elseOps) :
    (∀ inner, Occurs inner [op] → P inner) ↔ P op := by
  constructor
  · intro hall
    exact hall op .head
  · intro hop inner hinner
    cases hinner with
    | head => exact hop
    | tail hnone => cases hnone
    | inThen _ => exact absurd rfl (h _ _ _)
    | inElse _ => exact absurd rfl (h _ _ _)

theorem allSound_nil : AllSound [] := nofun

theorem allSound_cons_iff {op : Operation} {rest : List Operation} :
    AllSound (op :: rest) ↔ AllSound [op] ∧ AllSound rest :=
  forall_occurs_cons_iff

theorem allSound_branch_iff {condition : Condition} {thenOps elseOps : List Operation} :
    AllSound [branch condition thenOps elseOps] ↔
      (branch condition thenOps elseOps).Sound ∧ AllSound thenOps ∧ AllSound elseOps :=
  forall_occurs_branch_iff

theorem allSound_leaf_iff (op : Operation)
    (h : ∀ condition thenOps elseOps, op ≠ branch condition thenOps elseOps) :
    AllSound [op] ↔ op.Sound :=
  forall_occurs_leaf_iff op h

end Operation

/-! ### Faulty strings -/

/-- The keys under which the written form has a name. -/
def nameKeys : List String := ["target", "var", "lastVarValue", "field"]

/-- A string of a written query is the empty string in the place of a name, or
    no regular expression in the place of a pattern. -/
def IsFaulty (entry : Path × String) : Prop :=
  (∃ key ∈ nameKeys, entry.1.getLast? = some (.key key)) ∧ entry.2 = "" ∨
    entry.1.getLast? = some (.key "pattern") ∧ Pattern.compile? entry.2 = none

/-- No string among some is faulty. -/
def Faultless (entries : List (Path × String)) : Prop := ∀ entry ∈ entries, ¬ IsFaulty entry

theorem isFaulty_child_iff (path : Path) (key s : String) :
    IsFaulty (path.child key, s) ↔
      key ∈ nameKeys ∧ s = "" ∨ key = "pattern" ∧ Pattern.compile? s = none := by
  unfold IsFaulty Path.child
  simp only [List.getLast?_concat, Option.some.injEq, Segment.key.injEq, exists_eq_right']

theorem faultless_nil : Faultless [] := by
  intro entry hentry
  cases hentry

theorem faultless_append_iff (xs ys : List (Path × String)) :
    Faultless (xs ++ ys) ↔ Faultless xs ∧ Faultless ys :=
  List.forall_mem_append

theorem faultless_name_iff {key : String} (hkey : key ∈ nameKeys) (path : Path) (name : String) :
    Faultless [(path.child key, name)] ↔ name ≠ "" := by
  unfold Faultless
  rw [List.forall_mem_singleton, isFaulty_child_iff]
  have hpattern : key ≠ "pattern" := by
    rintro rfl
    exact absurd hkey (by decide)
  simp only [hkey, hpattern, true_and, false_and, or_false, ne_eq]

theorem faultless_pattern_iff (path : Path) (pattern : String) :
    Faultless [(path.child "pattern", pattern)] ↔ (Pattern.compile? pattern).isSome := by
  unfold Faultless
  rw [List.forall_mem_singleton, isFaulty_child_iff]
  have hkey : "pattern" ∉ nameKeys := by decide
  simp only [hkey, false_and, true_and, false_or, Option.isSome_iff_ne_none, ne_eq]

/-- A constant is written as a string or as something without a string, and in
    either case under a key that is neither that of a name nor that of a
    pattern. -/
theorem faultless_constant (path : Path) (value : Value) :
    Faultless (Json.strings path (Expression.constant value).toJson) := by
  cases value with
  | string s =>
      have hstrings : Json.strings path (Expression.constant (.string s)).toJson =
          [(path.child "constant", s)] := rfl
      unfold Faultless
      rw [hstrings, List.forall_mem_singleton, isFaulty_child_iff]
      have hname : "constant" ∉ nameKeys := by decide
      have hpattern : "constant" ≠ "pattern" := by decide
      simp only [hname, hpattern, false_and, or_self, not_false_eq_true]
  | absent | boolean _ | number _ => exact faultless_nil

/-! ### The strings of a written query -/

/-- An expression that looks up a name is written with the name under its tag,
    which is the key of a name. -/
theorem Expression.strings_toJson {e : Expression} {name : String} (h : e.name? = some name)
    (path : Path) :
    Json.strings path e.toJson = [(path.child e.tag, name)] ∧ e.tag ∈ nameKeys := by
  cases e with
  | record => cases h
  | constant value => cases h
  | var _ | lastVarValue _ | field _ =>
      cases h
      exact ⟨rfl, by simp only [Expression.tag]; decide⟩

/-- An expression that looks up no name has nothing faulty in its form. -/
theorem Expression.faultless_of_no_name {e : Expression} (h : e.name? = none) (path : Path) :
    Faultless (Json.strings path e.toJson) := by
  cases e with
  | record => exact faultless_nil
  | constant value => exact faultless_constant path value
  | var _ | lastVarValue _ | field _ => cases h

theorem Condition.strings_toJson (path : Path) (c : Condition) :
    Json.strings path c.toJson =
      Json.strings ((path.child "match").child "expression") c.expression.toJson ++
        [((path.child "match").child "pattern", c.pattern)] := by
  simp only [Condition.toJson, Json.strings, Json.memberStrings, List.append_nil]

namespace Operation

theorem strings_branch (path : Path) (condition : Condition) (thenOps elseOps : List Operation) :
    Json.strings path (branch condition thenOps elseOps).toJson =
      Json.strings ((path.child "if").child "condition") condition.toJson ++
      (Json.itemStrings ((path.child "if").child "then") 0 (listToJson thenOps) ++
      Json.itemStrings ((path.child "if").child "else") 0 (listToJson elseOps)) := by
  simp only [toJson, Json.strings, Json.memberStrings, List.append_nil]

theorem strings_set (path : Path) (target : String) (expression : Expression) :
    Json.strings path (set target expression).toJson =
      [((path.child "set").child "target", target)] ++
      Json.strings ((path.child "set").child "expression") expression.toJson := by
  simp only [toJson, Json.strings, Json.memberStrings, List.append_nil]

theorem strings_colorBy (path : Path) (expression : Expression) :
    Json.strings path (colorBy expression).toJson =
      Json.strings (path.child "colorBy") expression.toJson := by
  simp only [toJson, Json.strings, Json.memberStrings, List.append_nil]

theorem strings_skipRecord (path : Path) : Json.strings path skipRecord.toJson = [] := by
  simp only [toJson, Json.strings, Json.memberStrings, List.append_nil]

end Operation

/-! ### The keys of a written query -/

/-- Every key on the way to one of the strings is a word. -/
def PlainPaths (entries : List (Path × String)) : Prop := ∀ entry ∈ entries, entry.1.Plain

theorem plainPaths_nil : PlainPaths [] := by
  intro entry hentry
  cases hentry

theorem plainPaths_singleton {path : Path} (h : path.Plain) (s : String) :
    PlainPaths [(path, s)] := by
  intro entry hentry
  rw [List.mem_singleton.mp hentry]
  exact h

theorem PlainPaths.append {xs ys : List (Path × String)} (hxs : PlainPaths xs)
    (hys : PlainPaths ys) : PlainPaths (xs ++ ys) :=
  List.forall_mem_append.mpr ⟨hxs, hys⟩

theorem Expression.plainKey_tag (e : Expression) : Path.PlainKey e.tag := by
  cases e <;> rw [tag] <;> decide

theorem Expression.plainPaths {path : Path} (h : path.Plain) (e : Expression) :
    PlainPaths (Json.strings path e.toJson) := by
  cases e with
  | record => exact plainPaths_nil
  | constant value =>
      cases value with
      | string s => exact plainPaths_singleton (h.child (plainKey_tag _)) s
      | absent | boolean _ | number _ => exact plainPaths_nil
  | var name | lastVarValue name | field name =>
      exact plainPaths_singleton (h.child (plainKey_tag _)) name

theorem Condition.plainPaths {path : Path} (h : path.Plain) (c : Condition) :
    PlainPaths (Json.strings path c.toJson) := by
  have hmatch := h.child (show Path.PlainKey "match" by decide)
  rw [Condition.strings_toJson]
  exact (Expression.plainPaths (hmatch.child (by decide)) c.expression).append
    (plainPaths_singleton (hmatch.child (by decide)) c.pattern)

namespace Operation

mutual

/-- The keys that lead to the strings of an operation are those of the grammar, and
    each of them is a word. -/
theorem plainPaths {path : Path} (h : path.Plain) :
    ∀ op : Operation, PlainPaths (Json.strings path op.toJson)
  | branch condition thenOps elseOps => by
      have hif := h.child (show Path.PlainKey "if" by decide)
      rw [strings_branch]
      exact (Condition.plainPaths (hif.child (by decide)) condition).append
        ((plainPaths_list (hif.child (by decide)) 0 thenOps).append
          (plainPaths_list (hif.child (by decide)) 0 elseOps))
  | set target expression => by
      have hset := h.child (show Path.PlainKey "set" by decide)
      rw [strings_set]
      exact (plainPaths_singleton (hset.child (by decide)) target).append
        (Expression.plainPaths (hset.child (by decide)) expression)
  | colorBy expression => by
      rw [strings_colorBy]
      exact Expression.plainPaths (h.child (by decide)) expression
  | skipRecord => by
      rw [strings_skipRecord]
      exact plainPaths_nil

theorem plainPaths_list {path : Path} (h : path.Plain) (i : Nat) :
    ∀ ops : List Operation, PlainPaths (Json.itemStrings path i (listToJson ops))
  | [] => by
      rw [listToJson, Json.itemStrings]
      exact plainPaths_nil
  | op :: rest => by
      rw [listToJson, Json.itemStrings]
      exact (plainPaths (h.element i) op).append (plainPaths_list h (i + 1) rest)

end

end Operation

/-! ### A written query is faultless where the query is valid -/

theorem Expression.faultless_iff (path : Path) (e : Expression) :
    Faultless (Json.strings path e.toJson) ↔ e.Sound := by
  cases hname : e.name? with
  | none => exact iff_of_true (faultless_of_no_name hname path) (sound_of_no_name hname)
  | some name =>
      rcases strings_toJson hname path with ⟨hstrings, htag⟩
      rw [hstrings, faultless_name_iff htag, sound_iff hname]

namespace Operation

mutual

theorem faultless_iff (path : Path) :
    ∀ op : Operation, Faultless (Json.strings path op.toJson) ↔ AllSound [op]
  | branch condition thenOps elseOps => by
      rw [strings_branch, Condition.strings_toJson, faultless_append_iff, faultless_append_iff,
        faultless_append_iff, Expression.faultless_iff, faultless_pattern_iff,
        faultless_list_iff _ 0 thenOps, faultless_list_iff _ 0 elseOps, allSound_branch_iff]
      rfl
  | set target expression => by
      rw [strings_set, faultless_append_iff, faultless_name_iff (by decide),
        Expression.faultless_iff,
        allSound_leaf_iff (set target expression) fun _ _ _ h => by cases h]
      rfl
  | colorBy expression => by
      rw [strings_colorBy, Expression.faultless_iff,
        allSound_leaf_iff (colorBy expression) fun _ _ _ h => by cases h]
      rfl
  | skipRecord => by
      rw [strings_skipRecord, allSound_leaf_iff skipRecord fun _ _ _ h => by cases h]
      exact iff_of_true faultless_nil trivial

theorem faultless_list_iff (path : Path) (i : Nat) :
    ∀ ops : List Operation, Faultless (Json.itemStrings path i (listToJson ops)) ↔ AllSound ops
  | [] => by
      rw [listToJson, Json.itemStrings]
      exact iff_of_true faultless_nil allSound_nil
  | op :: rest => by
      rw [listToJson, Json.itemStrings, faultless_append_iff, faultless_iff (path.element i) op,
        faultless_list_iff path (i + 1) rest, ← allSound_cons_iff]

end

end Operation

/-! ### Searching for the first fault -/

/-- What an error says of the string that its path leads to. -/
def QueryError.Blames (e : QueryError) (s : String) : Prop :=
  match e with
  | invalidQuery _ _ => s = ""
  | invalidPattern _ pattern => s = pattern ∧ Pattern.compile? pattern = none

/-- The path of an error leads to the first faulty string among some, and the
    error is about what is wrong with it. -/
def QueryError.IsFirst (e : QueryError) (entries : List (Path × String)) : Prop :=
  ∃ before s after, entries = before ++ (e.path, s) :: after ∧
    Faultless before ∧ IsFaulty (e.path, s) ∧ e.Blames s

/-- A check succeeds if no string among some is faulty, and otherwise fails at
    the first that is. -/
def Searches {α : Type} (check : Except QueryError α) (entries : List (Path × String)) : Prop :=
  match check with
  | .ok _ => Faultless entries
  | .error e => e.IsFirst entries

/-- A check that is followed by another searches first what the one searches and
    then what the other does. -/
theorem searches_bind {α β : Type} {check : Except QueryError α}
    {next : α → Except QueryError β} {xs ys : List (Path × String)} (h : Searches check xs)
    (hnext : ∀ a, Searches (next a) ys) : Searches (check >>= next) (xs ++ ys) := by
  cases check with
  | error e =>
      rcases h with ⟨before, s, after, rfl, hbefore, hfaulty, hblames⟩
      exact ⟨before, s, after ++ ys, List.append_assoc _ _ _, hbefore, hfaulty, hblames⟩
  | ok a =>
      -- The strings of the first check are faultless, so they only stand in front.
      have hrest := hnext a
      change Searches (next a) (xs ++ ys)
      cases hresult : next a with
      | ok b =>
          rw [hresult] at hrest
          exact (faultless_append_iff xs ys).mpr ⟨h, hrest⟩
      | error e =>
          rw [hresult] at hrest
          rcases hrest with ⟨before, s, after, rfl, hbefore, hfaulty, hblames⟩
          exact ⟨xs ++ before, s, after, (List.append_assoc _ _ _).symm,
            (faultless_append_iff xs before).mpr ⟨h, hbefore⟩, hfaulty, hblames⟩

/-- What is made of the outcome of a check is not part of the search. -/
theorem searches_bind_ok {α β : Type} {check : Except QueryError α} {f : α → β}
    {entries : List (Path × String)} (h : Searches check entries) :
    Searches (check >>= fun a => .ok (f a)) entries := by
  cases check with
  | error e => exact h
  | ok a => exact h

/-- Rejects the empty name. -/
def demandName (path : Path) (problem : QueryProblem) (name : String) : Except QueryError Unit :=
  if name = "" then .error (.invalidQuery path problem) else .ok ()

theorem demandName_searches {key : String} (hkey : key ∈ nameKeys) (path : Path)
    (problem : QueryProblem) (name : String) :
    Searches (demandName (path.child key) problem name) [(path.child key, name)] := by
  unfold demandName
  by_cases hname : name = ""
  · rw [if_pos hname]
    exact ⟨[], name, [], rfl, faultless_nil,
      (isFaulty_child_iff path key name).mpr (.inl ⟨hkey, hname⟩), hname⟩
  · rw [if_neg hname]
    exact (faultless_name_iff hkey path name).mpr hname

theorem Expression.check_searches (path : Path) (e : Expression) :
    Searches (e.check path) (Json.strings path e.toJson) := by
  cases hname : e.name? with
  | none =>
      have hcheck : e.check path = .ok () := by
        unfold check
        rw [hname, if_neg nofun]
      rw [hcheck]
      exact faultless_of_no_name hname path
  | some name =>
      rcases strings_toJson hname path with ⟨hstrings, htag⟩
      have hcheck : e.check path = demandName (path.child e.tag) .emptyName name := by
        unfold check demandName
        simp only [hname, Option.some.injEq]
      rw [hcheck, hstrings]
      exact demandName_searches htag path .emptyName name

/-- A condition is compiled at the place of what stands under its key. -/
theorem Condition.compile_searches (path : Path) (c : Condition) :
    Searches (c.compile (path.child "match")) (Json.strings path c.toJson) := by
  rw [strings_toJson]
  unfold compile
  refine searches_bind (Expression.check_searches _ c.expression) fun _ => ?_
  cases hpattern : Pattern.compile? c.pattern with
  | some pattern => exact (faultless_pattern_iff _ _).mpr (Option.isSome_of_eq_some hpattern)
  | none =>
      exact ⟨[], c.pattern, [], rfl, faultless_nil,
        (isFaulty_child_iff _ _ _).mpr (.inr ⟨rfl, hpattern⟩), rfl, hpattern⟩

namespace Operation

/-- The target of a `set` is looked at before its expression is. -/
theorem compile_set_eq (path : Path) (target : String) (expression : Expression) :
    (set target expression).compile path =
      demandName ((path.child "set").child "target") .emptyTarget target >>= fun _ =>
      expression.check ((path.child "set").child "expression") >>= fun _ =>
        .ok (.set target expression) := by
  unfold compile demandName
  by_cases htarget : target = ""
  · rw [if_pos htarget, if_pos htarget]
    rfl
  · rw [if_neg htarget, if_neg htarget]
    rfl

mutual

/-- The parts of an operation are checked in the order in which they are
    written. -/
theorem compile_searches (path : Path) :
    ∀ op : Operation, Searches (op.compile path) (Json.strings path op.toJson)
  | branch condition thenOps elseOps => by
      rw [strings_branch]
      unfold compile
      refine searches_bind (Condition.compile_searches _ condition) fun pattern => ?_
      refine searches_bind (compileList_searches _ 0 thenOps) fun thenSteps => ?_
      exact searches_bind_ok (compileList_searches _ 0 elseOps)
  | set target expression => by
      rw [strings_set, compile_set_eq]
      refine searches_bind (demandName_searches (by decide) _ _ target) fun _ => ?_
      exact searches_bind_ok (Expression.check_searches _ expression)
  | colorBy expression => by
      rw [strings_colorBy]
      unfold compile
      exact searches_bind_ok (Expression.check_searches _ expression)
  | skipRecord => by
      rw [strings_skipRecord]
      unfold compile
      exact faultless_nil

theorem compileList_searches (path : Path) (i : Nat) :
    ∀ ops : List Operation,
      Searches (compileList path i ops) (Json.itemStrings path i (listToJson ops))
  | [] => by
      rw [compileList, listToJson, Json.itemStrings]
      exact faultless_nil
  | op :: rest => by
      rw [compileList, listToJson, Json.itemStrings]
      refine searches_bind (compile_searches (path.element i) op) fun step => ?_
      exact searches_bind_ok (compileList_searches path (i + 1) rest)

end

end Operation

/-! ### Places in a written query -/

theorem Json.distinct_singleton {key : String} {json : Json} (h : json.Distinct) :
    (Json.object [(key, json)]).Distinct := by
  rw [Distinct]
  exact ⟨List.pairwise_singleton _ key, h, trivial⟩

theorem Expression.toJson_distinct (e : Expression) : e.toJson.Distinct := by
  cases e with
  | record => exact Json.distinct_singleton ⟨List.nodup_nil, trivial⟩
  | var _ | lastVarValue _ | field _ => exact Json.distinct_singleton trivial
  | constant value =>
      cases value with
      | absent | boolean _ | number _ | string _ => exact Json.distinct_singleton trivial

theorem Condition.toJson_distinct (c : Condition) : c.toJson.Distinct := by
  refine Json.distinct_singleton ?_
  rw [Json.Distinct]
  exact ⟨by simp, Expression.toJson_distinct _, trivial, trivial⟩

namespace Operation

mutual

theorem toJson_distinct : ∀ op : Operation, op.toJson.Distinct
  | branch condition thenOps elseOps => by
      rw [toJson]
      refine Json.distinct_singleton ?_
      rw [Json.Distinct]
      exact ⟨by simp, Condition.toJson_distinct condition, listToJson_distinct thenOps,
        listToJson_distinct elseOps, trivial⟩
  | set target expression => by
      rw [toJson]
      refine Json.distinct_singleton ?_
      rw [Json.Distinct]
      exact ⟨by simp, trivial, Expression.toJson_distinct expression, trivial⟩
  | colorBy expression => by
      rw [toJson]
      exact Json.distinct_singleton (Expression.toJson_distinct expression)
  | skipRecord => by
      rw [toJson]
      exact Json.distinct_singleton ⟨List.nodup_nil, trivial⟩

theorem listToJson_distinct : ∀ ops : List Operation, Json.DistinctItems (listToJson ops)
  | [] => by
      rw [listToJson]
      exact trivial
  | op :: rest => by
      rw [listToJson]
      exact ⟨toJson_distinct op, listToJson_distinct rest⟩

end

end Operation

namespace Query

theorem toJson_distinct (q : Query) : q.toJson.Distinct :=
  Json.distinct_singleton (Operation.listToJson_distinct q.operations)

theorem strings_toJson (q : Query) :
    Json.strings [] q.toJson =
      Json.itemStrings [.key "operations"] 0 (Operation.listToJson q.operations) := by
  unfold toJson
  simp only [Json.strings, Json.memberStrings, List.append_nil]
  rfl

theorem plainPaths (q : Query) : PlainPaths (Json.strings [] q.toJson) := by
  have hroot : Path.Plain [] := nofun
  have hoperations := hroot.child (show Path.PlainKey "operations" by decide)
  rw [strings_toJson]
  exact Operation.plainPaths_list hoperations 0 q.operations

theorem compile_searches (q : Query) : Searches q.compile (Json.strings [] q.toJson) := by
  have h := Operation.compileList_searches [.key "operations"] 0 q.operations
  rw [strings_toJson]
  unfold compile
  cases hsteps : Operation.compileList [.key "operations"] 0 q.operations with
  | error e =>
      rw [hsteps] at h
      exact h
  | ok steps =>
      rw [hsteps] at h
      exact h

theorem faultless_iff (q : Query) : Faultless (Json.strings [] q.toJson) ↔ q.Valid := by
  rw [strings_toJson]
  exact Operation.faultless_list_iff _ 0 q.operations

theorem compile_isOk_iff (q : Query) : (∃ compiled, q.compile = .ok compiled) ↔ q.Valid := by
  have h := q.compile_searches
  rw [← faultless_iff]
  cases hcompile : q.compile with
  | ok compiled =>
      rw [hcompile] at h
      exact iff_of_true ⟨compiled, rfl⟩ h
  | error e =>
      rw [hcompile] at h
      rcases h with ⟨before, s, after, hstrings, _, hfaulty, _⟩
      -- The string that the error is about is among those of the written query.
      refine iff_of_false nofun fun hfaultless => ?_
      refine hfaultless (e.path, s) ?_ hfaulty
      rw [hstrings]
      exact List.mem_append_right before List.mem_cons_self

theorem run_eq_error_iff (q : Query) (records : List LogRecord) (e : QueryError) :
    q.run records = .error e ↔ q.compile = .error e := by
  unfold run
  cases q.compile with
  | ok compiled => exact iff_of_false nofun nofun
  | error e' =>
      constructor
      · intro h
        cases h
        rfl
      · intro h
        cases h
        rfl

end Query

/-- Validation is exact and names the first fault. A query compiles if and only
    if it is valid. If it does not compile, the path of the error leads through
    its JSON form to a faulty string, no string that is written before that one
    is faulty, and the error is about what is wrong with it. The path is told by
    its text, which is what an error shows of it. A run fails exactly
    if the query does not compile, with the same error, and then it has left its
    source as it was. -/
theorem compile_finds_first_fault (q : Query) :
    ((∃ compiled, q.compile = .ok compiled) ↔ q.Valid) ∧
      (∀ e, q.compile = .error e → Path.ofText e.path.text = e.path ∧
        ∃ before s after, Json.at? e.path q.toJson = some (.string s) ∧
          Json.strings [] q.toJson = before ++ (e.path, s) :: after ∧
          Faultless before ∧ IsFaulty (e.path, s) ∧ e.Blames s) ∧
      (∀ source e, q.run source = .error e ↔ q.compile = .error e) ∧
      ∀ source, (q.runFrom source).1 = q.run source ∧
        ∀ e, q.run source = .error e → (q.runFrom source).2 = source := by
  refine ⟨q.compile_isOk_iff, fun e he => ?_, q.run_eq_error_iff,
    fun source => ⟨?_, fun e he => ?_⟩⟩
  · have h := q.compile_searches
    rw [he] at h
    rcases h with ⟨before, s, after, hstrings, hbefore, hfaulty, hblames⟩
    have hmem : (e.path, s) ∈ Json.strings [] q.toJson := by
      rw [hstrings]
      exact List.mem_append_right before List.mem_cons_self
    refine ⟨Path.ofText_text (q.plainPaths _ hmem), before, s, after, ?_, hstrings, hbefore,
      hfaulty, hblames⟩
    rcases Json.at?_of_mem_strings q.toJson q.toJson_distinct hmem with ⟨rest, hpath, hat⟩
    rw [hpath, List.nil_append]
    exact hat
  · rw [Query.runFrom_eq]
  · rw [Query.runFrom_eq, he]
    rfl

/-- Of two faults the one in the branch is written first. -/
example :
    (match Query.compile ⟨[.branch ⟨.record, "a"⟩ [.colorBy (.var "")] [], .set "" .record]⟩ with
      | .ok _ => none
      | .error e => some e.path.text) = some "operations[0].if.then[0].colorBy.var" := by
  decide +kernel

end LogQuery
