import LogQuery.Proofs.CommandLine.Agreement
import LogQuery.Proofs.Query.Depth
import LogQuery.Proofs.Query.RoundTrip
import LogQuery.Proofs.Query.Validation

/-!
# The Normal Form of a Query

`check` prints an accepted query in its full form, and what it prints is a
query again. Reading it back can go wrong in two ways. The full form nests
deeper than a short form that it came from, by up to two levels, so it may not
fit into the levels that the reader has. And a constant may be rounded when it is read, so
that another one is printed.

Without such a constant the depth decides alone: a form that fits is read as
the query that it was printed from, is accepted and is printed as it is; one
that does not fit is refused (`check_prints_fixpoint`). Both ways to go wrong
are taken, the one by a constant of sixteen digits (`check_changes_constant`),
the other by conditions inside one another (`check_nestedForm`).

## Main definitions

* `CommandLine.checkJson`: The words for checking a query that is given as JSON.
* `CommandLine.normalForm`: What `check` prints of a query.
* `CommandLine.nestedQuery`: A query of conditions inside one another.

## Theorems

* `run_checkJson_code_eq_zero_iff`: Which texts `check` accepts.
* `ofJsonText_normalForm_iff`: Which normal forms are read back.
* `check_prints_fixpoint`: When `check` prints what it prints of its own output.
* `check_changes_constant`: A constant that is printed as another one.
* `check_nestedForm`: A query that is accepted in its short form only.
-/

namespace LogQuery

namespace CommandLine

open Invocation

variable {around : Surrounding}

/-- The words for checking a query that is given as JSON. -/
def checkJson (text : String) : List String := ["check", "--query-json", text]

/-- What `check` prints of a query. -/
def normalForm (query : Query) : String := query.toJson.indented ++ "\n"

theorem toList_normalForm (query : Query) :
    (normalForm query).toList = Json.layOut 0 query.toJson ++ ['\n'] := by
  rw [normalForm, String.toList_append, Json.indented, String.toList_ofList]
  rfl

/-! ### Checking a text -/

theorem check_of_compile {arguments : QueryArguments} {query : Query} {compiled : CompiledQuery}
    (h : arguments.compile around.files = .ok (query, compiled)) :
    check arguments around = .printed around.files 0 (normalForm query) := by
  rw [check, h]
  rfl

theorem run_checkJson {text : String} (h : CommandShape.looksLikeOption text = false) :
    run (checkJson text) around = check ⟨none, some text⟩ around := by
  rw [run, checkJson, ofArguments_check_json, h, if_neg Bool.false_ne_true, execute]

theorem compile_json_eq_ok_iff {text : String} {files : FileTree} {query : Query}
    {compiled : CompiledQuery} :
    QueryArguments.compile ⟨none, some text⟩ files = .ok (query, compiled) ↔
      Query.ofJsonText text = .ok query ∧ query.compile = .ok compiled := by
  rw [QueryArguments.compile_eq_ok_iff, QueryArguments.load_json, mapError_eq_ok]

/-- A text is accepted if it is that of a query which has a compiled form, and it
    is not taken for an option. -/
theorem run_checkJson_code_eq_zero_iff (text : String) :
    (run (checkJson text) around).code = 0 ↔
      CommandShape.looksLikeOption text = false ∧
        ∃ query compiled, Query.ofJsonText text = .ok query ∧ query.compile = .ok compiled := by
  cases hlook : CommandShape.looksLikeOption text with
  | true =>
      rw [run, checkJson, ofArguments_check_json, hlook, if_pos rfl]
      constructor
      · intro h
        cases h
      · rintro ⟨h, _⟩
        cases h
  | false =>
      rw [run_checkJson hlook, check_code_eq_zero_iff]
      constructor
      · rintro ⟨⟨query, compiled⟩, h⟩
        exact ⟨rfl, query, compiled, compile_json_eq_ok_iff.mp h⟩
      · rintro ⟨_, query, compiled, h⟩
        exact ⟨⟨query, compiled⟩, compile_json_eq_ok_iff.mpr h⟩

/-- What is printed of an accepted text is its normal form. -/
theorem run_checkJson_of_ofJsonText {text : String} {query : Query} {compiled : CompiledQuery}
    (hlook : CommandShape.looksLikeOption text = false)
    (hread : Query.ofJsonText text = .ok query) (hcompile : query.compile = .ok compiled) :
    run (checkJson text) around = .printed around.files 0 (normalForm query) := by
  rw [run_checkJson hlook]
  exact check_of_compile (compile_json_eq_ok_iff.mpr ⟨hread, hcompile⟩)

/-! ### Reading a normal form -/

theorem looksLikeOption_normalForm (query : Query) :
    CommandShape.looksLikeOption (normalForm query) = false := by
  have hhead : (normalForm query).toList.head? = some '\x7b' := by
    rw [toList_normalForm, Query.toJson, Json.layOut]
    rfl
  rw [CommandShape.looksLikeOption, hhead]
  rfl

theorem ofJsonText_eq_ok_iff {text : String} {query : Query} :
    Query.ofJsonText text = .ok query ↔
      ∃ json, Json.parse text.toList = .ok json ∧ Query.ofJson json = .ok query := by
  rw [Query.ofJsonText, Json.parseText]
  cases Json.parse text.toList with
  | error fault => exact ⟨nofun, nofun⟩
  | ok json =>
      constructor
      · intro h
        exact ⟨json, rfl, h⟩
      · rintro ⟨_, hjson, h⟩
        cases hjson
        exact h

/-- What is accepted as a tree is accepted as its compact text, if that can be read
    back. -/
theorem run_checkJson_compact {json : Json} {query : Query} {compiled : CompiledQuery}
    (hlegible : Json.Legible Json.Reader.depthLimit json) (hread : Query.ofJson json = .ok query)
    (hcompile : query.compile = .ok compiled) :
    run (checkJson json.compact) around = .printed around.files 0 (normalForm query) := by
  have htext : json.compact.toList = Json.write json := String.toList_ofList
  refine run_checkJson_of_ofJsonText ?_ (ofJsonText_eq_ok_iff.mpr ⟨json, ?_, hread⟩) hcompile
  · rw [CommandShape.looksLikeOption, htext]
    cases json with
    | object members => cases members <;> rfl
    | null | bool _ | number _ | string _ | array _ => cases hread
  · rw [htext, Json.parse_write hlegible]

theorem denotesQuery_of_ofJson {json : Json} {query : Query}
    (h : Query.ofJson json = .ok query) : DenotesQuery json query := by
  have hyields := Query.ofJson_yields json
  rw [h] at hyields
  exact hyields

/-- A query is read from a text if its JSON form is. -/
theorem ofJsonText_of_parse {text : String} {query : Query}
    (h : Json.parse text.toList = .ok query.toJson) : Query.ofJsonText text = .ok query := by
  have hparts : Query.ofJson query.toJson =
      QueryReader.readOperations [.key "operations"] 0 (Operation.listToJson query.operations) >>=
        fun operations => .ok ⟨operations⟩ := rfl
  rw [readOperations_listToJson] at hparts
  exact ofJsonText_eq_ok_iff.mpr ⟨_, h, hparts⟩

/-- A normal form is read as the query that it is the form of, if it is read as any
    query; and this is so if it does not nest too deep. -/
theorem ofJsonText_normalForm_iff {query : Query}
    (hreals : ∀ x ∈ query.toJson.reals, (Number.real x).ReadsBack) (other : Query) :
    Query.ofJsonText (normalForm query) = .ok other ↔
      other = query ∧ query.toJson.depth ≤ Json.Reader.depthLimit := by
  have hparse : ∀ json, Json.parse (normalForm query).toList = .ok json ↔
      json = query.toJson ∧ query.toJson.depth ≤ Json.Reader.depthLimit := by
    rw [toList_normalForm]
    exact Json.parse_layOut_eq_ok_iff query.toJson_distinct hreals
  constructor
  · intro h
    rcases ofJsonText_eq_ok_iff.mp h with ⟨json, hjson, _⟩
    rcases (hparse json).mp hjson with ⟨rfl, hdepth⟩
    have hquery := ofJsonText_of_parse hjson
    rw [h, Except.ok.injEq] at hquery
    exact ⟨hquery, hdepth⟩
  · rintro ⟨rfl, hdepth⟩
    exact ofJsonText_of_parse ((hparse _).mpr ⟨rfl, hdepth⟩)

/-! ### Fixpoints -/

/-- Of an accepted text `check` prints the query in its normal form, which nests at
    most two levels deeper than the text. Unless a constant in there is not read
    back, `check` accepts this form exactly if it nests within the limit of the
    reader, and then the form is read as the same query and printed as it is. -/
theorem check_prints_fixpoint (text : String) (around : Surrounding)
    (haccepted : (run (checkJson text) around).code = 0) :
    ∃ json query printed, Json.parse text.toList = .ok json ∧
      Query.ofJsonText text = .ok query ∧ query.toJson.depth ≤ json.depth + 2 ∧
      (run (checkJson text) around).output = Utf8.ofString printed ∧
      ((∀ x ∈ query.toJson.reals, (Number.real x).ReadsBack) →
        ((run (checkJson printed) around).code = 0 ↔
          query.toJson.depth ≤ Json.Reader.depthLimit) ∧
        (query.toJson.depth ≤ Json.Reader.depthLimit →
          run (checkJson printed) around = run (checkJson text) around ∧
            Query.ofJsonText printed = .ok query)) := by
  rcases (run_checkJson_code_eq_zero_iff text).mp haccepted with
    ⟨hlook, query, compiled, hread, hcompile⟩
  have hrun : run (checkJson text) around = .printed around.files 0 (normalForm query) :=
    run_checkJson_of_ofJsonText hlook hread hcompile
  rcases ofJsonText_eq_ok_iff.mp hread with ⟨json, hjson, hquery⟩
  have hdenotes : DenotesQuery json query := denotesQuery_of_ofJson hquery
  have hform := looksLikeOption_normalForm query
  refine ⟨json, query, normalForm query, hjson, hread, hdenotes.depth_le, by rw [hrun]; rfl,
    fun hreals => ?_⟩
  have hback := ofJsonText_normalForm_iff hreals
  refine ⟨?_, fun hdepth => ?_⟩
  · rw [run_checkJson_code_eq_zero_iff]
    constructor
    · rintro ⟨_, other, _, hother, _⟩
      exact ((hback other).mp hother).2
    · intro hdepth
      exact ⟨hform, query, compiled, (hback query).mpr ⟨rfl, hdepth⟩, hcompile⟩
  · have hagain := (hback query).mpr ⟨rfl, hdepth⟩
    rw [hrun, run_checkJson_of_ofJsonText hform hagain hcompile]
    exact ⟨rfl, hagain⟩

/-- One half, as a constant. -/
def half : Value :=
  .number (.real ⟨false, 0x10000000000000, 1021, by decide, by decide, by decide⟩)

/-- A query in a short form: the condition is inline, a branch is left out and a
    body is null. -/
def shortForm : Json :=
  .object [("operations", .array [.object [("if", .object
    [("match", .object [("expression", .object [("record", .null)]), ("pattern", .string "a")]),
     ("then", .array [.object [("colorBy", .object [("constant", half.toJson)])]])])]])]

/-- The query of this form. -/
def shortQuery : Query := ⟨[.branch ⟨.record, "a"⟩ [.colorBy (.constant half)] []]⟩

theorem check_prints_fixpoint_shortForm :
    (run (checkJson shortForm.compact) formerOutput).code = 0 ∧
      (∀ x ∈ shortQuery.toJson.reals, (Number.real x).ReadsBack) ∧
      shortQuery.toJson.depth ≤ Json.Reader.depthLimit ∧
      ∃ printed,
        (run (checkJson shortForm.compact) formerOutput).output = Utf8.ofString printed ∧
        run (checkJson printed) formerOutput = run (checkJson shortForm.compact) formerOutput ∧
        Query.ofJsonText printed = .ok shortQuery := by
  have hlegible : Json.Legible Json.Reader.depthLimit shortForm :=
    Json.legible_of_depth shortForm
      (by simp [shortForm, half, Value.toJson, Json.Distinct, Json.DistinctItems,
        Json.DistinctMembers])
      (by decide) (by decide +kernel)
  have hread : Query.ofJson shortForm = .ok shortQuery := rfl
  obtain ⟨compiled, hcompile⟩ : ∃ compiled, shortQuery.compile = .ok compiled := by
    rw [Query.compile_isOk_iff, Query.Valid, shortQuery, Operation.allSound_branch_iff,
      Operation.allSound_leaf_iff _ fun _ _ _ h => by cases h]
    exact ⟨⟨Expression.sound_of_no_name rfl, by decide +kernel⟩,
      Expression.sound_of_no_name rfl, Operation.allSound_nil⟩
  have hreals : ∀ x ∈ shortQuery.toJson.reals, (Number.real x).ReadsBack := by decide +kernel
  have hdepth : shortQuery.toJson.depth ≤ Json.Reader.depthLimit := by decide
  have haccepted : (run (checkJson shortForm.compact) formerOutput).code = 0 := by
    rw [run_checkJson_compact hlegible hread hcompile]
    rfl
  have htext : Query.ofJsonText shortForm.compact = .ok shortQuery :=
    ofJsonText_eq_ok_iff.mpr ⟨shortForm, by
      rw [Json.compact, String.toList_ofList, Json.parse_write hlegible], hread⟩
  rcases check_prints_fixpoint shortForm.compact formerOutput haccepted with
    ⟨_, query, printed, _, hquery, _, houtput, hfixpoint⟩
  cases hquery.symm.trans htext
  rcases (hfixpoint hreals).2 hdepth with ⟨hagain, hsame⟩
  exact ⟨haccepted, hreals, hdepth, printed, houtput, hagain, hsame⟩

/-! ### Constants -/

/-- A query with a constant, written with the given digits, in the normal form. -/
def constantForm (digits : String) : String :=
  "\x7b\n  \"operations\": [\n    \x7b\n      \"colorBy\": \x7b\n        \"constant\": " ++ digits ++
    "\n      \x7d\n    \x7d\n  ]\n\x7d\n"

theorem toList_constantForm (digits : String) :
    (constantForm digits).toList =
      "\x7b\n  \"operations\": [\n    \x7b\n      \"colorBy\": \x7b\n        \"constant\": ".toList ++
        digits.toList ++ "\n      \x7d\n    \x7d\n  ]\n\x7d\n".toList :=
  String.toList_append.trans (congrArg (· ++ _) String.toList_append)

/-- The query with a real for its constant. -/
def constantQuery (x : Binary64) : Query := ⟨[.colorBy (.constant (.number (.real x)))]⟩

theorem normalForm_constantQuery (x : Binary64) :
    normalForm (constantQuery x) = constantForm (Number.real x).text := by
  apply String.toList_injective
  rw [toList_normalForm, toList_constantForm]
  simp [constantQuery, Query.toJson, Operation.listToJson, Operation.toJson, Expression.toJson,
    Expression.tag, Value.toJson, Json.layOut, Json.layOutItems, Json.layOutMembers, Json.newline,
    Json.writeString, Json.write, Json.escapeChar, List.replicate]

/-- What is printed for a constant has the digits of the real that was read. -/
theorem run_constantForm {digits : String} {x : Binary64}
    (h : Json.parse (constantForm digits).toList = .ok (constantQuery x).toJson) :
    run (checkJson (constantForm digits)) around =
      .printed around.files 0 (constantForm (Number.real x).text) := by
  obtain ⟨compiled, hcompile⟩ : ∃ compiled, (constantQuery x).compile = .ok compiled := ⟨_, rfl⟩
  rw [← normalForm_constantQuery]
  refine run_checkJson_of_ofJsonText ?_ (ofJsonText_of_parse h) hcompile
  rw [CommandShape.looksLikeOption, toList_constantForm]
  simp only [String.reduceToList]
  rfl

theorem constantForm_injective {digits others : String}
    (h : constantForm digits = constantForm others) : digits = others := by
  have hlist := congrArg String.toList h
  rw [toList_constantForm, toList_constantForm] at hlist
  exact String.toList_injective (List.append_cancel_left (List.append_cancel_right hlist))

/-- A real a little above nine. -/
def aboveNine : Binary64 := ⟨false, 0x120636e44808c7, 1025, by decide, by decide, by decide⟩

/-- The next real. -/
def furtherAboveNine : Binary64 :=
  ⟨false, 0x120636e44808c8, 1025, by decide, by decide, by decide⟩

/-- A constant is printed as another one, and that one as a third. -/
theorem check_changes_constant :
    (run (checkJson (constantForm "9.012137540620086")) formerOutput).code = 0 ∧
    (run (checkJson (constantForm "9.012137540620086")) formerOutput).output =
      Utf8.ofString (constantForm "9.012137540620087") ∧
    (run (checkJson (constantForm "9.012137540620087")) formerOutput).output ≠
      Utf8.ofString (constantForm "9.012137540620087") := by
  have hfirst : Json.parse (constantForm "9.012137540620086").toList =
      .ok (constantQuery aboveNine).toJson := by
    rw [toList_constantForm]
    simp only [String.reduceToList]
    decide +kernel
  have hsecond : Json.parse (constantForm "9.012137540620087").toList =
      .ok (constantQuery furtherAboveNine).toJson := by
    rw [toList_constantForm]
    simp only [String.reduceToList]
    decide +kernel
  have hdigits : (Number.real aboveNine).text = "9.012137540620087" := by decide +kernel
  have hothers : (Number.real furtherAboveNine).text ≠ "9.012137540620087" := by decide +kernel
  rw [run_constantForm hfirst, run_constantForm hsecond, hdigits]
  exact ⟨rfl, rfl, fun h => hothers (constantForm_injective (Utf8.ofString_injective h))⟩

/-! ### Deep forms -/

/-- Conditions inside one another, in a short form. -/
def nestedJson : Nat → Json
  | 0 => .object [("colorBy", .object [("record", .null)])]
  | n + 1 => .object [("if", .object
      [("match", .object
        [("expression", .object [("var", .string "x")]), ("pattern", .string "a")]),
       ("then", .array [nestedJson n])])]

/-- The operation that has this form. -/
def nestedOperation : Nat → Operation
  | 0 => .colorBy .record
  | n + 1 => .branch ⟨.var "x", "a"⟩ [nestedOperation n] []

/-- A query of conditions inside one another. -/
def nestedQuery (n : Nat) : Query := ⟨[nestedOperation n]⟩

/-- The short form of this query. -/
def nestedForm (n : Nat) : Json := .object [("operations", .array [nestedJson n])]

theorem denotes_nestedJson (n : Nat) : DenotesOperation (nestedJson n) (nestedOperation n) := by
  induction n with
  | zero => exact .colorBy (.record (.inr rfl))
  | succ n ih =>
      have hmatch : DenotesMatch
          (.object [("expression", .object [("var", .string "x")]), ("pattern", .string "a")])
          ⟨.var "x", "a"⟩ :=
        .intro (by simp [KeysAmong]) rfl (.var (.inl rfl)) rfl
      exact .branch (by simp [KeysAmong]) (.inline rfl rfl hmatch) (.present (.cons ih .nil)) .absent

theorem ofJson_nestedForm (n : Nat) : Query.ofJson (nestedForm n) = .ok (nestedQuery n) :=
  Query.ofJson_of_denotes (.intro (by simp [KeysAmong]) rfl (.cons (denotes_nestedJson n) .nil))

theorem nestedQuery_valid (n : Nat) : (nestedQuery n).Valid := by
  rw [Query.Valid, nestedQuery]
  induction n with
  | zero =>
      rw [nestedOperation, Operation.allSound_leaf_iff _ fun _ _ _ h => by cases h]
      exact Expression.sound_of_no_name rfl
  | succ n ih =>
      rw [nestedOperation, Operation.allSound_branch_iff]
      refine ⟨⟨?_, by decide +kernel⟩, ih, Operation.allSound_nil⟩
      exact (Expression.sound_iff rfl).mpr (by decide)

/-- Every condition takes three levels of the short form. -/
theorem legible_nestedJson (n : Nat) {levels : Nat} (h : 3 * n + 2 ≤ levels) :
    Json.Legible levels (nestedJson n) := by
  induction n generalizing levels with
  | zero =>
      obtain ⟨more, rfl⟩ := Nat.exists_eq_add_of_le' h
      simp [nestedJson, Json.Legible]
  | succ n ih =>
      obtain ⟨more, rfl⟩ := Nat.exists_eq_add_of_le' h
      have hinner : Json.Legible (more + (3 * n + 2)) (nestedJson n) := ih (Nat.le_add_left _ _)
      rw [nestedJson, show more + (3 * (n + 1) + 2) = more + (3 * n + 2) + 1 + 1 + 1 by omega]
      simp [Json.Legible, hinner]

/-- It takes as many of the normal form, but the body of the expression inside them
    is an object there. -/
theorem depth_nestedOperation (n : Nat) : (nestedOperation n).toJson.depth = 3 * n + 3 := by
  induction n with
  | zero => rfl
  | succ n ih =>
      simp only [nestedOperation, Operation.toJson, Operation.listToJson, Condition.toJson,
        Expression.toJson, Json.depth, Json.depthOfMembers, Json.depthOfItems, ih]
      omega

theorem reals_nestedOperation (n : Nat) : (nestedOperation n).toJson.reals = [] := by
  induction n with
  | zero => rfl
  | succ n ih =>
      simp only [nestedOperation, Operation.toJson, Operation.listToJson, Condition.toJson,
        Expression.toJson, Json.reals, Json.realsOfMembers, Json.realsOfItems, ih, List.append_nil]

/-- The short form is accepted with up to 41 conditions. Its normal form is accepted
    with one less, so what is printed for 41 is refused. -/
theorem check_nestedForm (n : Nat) :
    (n ≤ 41 → run (checkJson (nestedForm n).compact) around =
        .printed around.files 0 (normalForm (nestedQuery n))) ∧
      ((run (checkJson (normalForm (nestedQuery n))) around).code = 0 ↔ n ≤ 40) := by
  rcases (nestedQuery n).compile_isOk_iff.mpr (nestedQuery_valid n) with ⟨compiled, hcompile⟩
  constructor
  · intro hn
    have hlegible : Json.Legible Json.Reader.depthLimit (nestedForm n) := by
      have hinner : Json.Legible 125 (nestedJson n) := legible_nestedJson n (by omega)
      simp [nestedForm, Json.Reader.depthLimit, Json.Legible, hinner]
    exact run_checkJson_compact hlegible (ofJson_nestedForm n) hcompile
  · have hreals : ∀ x ∈ (nestedQuery n).toJson.reals, (Number.real x).ReadsBack := by
      simp [nestedQuery, Query.toJson, Operation.listToJson, Json.reals, Json.realsOfMembers,
        Json.realsOfItems, reals_nestedOperation]
    have hdepth : (nestedQuery n).toJson.depth = 3 * n + 5 := by
      simp [nestedQuery, Query.toJson, Operation.listToJson, Json.depth, Json.depthOfMembers,
        Json.depthOfItems, depth_nestedOperation]
    have hback := ofJsonText_normalForm_iff hreals
    rw [run_checkJson_code_eq_zero_iff]
    simp only [hback, hdepth, Json.Reader.depthLimit]
    constructor
    · rintro ⟨_, _, _, ⟨_, hle⟩, _⟩
      omega
    · intro hn
      exact ⟨looksLikeOption_normalForm _, _, compiled, ⟨rfl, by omega⟩, hcompile⟩

end CommandLine

end LogQuery
