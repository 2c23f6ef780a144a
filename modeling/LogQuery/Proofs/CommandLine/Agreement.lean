import LogQuery.Proofs.CommandLine.Arguments
import LogQuery.Proofs.CommandLine.Delivery
import LogQuery.Proofs.Json.ReadBack
import LogQuery.Proofs.Text.Utf8

/-!
# Two Commands on One Query

`check` and `process` compile a query by the same rule, and what they make of
the outcome differs: the one prints a query or a report, the other streams or
gives up with a message. So that they agree is a matter of telling the outcomes
of `check` apart by what it prints (`check_cases`): a report is read back from
its text, and neither the indented text of a query nor an empty output is one.

The words of a query may be spelled in any way, and the command line of
`process` may say anything else besides.

## Main definitions

* `CommandLine.reportText`: The text of a report.
* `CommandLine.AsksLike`: A command line of `process` that asks for its query as
  other words do.

## Theorems

* `check_cases`: The outcomes of `check`.
* `process_plain_code_eq_zero_iff`: On an empty log only the query counts.
* `reportText_injective`: A report can be told from its text.
* `check_agrees_with_process`: Both commands accept the same queries and give
  the same messages.
-/

namespace LogQuery

namespace Utf8

theorem ofString_injective {s t : String} (h : ofString s = ofString t) : s = t := by
  have hdecode : decode (encode s.toList) = decode (encode t.toList) := congrArg decode h
  rw [decode_encode, decode_encode, Except.ok.injEq] at hdecode
  exact String.toList_injective hdecode

end Utf8

theorem CommandResult.output_printed (files : FileTree) (code : Nat) (text : String) :
    (printed files code text).output = Utf8.ofString text := rfl

namespace CommandLine

open Invocation

variable {arguments : QueryArguments} {around : Surrounding}

/-! ### Reports -/

/-- The text of a report, with the line break that ends it. -/
def reportText (kind message : String) : String :=
  (Json.object [("kind", .string kind), ("message", .string message)]).compact ++ "\n"

theorem reportText_injective {kind kind' message message' : String}
    (h : reportText kind message = reportText kind' message') :
    kind = kind' ∧ message = message' := by
  have hlegible : ∀ kind message : String, Json.Legible Json.Reader.depthLimit
      (.object [("kind", .string kind), ("message", .string message)]) := by
    intro kind message
    refine ⟨by simp, ?_⟩
    simp [Json.Legible]
  have hcompact := (String.append_left_inj "\n").mp h
  have hwrite := String.ofList_injective hcompact
  have hparse := congrArg Json.parse hwrite
  rw [Json.parse_write (hlegible _ _), Json.parse_write (hlegible _ _)] at hparse
  simpa using hparse

/-- A query in its full form is laid out over lines, a report is not. -/
theorem indented_ne_reportText (query : Query) (kind message : String) :
    query.toJson.indented ++ "\n" ≠ reportText kind message := by
  obtain ⟨lines, hlines⟩ : ∃ lines,
      (query.toJson.indented ++ "\n").toList = '\x7b' :: '\n' :: lines := by
    rw [String.toList_append, Json.indented, String.toList_ofList, Query.toJson, Json.layOut,
      Json.newline]
    exact ⟨_, rfl⟩
  obtain ⟨line, hline⟩ : ∃ line,
      (reportText kind message).toList = '\x7b' :: '"' :: line := by
    rw [reportText, String.toList_append, Json.compact, String.toList_ofList, Json.write,
      Json.writeString]
    exact ⟨_, rfl⟩
  intro h
  rw [h, hline] at hlines
  simp at hlines

theorem ofString_reportText_ne_nil (kind message : String) :
    Utf8.ofString (reportText kind message) ≠ [] := by
  rw [Utf8.ofString, reportText, String.toList_append, Utf8.encode_append]
  exact List.append_ne_nil_of_right_ne_nil _ (by decide)

/-! ### The outcomes of both commands -/

/-- `check` prints the query, prints a report about it, or gives up with a message. -/
theorem check_cases (arguments : QueryArguments) (around : Surrounding) :
    (∃ query compiled, arguments.compile around.files = .ok (query, compiled) ∧
        check arguments around = .printed around.files 0 (query.toJson.indented ++ "\n")) ∨
      (∃ error, arguments.compile around.files = .error (.query error) ∧
        check arguments around =
          .printed around.files 1 (reportText error.kind error.message)) ∨
      ∃ error, arguments.compile around.files = .error error ∧
        check arguments around = .failure around.files error.message := by
  rw [check]
  split
  · next query compiled h => exact .inl ⟨query, compiled, h, rfl⟩
  · next error h => exact .inr (.inl ⟨error, h, rfl⟩)
  · next error _ h => exact .inr (.inr ⟨error, h, rfl⟩)

theorem check_code_eq_zero_iff :
    (check arguments around).code = 0 ↔ ∃ queries, arguments.compile around.files = .ok queries := by
  rcases check_cases arguments around with ⟨_, _, hcompile, hcheck⟩ | ⟨_, hcompile, hcheck⟩ |
    ⟨_, hcompile, hcheck⟩
  · rw [hcheck]
    exact ⟨fun _ => ⟨_, hcompile⟩, fun _ => rfl⟩
  all_goals
    rw [hcheck, hcompile]
    exact ⟨nofun, nofun⟩

/-- On an empty log `process` has nothing to fail at but its query. -/
theorem process_plain_code_eq_zero_iff :
    (process (plain arguments) { around with input := [] }).code = 0 ↔
      ∃ queries, arguments.compile around.files = .ok queries := by
  cases h : arguments.compile around.files with
  | error error =>
      rw [process_of_rejected h]
      exact ⟨nofun, nofun⟩
  | ok queries =>
      refine ⟨fun _ => ⟨queries, rfl⟩, fun _ => ?_⟩
      have hquery : (plain arguments).query.compile around.files = .ok queries := h
      have hsize : (plain arguments).bufferSize < impossibleSize := by
        have hdefault : (plain arguments).bufferSize = 65536 := rfl
        rw [hdefault]
        decide
      have hdelivered := @process_to_stdout (plain arguments) { around with input := [] } queries
        (.ofBytes []) hquery rfl hsize rfl
      rw [hdelivered, deliver_nothing]
      rfl

/-- Behind a report there is a query that was rejected with its message. -/
theorem rejected_of_report {kind message : String}
    (h : (check arguments around).output = Utf8.ofString (reportText kind message)) :
    ∃ error, arguments.compile around.files = .error (.query error) ∧
      error.message = message := by
  rcases check_cases arguments around with ⟨query, _, _, hcheck⟩ | ⟨error, hcompile, hcheck⟩ |
    ⟨error, _, hcheck⟩
  · rw [hcheck, CommandResult.output_printed] at h
    exact absurd (Utf8.ofString_injective h) (indented_ne_reportText query kind message)
  · rw [hcheck, CommandResult.output_printed] at h
    exact ⟨error, hcompile, (reportText_injective (Utf8.ofString_injective h)).2⟩
  · rw [hcheck] at h
    exact absurd h.symm (ofString_reportText_ne_nil kind message)

/-- A failure without a report has all it says on standard error. -/
theorem rejected_of_no_output (hcode : (check arguments around).code ≠ 0)
    (houtput : (check arguments around).output = []) :
    ∃ error, arguments.compile around.files = .error error ∧
      check arguments around = .failure around.files error.message := by
  rcases check_cases arguments around with ⟨_, _, _, hcheck⟩ | ⟨error, _, hcheck⟩ | hfailed
  · rw [hcheck] at hcode
    exact absurd rfl hcode
  · rw [hcheck, CommandResult.output_printed] at houtput
    exact absurd houtput (ofString_reportText_ne_nil error.kind error.message)
  · exact hfailed

/-! ### Agreement -/

/-- A command line of `process` that asks for its query as the words do, whatever
    else it says, and finds the same query file. -/
def AsksLike (words : List String) (around : Surrounding) (others : List String)
    (there : Surrounding) : Prop :=
  ∃ arguments, ofArguments others = .process arguments ∧
    ofArguments ("check" :: words) = .check arguments.query ∧
    ∀ name, arguments.query.file = some name →
      there.files.readText name = around.files.readText name

/-- What is rejected for `check` is rejected for `process`, with the same message. -/
theorem run_of_rejected {words others : List String} {there : Surrounding} {error : LoadError}
    (hwords : ofArguments ("check" :: words) = .check arguments)
    (hreject : arguments.compile around.files = .error error)
    (hasks : AsksLike words around others there) :
    run others there = .failure there.files error.message := by
  rcases hasks with ⟨asked, hothers, hsame, hfile⟩
  cases hsame.symm.trans hwords
  rw [run, hothers, execute]
  exact process_of_rejected ((QueryArguments.compile_congr hfile).trans hreject)

/-- Both commands accept the same queries. What `check` reports, or gives up with as
    its message, is what `process` gives up with: on any log and with any other
    options. Where words are no arguments at all, neither has a message of its own, and
    all that is said is that both end with the same code. -/
theorem check_agrees_with_process {words : List String} (hwords : QueryWords words)
    (around : Surrounding) :
    ((run ("check" :: words) around).code = 0 ↔
      (run ("process" :: words) { around with input := [] }).code = 0) ∧
    (∀ kind message,
      (run ("check" :: words) around).output = Utf8.ofString (reportText kind message) →
      ∀ others there, AsksLike words around others there →
        run others there = ⟨1, [], "logview: " ++ message ++ "\n", there.files⟩) ∧
    ((run ("check" :: words) around).code ≠ 0 → (run ("check" :: words) around).output = [] →
      (∀ input, (run ("process" :: words) { around with input }).code =
        (run ("check" :: words) around).code) ∧
      ((run ("check" :: words) around).errors ≠ "" →
        (∀ input, run ("process" :: words) { around with input } =
          run ("check" :: words) around) ∧
        ∀ others there, AsksLike words around others there →
          run others there = { run ("check" :: words) around with files := there.files })) := by
  rcases ofArguments_queryWords hwords with ⟨arguments, hcheck, hprocess⟩ | ⟨hcheck, hprocess⟩
  · have hrun : run ("check" :: words) around = check arguments around := by
      rw [run, hcheck, execute]
    have hplain : ∀ there, run ("process" :: words) there = process (plain arguments) there := by
      intro there
      rw [run, hprocess, execute]
    rw [hrun]
    refine ⟨?_, fun kind message houtput others there hasks => ?_, fun hcode houtput => ?_⟩
    · rw [hplain, check_code_eq_zero_iff, process_plain_code_eq_zero_iff]
    · rcases rejected_of_report houtput with ⟨error, hreject, rfl⟩
      exact run_of_rejected hcheck hreject hasks
    · rcases rejected_of_no_output hcode houtput with ⟨error, hreject, hfailed⟩
      rw [hfailed]
      have hsame : ∀ input, run ("process" :: words) { around with input } =
          .failure around.files error.message := by
        intro input
        rw [hplain]
        exact process_of_rejected hreject
      refine ⟨fun input => congrArg CommandResult.code (hsame input), fun _ => ⟨hsame, ?_⟩⟩
      exact fun others there hasks => run_of_rejected hcheck hreject hasks
  · -- The words are misuse for both, so no other command line asks as they do.
    have hrun : run ("check" :: words) around = .silent around.files 2 := by
      rw [run, hcheck, execute]
    have hplain : ∀ there, run ("process" :: words) there = .silent there.files 2 := by
      intro there
      rw [run, hprocess, execute]
    have hasks : ∀ others there, ¬ AsksLike words around others there := by
      rintro others there ⟨arguments, _, hsame, _⟩
      cases hsame.symm.trans hcheck
    rw [hrun, hplain]
    refine ⟨Iff.rfl, fun _ _ _ others there h => absurd h (hasks others there), fun _ _ => ?_⟩
    exact ⟨fun input => congrArg CommandResult.code (hplain _), fun h => absurd rfl h⟩

/-- A query without operations. -/
def noOperations : List String := ["--query-json=\x7b\x7d"]

/-- A command line that asks for this query and more. -/
def noOperationsElsewhere : List String :=
  ["process", "log.txt", "--output=out.jsonl", "--query-json", "\x7b\x7d"]

theorem check_agrees_with_process_noOperations :
    QueryWords noOperations ∧
    ∃ kind message,
      (run ("check" :: noOperations) formerOutput).output =
        Utf8.ofString (reportText kind message) ∧
      AsksLike noOperations formerOutput noOperationsElsewhere formerOutput ∧
      run noOperationsElsewhere formerOutput =
        ⟨1, [], "logview: " ++ message ++ "\n", formerOutput.files⟩ := by
  have hwords : QueryWords noOperations := .attached rfl .nil
  have hquery : ofArguments ("check" :: noOperations) = .check ⟨none, some "\x7b\x7d"⟩ := by
    decide +kernel
  have hothers : ofArguments noOperationsElsewhere = .process
      { plain ⟨none, some "\x7b\x7d"⟩ with
        input := some "log.txt", output := some "out.jsonl" } := by
    decide +kernel
  have hreject : QueryArguments.compile ⟨none, some "\x7b\x7d"⟩ formerOutput.files =
      .error (.query (.invalidQuery [] .missingOperations)) := rfl
  have hreport : (run ("check" :: noOperations) formerOutput).output =
      Utf8.ofString (reportText (QueryError.invalidQuery [] .missingOperations).kind
        (QueryError.invalidQuery [] .missingOperations).message) := by
    rw [run, hquery, execute, check, hreject]
    exact CommandResult.output_printed _ _ _
  have hasks : AsksLike noOperations formerOutput noOperationsElsewhere formerOutput :=
    ⟨_, hothers, hquery, fun _ hname => by cases hname⟩
  exact ⟨hwords, _, _, hreport, hasks,
    (check_agrees_with_process hwords formerOutput).2.1 _ _ hreport _ _ hasks⟩

end CommandLine

end LogQuery
