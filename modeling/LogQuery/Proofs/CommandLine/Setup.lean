import LogQuery.CommandLine.Command
import LogQuery.Proofs.Outcome

/-!
# Setting Up a Run

What must succeed before `process` takes the first line: the query is loaded
and compiled, then the log is opened, and only then is the output touched. So a
command line that fails on the way there leaves everything as it was, and there
are no other ways to fail there than the ones of `GivesUp` (`givesUp_iff`).

When the run is set up, the output file is the only one that it touches. Both
facts come from the equations for the steps of `process`, one for each outcome.

## Main definitions

* `CommandLine.IsReady`: The query is compiled and the log is open.
* `CommandLine.GivesUp`: Why a run is not set up.

## Theorems

* `compile_congr`: A query is compiled from its own file alone.
* `process_of_not_ready`: A run that is not set up ends with a message alone.
* `givesUp_iff`: The reasons for not being set up.
* `run_gives_up_untouched`: A run that is not set up changes nothing.
* `run_touches_only_output`: No run changes a file other than its output.
-/

namespace LogQuery

/-! ### Queries -/

namespace QueryArguments

theorem load_json (text : String) (files : FileTree) :
    load ⟨none, some text⟩ files = (Query.ofJsonText text).mapError .query := rfl

theorem load_unreadable {name : String} {files : FileTree} {error : FileError}
    (h : files.readText name = .error error) :
    load ⟨some name, none⟩ files = .error (.file name error) := by
  simp only [load, readFile, h]

theorem load_text {name text : String} {files : FileTree} (h : files.readText name = .ok text) :
    load ⟨some name, none⟩ files =
      (if isYamlName name then Query.ofYamlText text else Query.ofJsonText text).mapError
        .query := by
  simp only [load, readFile, h]

/-- A query is loaded from its own file alone. -/
theorem load_congr {arguments : QueryArguments} {files others : FileTree}
    (h : ∀ name, arguments.file = some name → others.readText name = files.readText name) :
    arguments.load others = arguments.load files := by
  rcases arguments with ⟨_ | name, _ | json⟩
  · rfl
  · rfl
  · simp only [load, readFile, h name rfl]
  · rfl

theorem compile_congr {arguments : QueryArguments} {files others : FileTree}
    (h : ∀ name, arguments.file = some name → others.readText name = files.readText name) :
    arguments.compile others = arguments.compile files := by
  rw [compile, compile, load_congr h]

theorem compile_eq_ok_iff {arguments : QueryArguments} {files : FileTree} {query : Query}
    {compiled : CompiledQuery} :
    arguments.compile files = .ok (query, compiled) ↔
      arguments.load files = .ok query ∧ query.compile = .ok compiled := by
  rw [compile, bind_eq_ok]
  simp only [bind_eq_ok, mapError_eq_ok, Except.ok.injEq, Prod.mk.injEq]
  constructor
  · rintro ⟨_, hload, _, hcompile, rfl, rfl⟩
    exact ⟨hload, hcompile⟩
  · rintro ⟨hload, hcompile⟩
    exact ⟨query, hload, compiled, hcompile, rfl, rfl⟩

end QueryArguments

namespace CommandLine

variable {arguments : ProcessArguments} {around : Surrounding}

/-- What must have succeeded before a run touches its output. -/
structure IsReady (arguments : ProcessArguments) (around : Surrounding) : Prop where
  query : ∃ queries, arguments.query.compile around.files = .ok queries
  log : ∃ source, logSource around around.files (file? arguments.input) = .ok source

/-- Why a run is not set up. -/
inductive GivesUp (arguments : ProcessArguments) (files : FileTree) : Prop where
  | bothQueries {name text : String} : arguments.query = ⟨some name, some text⟩ →
      GivesUp arguments files
  | noQuery : arguments.query = ⟨none, none⟩ → GivesUp arguments files
  /-- The query file cannot be read. -/
  | unreadable {name : String} {error : FileError} : arguments.query = ⟨some name, none⟩ →
      files.readText name = .error error → GivesUp arguments files
  | malformedText {text : String} {error : QueryError} : arguments.query = ⟨none, some text⟩ →
      Query.ofJsonText text = .error error → GivesUp arguments files
  | malformedFile {name text : String} {error : QueryError} :
      arguments.query = ⟨some name, none⟩ → files.readText name = .ok text →
      (if isYamlName name then Query.ofYamlText text else Query.ofJsonText text) = .error error →
      GivesUp arguments files
  /-- The query has no compiled form. -/
  | invalid {query : Query} {error : QueryError} : arguments.query.load files = .ok query →
      query.compile = .error error → GivesUp arguments files
  /-- The log cannot be opened. -/
  | noLog {name : String} {error : FileError} : file? arguments.input = some name →
      files.find name = .error error → GivesUp arguments files

/-! ### Runs that are not set up -/

theorem process_of_rejected {error : LoadError}
    (h : arguments.query.compile around.files = .error error) :
    process arguments around = .failure around.files error.message := by
  rw [process, h]

theorem process_of_no_log {queries : Query × CompiledQuery} {error : FileError}
    (hquery : arguments.query.compile around.files = .ok queries)
    (hlog : logSource around around.files (file? arguments.input) = .error error) :
    process arguments around = .failure around.files
      ("Failed to open input file '" ++ arguments.input.getD "" ++ "': " ++ error.message) := by
  rw [process, hquery]
  simp only [hlog]

/-- A run that is not set up ends with a message and leaves the files alone. -/
theorem process_of_not_ready (h : ¬ IsReady arguments around) :
    ∃ message, process arguments around = .failure around.files message := by
  cases hquery : arguments.query.compile around.files with
  | error error => exact ⟨_, process_of_rejected hquery⟩
  | ok queries =>
      cases hlog : logSource around around.files (file? arguments.input) with
      | error error => exact ⟨_, process_of_no_log hquery hlog⟩
      | ok source => exact absurd ⟨⟨queries, hquery⟩, ⟨source, hlog⟩⟩ h

theorem logSource_eq_error_iff {files : FileTree} {name : Option String} {error : FileError} :
    logSource around files name = .error error ↔
      ∃ log, name = some log ∧ files.find log = .error error := by
  cases name with
  | none => exact ⟨nofun, nofun⟩
  | some log =>
      rw [logSource]
      cases hfind : files.find log with
      | error found => simp only [hfind, Option.some.injEq, Except.error.injEq, exists_eq_left']
      | ok entry =>
          cases entry with
          | directory => simp [hfind]
          | file bytes => simp [hfind]

/-- What keeps a query from being compiled. -/
theorem givesUp_of_rejected {error : LoadError}
    (h : arguments.query.compile around.files = .error error) :
    GivesUp arguments around.files := by
  cases hload : arguments.query.load around.files with
  | ok query =>
      cases hcompile : query.compile with
      | error found => exact .invalid hload hcompile
      | ok compiled =>
          rw [QueryArguments.compile_eq_ok_iff.mpr ⟨hload, hcompile⟩] at h
          cases h
  | error found =>
      rcases hquery : arguments.query with ⟨_ | name, _ | text⟩
      · exact .noQuery hquery
      · rw [hquery, QueryArguments.load_json] at hload
        cases hread : Query.ofJsonText text with
        | error problem => exact .malformedText hquery hread
        | ok query =>
            rw [hread] at hload
            cases hload
      · rw [hquery] at hload
        cases htext : around.files.readText name with
        | error problem => exact .unreadable hquery htext
        | ok text =>
            cases hread : if isYamlName name then Query.ofYamlText text
                else Query.ofJsonText text with
            | error problem => exact .malformedFile hquery htext hread
            | ok query =>
                rw [QueryArguments.load_text htext, hread] at hload
                cases hload
      · exact .bothQueries hquery

/-- A run is not set up for one of these reasons and for no other. -/
theorem givesUp_iff : GivesUp arguments around.files ↔ ¬ IsReady arguments around := by
  constructor
  · intro h hready
    rcases hready with ⟨⟨⟨query, compiled⟩, hquery⟩, ⟨source, hlog⟩⟩
    rcases QueryArguments.compile_eq_ok_iff.mp hquery with ⟨hload, hcompile⟩
    have hrejected : ∀ error, arguments.query.load around.files ≠ .error error := by
      intro error herror
      cases herror.symm.trans hload
    cases h with
    | bothQueries harguments => exact hrejected _ (by rw [harguments]; rfl)
    | noQuery harguments => exact hrejected _ (by rw [harguments]; rfl)
    | unreadable harguments htext =>
        exact hrejected _ (by rw [harguments, QueryArguments.load_unreadable htext])
    | malformedText harguments hread =>
        exact hrejected _ (by rw [harguments, QueryArguments.load_json, hread]; rfl)
    | malformedFile harguments htext hread =>
        exact hrejected _ (by rw [harguments, QueryArguments.load_text htext, hread]; rfl)
    | invalid hfound herror =>
        cases hfound.symm.trans hload
        cases herror.symm.trans hcompile
    | noLog hname hfind =>
        rw [logSource_eq_error_iff.mpr ⟨_, hname, hfind⟩] at hlog
        cases hlog
  · intro h
    cases hquery : arguments.query.compile around.files with
    | error error => exact givesUp_of_rejected hquery
    | ok queries =>
        cases hlog : logSource around around.files (file? arguments.input) with
        | ok source => exact absurd ⟨⟨queries, hquery⟩, ⟨source, hlog⟩⟩ h
        | error error =>
            rcases logSource_eq_error_iff.mp hlog with ⟨name, hname, hfind⟩
            exact .noLog hname hfind

/-- A run that gives up before it streams prints nothing, has the exit code 1 and
    leaves every file as it was, the output file among them. -/
theorem run_gives_up_untouched {words : List String}
    (hwords : Invocation.ofArguments words = .process arguments)
    (h : GivesUp arguments around.files) :
    (run words around).code = 1 ∧ (run words around).output = [] ∧
      (run words around).files = around.files := by
  rcases process_of_not_ready (givesUp_iff.mp h) with ⟨message, hprocess⟩
  rw [run, hwords, execute, hprocess]
  exact ⟨rfl, rfl, rfl⟩

/-- An output file that holds something from before, and no log. -/
def formerOutput : Surrounding := { input := [], files := .ofFiles [("out.jsonl", [0x78, 0x0a])] }

/-- Words that are in order, but for the log. -/
def missingLog : List String :=
  ["process", "log.txt", "-o", "out.jsonl", "--query-json", "\x7b\"operations\":[]\x7d"]

theorem run_gives_up_untouched_missingLog :
    ∃ arguments, Invocation.ofArguments missingLog = .process arguments ∧
      GivesUp arguments formerOutput.files ∧
      (run missingLog formerOutput).code = 1 ∧ (run missingLog formerOutput).output = [] ∧
      (run missingLog formerOutput).files.get? "out.jsonl" = some [0x78, 0x0a] := by
  obtain ⟨arguments, hwords, hinput⟩ : ∃ arguments,
      Invocation.ofArguments missingLog = .process arguments ∧
        file? arguments.input = some "log.txt" := ⟨_, rfl, rfl⟩
  have hgives : GivesUp arguments formerOutput.files := .noLog hinput rfl
  rcases run_gives_up_untouched hwords hgives with ⟨hcode, houtput, hfiles⟩
  refine ⟨arguments, hwords, hgives, hcode, houtput, ?_⟩
  rw [hfiles]
  rfl

/-! ### Files that a run touches -/

/-- Whether two names are names of one file. -/
def SameFile (name other : String) : Prop :=
  FileName.join (FileName.parts name) = FileName.join (FileName.parts other)

instance (name other : String) : Decidable (SameFile name other) :=
  inferInstanceAs (Decidable (_ = _))

theorem get?_write_of_other {name other : String} (h : ¬ SameFile name other) (files : FileTree)
    (bytes : Bytes) : (files.write name bytes).get? other = files.get? other := by
  rw [FileTree.get?, FileTree.write, Bindings.get?_set, if_neg (Ne.symm h), FileTree.get?]

theorem create_eq_ok {files made : FileTree} {name : String} (h : files.create name = .ok made) :
    made = files.write name [] := by
  simp only [FileTree.create] at h
  split at h
  · cases h
  split at h
  · cases h
  split at h
  · cases h
  split at h
  · cases h
  split at h
  · cases h
  · cases h
    rfl

/-- What is streamed goes to standard output or to the output file. -/
theorem stream_touches_only_output {other : String}
    (h : ∀ name, file? arguments.output = some name → ¬ SameFile name other)
    (query : CompiledQuery) (files : FileTree) :
    (stream query arguments around files).files.get? other = files.get? other := by
  rw [stream]
  split
  · rfl
  · split
    next name hname => exact get?_write_of_other (h name hname) files _
    · rfl

/-- A command changes no file but the output of `process`. -/
theorem run_touches_only_output {words : List String} {other : String}
    (h : ∀ arguments name, Invocation.ofArguments words = .process arguments →
      file? arguments.output = some name → ¬ SameFile name other) :
    (run words around).files.get? other = around.files.get? other := by
  rw [run]
  cases hwords : Invocation.ofArguments words with
  | help => rfl
  | version => rfl
  | misuse => rfl
  | check query =>
      rw [execute, check]
      split <;> rfl
  | process arguments =>
      have hother := fun name => h arguments name hwords
      rw [execute, process]
      split
      · rfl
      split
      · rfl
      split
      · rfl
      rw [openAndStream]
      split
      · exact stream_touches_only_output hother _ _
      · next name hname =>
        split
        · next files hcreate =>
          rw [stream_touches_only_output hother, create_eq_ok hcreate]
          exact get?_write_of_other (hother name hname) _ _
        · rfl

end CommandLine

end LogQuery
