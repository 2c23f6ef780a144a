import LogQuery.Proofs.CommandLine.Delivery
import LogQuery.Proofs.Stream.FailFast

/-!
# Exit Codes

The exit code of `process` can be told from the log and the query, without
running anything: 1 if some line of the log cannot be read, else 2 if the log has
records and the query drops them all, else 0. Nothing else has a part in it. How
bad lines are dealt with, how the output is written and colored and where it goes
make no difference (`exit_code_of_log`).

A run computes its code in one of two ways. If it goes on without bad lines, the
code comes from its counts, which say as much as the lines themselves
(`deliver_skip_code`). If it fails fast, it stops at the first bad line with the
code 1, and a bad line is what makes the code of the other run 1, too; without
one, the policy does not matter (`deliver_code`).

That holds as long as there is a buffer to read through. A run whose buffer cannot
be had ends with a code of its own, on any log (`exit_code_of_impossible_buffer`).

## Main definitions

* `LineFormat.Unreadable`: A line that cannot become a record, and why.
* `StreamConfig.reading`: How lines are read, and nothing else of a configuration.
* `CommandLine.codeOf`: The exit code for a log.

## Theorems

* `unreadable_iff`: The lines about which something is to be said are unreadable.
* `codeOf_eq_one_iff`, `codeOf_eq_two_iff`: What the codes mean.
* `deliver_code`: A run delivers the code for its log.
* `exit_code_of_log`: The exit code of a command line.
* `exit_code_of_impossible_buffer`: A code that says nothing of the log.
-/

namespace LogQuery

/-! ### Unreadable lines -/

/-- Why a line cannot become a record: it is too long, it is no text, or its format
    refuses it. -/
inductive LineFormat.Unreadable (format : LineFormat) (limit : Nat) (line : Bytes) : Prop where
  | tooLong : limit < line.length → Unreadable format limit line
  | noText {fault : Utf8.Fault} : Utf8.decode line = .error fault → Unreadable format limit line
  | refused {text : List Char} {fault : LineFault} : Utf8.decode line = .ok text →
      format.read text = .error fault → Unreadable format limit line

namespace StreamConfig

theorem unreadable_iff (config : StreamConfig) (line : Bytes) :
    config.inputFormat.Unreadable config.maxLineLength line ↔
      (config.complaint? line).isSome := by
  unfold complaint?
  by_cases hlong : config.maxLineLength < line.length
  · rw [if_pos hlong]
    exact iff_of_true (.tooLong hlong) rfl
  · rw [if_neg hlong]
    cases hdecode : Utf8.decode line with
    | error fault => exact iff_of_true (.noText hdecode) rfl
    | ok text =>
        simp only []
        cases hread : config.inputFormat.read text with
        | error fault => exact iff_of_true (.refused hdecode hread) rfl
        | ok carried =>
            refine iff_of_false (fun h => ?_) Bool.false_ne_true
            cases h with
            | tooLong hlong' => exact hlong hlong'
            | noText hfault => cases hdecode.symm.trans hfault
            | refused htext hfault =>
                cases hdecode.symm.trans htext
                cases hread.symm.trans hfault

/-- How lines are read, with defaults for everything else. -/
def reading (format : LineFormat) (limit : Nat) : StreamConfig :=
  { inputFormat := format, maxLineLength := limit }

end StreamConfig

/-- A run gives out nothing exactly if all its passes end by dropping the record. -/
theorem CompiledQuery.run_eq_nil_iff (query : CompiledQuery) (records : List LogRecord) :
    (query.run records).records = [] ↔
      ∀ p ∈ query.start.passes records, p.left.outcome = .skipped := by
  have houtput : (query.run records).records =
      (query.start.passes records).filterMap RunPass.output? :=
    query.start.output_processAll records
  rw [houtput, List.filterMap_eq_nil_iff]
  refine forall₂_congr fun p _ => ?_
  unfold RunPass.output?
  cases houtcome : p.left.outcome with
  | done => exact iff_of_false (by simp only [if_true, reduceCtorEq, not_false_eq_true]) nofun
  | skipped => exact iff_of_true (if_neg nofun) rfl

namespace CommandLine

/-! ### The code for a log -/

/-- The exit code for a log, from the query and from how lines are read. -/
def codeOf (query : CompiledQuery) (format : LineFormat) (limit : Nat) (log : Bytes) : Nat :=
  let reading := StreamConfig.reading format limit
  let records := reading.records (cutLines log)
  if (cutLines log).any fun line => (reading.complaint? line).isSome then 1
  else if records ≠ [] ∧ (query.run records).records = [] then 2
  else 0

section

variable {query : CompiledQuery} {format : LineFormat} {limit : Nat} {log : Bytes}

theorem any_complaint_iff :
    ((cutLines log).any fun line =>
        ((StreamConfig.reading format limit).complaint? line).isSome) = true ↔
      ∃ line ∈ cutLines log, format.Unreadable limit line := by
  rw [List.any_eq_true]
  refine exists_congr fun line => and_congr_right fun _ => ?_
  exact ((StreamConfig.reading format limit).unreadable_iff line).symm

theorem codeOf_eq_one_iff :
    codeOf query format limit log = 1 ↔ ∃ line ∈ cutLines log, format.Unreadable limit line := by
  rw [← any_complaint_iff, codeOf]
  split
  · next h => exact iff_of_true rfl h
  · next h =>
    refine iff_of_false ?_ h
    split
    · decide
    · decide

/-- Without an unreadable line, the code 2 means that there are records and that the
    query drops all of them. -/
theorem codeOf_eq_two_iff (h : ∀ line ∈ cutLines log, ¬ format.Unreadable limit line) :
    let records := (StreamConfig.reading format limit).records (cutLines log)
    codeOf query format limit log = 2 ↔
      records ≠ [] ∧ ∀ p ∈ query.start.passes records, p.left.outcome = .skipped := by
  intro records
  have hgood : ¬ ((cutLines log).any fun line =>
      ((StreamConfig.reading format limit).complaint? line).isSome) = true := by
    rw [any_complaint_iff]
    rintro ⟨line, hline, hbad⟩
    exact h line hline hbad
  rw [codeOf, if_neg hgood, ← query.run_eq_nil_iff]
  split
  · next hdropped => exact iff_of_true rfl hdropped
  · next hkept => exact iff_of_false (by decide) hkept

theorem codeOf_cases (query : CompiledQuery) (format : LineFormat) (limit : Nat) (log : Bytes) :
    codeOf query format limit log = 0 ∨ codeOf query format limit log = 1 ∨
      codeOf query format limit log = 2 := by
  unfold codeOf
  simp only []
  split
  · exact .inr (.inl rfl)
  · split
    · exact .inr (.inr rfl)
    · exact .inl rfl

end

/-! ### Delivering the code -/

variable {query : CompiledQuery} {config : StreamConfig}

/-- The counts of a run that goes on without bad lines say as much as its lines. -/
theorem deliver_skip_code (hskip : config.badLines = .skip) (hbuffer : 1 ≤ config.bufferSize)
    (log : Bytes) :
    (deliver query config (.ofBytes log)).code =
      codeOf query config.inputFormat config.maxLineLength log := by
  rcases @runStream_advances (.start query config) .empty hskip hbuffer rfl rfl log with
    ⟨s, hrun, hadvance⟩
  have herrors : s.statistics.errors =
      (cutLines log).countP fun line => (config.complaint? line).isSome :=
    hadvance.errors.trans (Nat.zero_add _)
  have hprocessed : s.statistics.processed = (config.records (cutLines log)).length :=
    hadvance.processed.trans (Nat.zero_add _)
  have houtput : s.statistics.output =
      (query.run (config.records (cutLines log))).records.length :=
    hadvance.output.trans (Nat.zero_add _)
  have hbad : 0 < s.statistics.errors ↔
      ((cutLines log).any fun line => (config.complaint? line).isSome) = true := by
    rw [herrors, List.countP_pos_iff, List.any_eq_true]
  -- Records are counted, so the counts are those of lists, which are empty or not.
  have hdropped : 0 < s.statistics.processed ∧ s.statistics.output = 0 ↔
      config.records (cutLines log) ≠ [] ∧
        (query.run (config.records (cutLines log))).records = [] := by
    rw [hprocessed, houtput, List.length_pos_iff, List.length_eq_zero_iff]
  rw [deliver, hrun]
  simp only [exitCode, hbad, hdropped]
  rfl

/-- Without a bad line, a run delivers the same under any policy. -/
theorem deliver_withPolicy {log : Bytes} (hbuffer : 1 ≤ config.bufferSize)
    (h : ∀ line ∈ cutLines log, config.complaint? line = none) (policy : BadLinePolicy) :
    deliver query (config.withPolicy policy) (.ofBytes log) =
      deliver query config (.ofBytes log) := by
  have hlines : ∀ line ∈ ((StreamPipeline.start query config).buffered (.ofBytes log)).lines,
      config.complaint? line = none := by
    have hsize : config.bufferSize ≠ 0 := by omega
    rw [StreamPipeline.lines_buffered, StreamPipeline.delivered, StreamPipeline.start,
      if_neg hsize]
    exact h
  have hsame := process_withPolicy (p := .start query config) hlines policy .empty
  rw [StreamPipeline.process_fst, StreamPipeline.process_fst] at hsame
  have hrun : (StreamPipeline.start query (config.withPolicy policy)).runStream (.ofBytes log)
      .empty = (StreamPipeline.start query config).runStream (.ofBytes log) .empty := hsame
  rw [deliver, deliver, hrun]

/-- A run that fails fast has the code 1 as soon as there is a bad line. -/
theorem deliver_failFast_code {before after : List Bytes} {bad : Bytes} {log : Bytes}
    (hbuffer : 1 ≤ config.bufferSize) (hlines : cutLines log = before ++ bad :: after)
    (hbefore : ∀ line ∈ before, config.complaint? line = none)
    (hbad : (config.complaint? bad).isSome) :
    (deliver query (config.withPolicy .failFast) (.ofBytes log)).code = 1 := by
  -- The stream comes to the bad line as one that goes on would, and stops there.
  rcases @takeLines_skip (.start query config) .empty rfl rfl before with ⟨s, htaken, _, _⟩
  rcases takeLine_failFast hbad s with ⟨_, error, _, hfail, _⟩
  have hstops : (StreamState.start config query .empty).takeLines (config.withPolicy .failFast)
      (before ++ bad :: after) = .fail error s.counted :=
    takeLines_failFast (p := .start query config) hbefore htaken hfail
  have hdelivered : ((StreamPipeline.start query config).withPolicy .failFast).delivered log =
      log := by
    have hsize : config.bufferSize ≠ 0 := by omega
    exact if_neg hsize
  rw [← hlines, ← hdelivered] at hstops
  have hrun := congrArg Prod.fst (StreamPipeline.process_of_fail
    (p := (StreamPipeline.start query config).withPolicy .failFast) hstops)
  rw [StreamPipeline.process_fst] at hrun
  have hdeliver : deliver query (config.withPolicy .failFast) (.ofBytes log) =
      ⟨1, "logview: " ++ streamMessage error ++ "\n", s.counted.sink.written.toList⟩ := by
    have hsame : (StreamPipeline.start query (config.withPolicy .failFast)).runStream
        (.ofBytes log) .empty = (.error error, s.counted.sink) := hrun
    rw [deliver, hsame]
  rw [hdeliver]

/-- A run delivers the code for its log, whatever its policy. -/
theorem deliver_code (hbuffer : 1 ≤ config.bufferSize) (log : Bytes) :
    (deliver query config (.ofBytes log)).code =
      codeOf query config.inputFormat config.maxLineLength log := by
  have hskip : (deliver query (config.withPolicy .skip) (.ofBytes log)).code =
      codeOf query config.inputFormat config.maxLineLength log :=
    @deliver_skip_code query (config.withPolicy .skip) rfl hbuffer log
  cases hpolicy : config.badLines with
  | skip =>
      rw [StreamConfig.withPolicy_self hpolicy] at hskip
      exact hskip
  | failFast =>
      rw [← StreamConfig.withPolicy_self hpolicy]
      cases hfirst : (cutLines log).find? fun line => (config.complaint? line).isSome with
      | none =>
          -- No line is bad, so the run is the one that would go on.
          have hgood : ∀ line ∈ cutLines log, config.complaint? line = none := by
            intro line hline
            have hnot := List.find?_eq_none.mp hfirst line hline
            rw [Bool.not_eq_true, Option.isSome_eq_false_iff, Option.isNone_iff_eq_none] at hnot
            exact hnot
          rw [deliver_withPolicy hbuffer hgood, ← deliver_withPolicy hbuffer hgood .skip]
          exact hskip
      | some bad =>
          rcases List.find?_eq_some_iff_append.mp hfirst with ⟨hbad, before, after, hlines, hnot⟩
          have hbefore : ∀ line ∈ before, config.complaint? line = none := by
            intro line hline
            have hgood := hnot line hline
            rw [Bool.not_eq_true', Option.isSome_eq_false_iff, Option.isNone_iff_eq_none] at hgood
            exact hgood
          have hmem : bad ∈ cutLines log := by
            rw [hlines]
            exact List.mem_append_right _ List.mem_cons_self
          rw [deliver_failFast_code hbuffer hlines hbefore hbad]
          exact (codeOf_eq_one_iff.mpr ⟨bad, hmem, (config.unreadable_iff bad).mpr hbad⟩).symm

/-! ### Command lines -/

/-- The files of a run open: its log can be read, its output can be made if it is a
    file, and that is not the file of the log. -/
structure Opens (arguments : ProcessArguments) (around : Surrounding) (log : Bytes) : Prop where
  log : logSource around around.files (file? arguments.input) = .ok (.ofBytes log)
  output : ∀ name, file? arguments.output = some name → ∃ made, around.files.create name = .ok made
  apart : ∀ name, file? arguments.output = some name → ¬ OverwritesLog name arguments around.files

theorem process_code_of_opens {arguments : ProcessArguments} {around : Surrounding}
    {queries : Query × CompiledQuery} {log : Bytes}
    (hquery : arguments.query.compile around.files = .ok queries)
    (h : Opens arguments around log) (hsize : arguments.bufferSize < impossibleSize) :
    (process arguments around).code =
      (deliver queries.2 (CommandLine.config arguments around) (.ofBytes log)).code := by
  rw [process_of_reads hquery (.of_other h.log h.apart) hsize, deliverTo]
  cases houtput : file? arguments.output with
  | none => rfl
  | some name =>
      rcases h.output name houtput with ⟨made, hcreate⟩
      simp only [hcreate]
      rfl

/-- The exit code of a command line that opens its log and its output, with any
    buffer that can be had: 1 exactly if a line of the log is too long or no text or
    refused by the format, and otherwise 2 exactly if the log has records and the query
    drops all of them, and otherwise 0. It is computed from the query, from how lines
    are read and from the log, so nothing else that is asked for can change it. With a
    buffer that cannot be had, the run ends with the code 101 before it reads. There is
    taken to be memory for every buffer below `impossibleSize`. -/
theorem exit_code_of_log {words : List String} {arguments : ProcessArguments}
    {around : Surrounding} {queries : Query × CompiledQuery} {log : Bytes}
    (hwords : Invocation.ofArguments words = .process arguments)
    (hquery : arguments.query.compile around.files = .ok queries)
    (hopens : Opens arguments around log) (hbuffer : 1 ≤ arguments.bufferSize) :
    let format := arguments.inputFormat
    let limit := arguments.maxLineLength
    let records := (StreamConfig.reading format limit).records (cutLines log)
    let code := (run words around).code
    (arguments.bufferSize < impossibleSize →
      code = codeOf queries.2 format limit log ∧
      (code = 1 ↔ ∃ line ∈ cutLines log, format.Unreadable limit line) ∧
      (code ≠ 1 →
        (code = 2 ↔
          records ≠ [] ∧ ∀ p ∈ queries.2.start.passes records, p.left.outcome = .skipped)) ∧
      (code = 0 ∨ code = 1 ∨ code = 2)) ∧
    (impossibleSize ≤ arguments.bufferSize → run words around = .silent around.files 101) := by
  intro format limit records code
  have hrun : run words around = process arguments around := by
    rw [run, hwords, execute]
  refine ⟨fun hsize => ?_, fun hsize => ?_⟩
  · have hcode : code = codeOf queries.2 format limit log := by
      have hdelivered := process_code_of_opens hquery hopens hsize
      rw [← hrun] at hdelivered
      exact hdelivered.trans (deliver_code hbuffer log)
    refine ⟨hcode, ?_, fun hne => ?_, ?_⟩
    · rw [hcode]
      exact codeOf_eq_one_iff
    · rw [hcode] at hne ⊢
      refine codeOf_eq_two_iff fun line hline hbad => ?_
      exact hne (codeOf_eq_one_iff.mpr ⟨line, hline, hbad⟩)
    · rw [hcode]
      exact codeOf_cases queries.2 format limit log
  · rw [hrun]
    exact process_impossible hquery hopens.log hsize

/-- A log of pairs, the second line of which is none. -/
def brokenLog : Surrounding :=
  { input := [], files := .ofFiles [("log.txt", Utf8.ofString "a=1\nbroken\n")] }

/-- Words for a run that is to fail fast and to write in color to a file. -/
def failingWords : List String :=
  ["process", "log.txt", "--query-json", everyRecord, "--input-format", "logfmt", "--fail-fast",
    "--output-format", "line", "--color", "always", "-o", "out.txt"]

/-- What these words ask for. -/
def failingArguments : ProcessArguments where
  query := ⟨none, some everyRecord⟩
  input := some "log.txt"
  output := some "out.txt"
  inputFormat := .logfmt
  outputFormat := .line
  color := .always
  failFast := true
  progress := none
  maxLineLength := 1048576
  bufferSize := 65536

/-- The run writes its first record and fails at the second line. -/
theorem exit_code_of_log_brokenLog :
    Invocation.ofArguments failingWords = .process failingArguments ∧
      failingArguments.query.compile brokenLog.files = .ok (⟨[]⟩, ⟨[]⟩) ∧
      Opens failingArguments brokenLog (Utf8.ofString "a=1\nbroken\n") ∧
      1 ≤ failingArguments.bufferSize ∧ failingArguments.bufferSize < impossibleSize ∧
      (run failingWords brokenLog).code = 1 := by
  have hwords : Invocation.ofArguments failingWords = .process failingArguments := by
    decide +kernel
  have hbroken : LineFormat.Unreadable .logfmt 1048576 (Utf8.ofString "broken") :=
    ((StreamConfig.reading .logfmt 1048576).unreadable_iff _).mpr (by decide +kernel)
  have hopens : Opens failingArguments brokenLog (Utf8.ofString "a=1\nbroken\n") :=
    { log := rfl
      output := by
        rintro name hname
        cases hname
        exact ⟨_, rfl⟩
      apart := by
        rintro name hname ⟨log, found, hlog, _, hsame⟩
        cases hname
        cases hlog
        exact absurd hsame (by decide) }
  have hcode := (exit_code_of_log hwords (compile_everyRecord _) hopens (by decide)).1 (by decide)
  exact ⟨hwords, compile_everyRecord _, hopens, by decide, by decide,
    hcode.2.1.mpr ⟨Utf8.ofString "broken", by decide, hbroken⟩⟩

/-- Nothing on standard input, and no files. -/
def nothingAround : Surrounding := { input := [], files := .ofFiles [] }

/-- Words for a run with a buffer that cannot be had. -/
def greedyWords : List String :=
  ["process", "--query-json", everyRecord, "--buffer-size", "9223372036854775808"]

/-- A run with a buffer that cannot be had ends with a code of its own, though its log
    is empty, so that no line is unreadable and no record is dropped. -/
theorem exit_code_of_impossible_buffer :
    ∃ arguments, Invocation.ofArguments greedyWords = .process arguments ∧
      arguments.query.compile nothingAround.files = .ok (⟨[]⟩, ⟨[]⟩) ∧
      Opens arguments nothingAround [] ∧ 1 ≤ arguments.bufferSize ∧
      (∀ line ∈ cutLines [],
        ¬ arguments.inputFormat.Unreadable arguments.maxLineLength line) ∧
      (StreamConfig.reading arguments.inputFormat arguments.maxLineLength).records
        (cutLines []) = [] ∧
      (run greedyWords nothingAround).code = 101 := by
  have hwords : Invocation.ofArguments greedyWords = .process
      { query := ⟨none, some everyRecord⟩, input := none, output := none, inputFormat := .line,
        outputFormat := .jsonl, color := .auto, failFast := false, progress := none,
        maxLineLength := 1048576, bufferSize := impossibleSize } := by
    decide +kernel
  refine ⟨_, hwords, compile_everyRecord _, ⟨rfl, nofun, nofun⟩, by decide, nofun, rfl, ?_⟩
  rw [run, hwords, execute, process_impossible (compile_everyRecord _) rfl (Nat.le_refl _)]
  rfl

end CommandLine

end LogQuery
