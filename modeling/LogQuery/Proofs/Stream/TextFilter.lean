import LogQuery.Proofs.Independence
import LogQuery.Proofs.Stream.TextLines
import LogQuery.Proofs.Text.Trim
import Mathlib.Data.List.Basic

/-!
# Filtering Text

A pipeline from text to text without colors is a filter: it drops some lines and
keeps the others. It does not keep them quite as they are. A carriage return in
front of the newline goes, and the last line gets a newline if it had none, and
lines that are too long or no text are left out. Filtering a second time changes
nothing any more, as long as no record is judged by those before it
(`text_filtered_again`).

What is written for a record is a line that gives the record back. Such a record
is called settled here: its line is not bad, has no newline and carries the very
same record. Every record that is read off a line of text is settled
(`settled_of_record?`), because trimming twice is trimming once, and because what
is left of a line is no longer than the line. So the second stream sees the
records that the first one has given out, and the query, which has no memory,
gives each of them the answer of the first time (`run_again`).

## Main definitions

* `StreamPipeline.FiltersText`: A pipeline from text to text.
* `StreamConfig.Settled`: A record that its line gives back.

## Theorems

* `settled_of_record?`: Records that are read off lines of text are settled.
* `rows_of_plain`: The lines of output are the texts of the records.
* `run_again`: Records that have been given out once are given out again.
* `process_of_skip`: A stream that goes on without its bad lines ends well.
* `emitted_again`: What a filter gives out for its own output.
* `process_filtered`: What a filter does to its own output.
* `text_filtered_again`: Filtering twice is filtering once.
-/

namespace LogQuery

/-! ### Settled records -/

theorem Utf8.length_encode_of_prefix {front cs : List Char} (h : front <+: cs) :
    (encode front).length ≤ (encode cs).length := by
  rcases h with ⟨back, rfl⟩
  rw [encode_append, List.length_append]
  exact Nat.le_add_right _ _

/-- A record that its line gives back: the line is not bad, it is a single line,
    and it carries the record. -/
structure StreamConfig.Settled (config : StreamConfig) (r : LogRecord) : Prop where
  newline : newlines (Logfmt.record r) = 0
  complaint : config.complaint? (Utf8.ofString (Logfmt.record r)) = none
  record : config.record? (Utf8.ofString (Logfmt.record r)) = some r

/-- The record of a line of text is settled: no more can be trimmed off its text,
    which is no longer than the line was. -/
theorem StreamConfig.settled_of_record? {config : StreamConfig} {line : Bytes} {r : LogRecord}
    (hformat : config.inputFormat = .line) (hline : 0x0a ∉ line)
    (h : config.record? line = some r) : config.Settled r := by
  have hnewlines := newlines_of_record? hline h
  have hnames : r.newlinesInNames = 0 := hnewlines.2 (by rw [hformat]; decide)
  unfold record? at h
  by_cases hlong : config.maxLineLength < line.length
  · rw [if_pos hlong] at h
    cases h
  rw [if_neg hlong, hformat] at h
  cases hdecode : Utf8.decode line with
  | error fault =>
      rw [hdecode] at h
      cases h
  | ok text =>
      rw [hdecode] at h
      cases h
      have hbytes : line = Utf8.encode text := Utf8.decode_eq_ok_iff.mp hdecode
      -- The line of the record is the front of the line that it was read off.
      have hrow : Utf8.ofString (Logfmt.record (.ofText (String.ofList
          (trimEnd (· == '\r') text)))) = Utf8.encode (trimEnd (· == '\r') text) := by
        rw [Logfmt.record, LogRecord.ofText, Option.getD_some, Utf8.ofString,
          String.toList_ofList]
      have hshort : ¬ config.maxLineLength < (Utf8.encode (trimEnd (· == '\r') text)).length := by
        have hle := Utf8.length_encode_of_prefix (trimEnd_isPrefix (· == '\r') text)
        rw [← hbytes] at hle
        omega
      refine ⟨hnewlines.1.trans hnames, ?_, ?_⟩
      · rw [hrow, complaint?, if_neg hshort, hformat, Utf8.decode_encode]
        rfl
      · rw [hrow, record?, if_neg hshort, hformat, Utf8.decode_encode]
        simp only [LineFormat.read, trimEnd_trimEnd]
        rfl

/-! ### Lines without colors -/

namespace OutputFormatter

/-- Without colors, the line of a record is its text. -/
theorem write_of_plain {f : OutputFormatter} (hf : f.format = .line) (hcolors : f.useColors = false)
    (o : OutputRecord) : f.write o = (Logfmt.record o.record ++ "\n", f) := by
  have hcode : f.code o = (none, f) := by
    unfold code
    split
    · rw [hcolors]
      rfl
    · rfl
  rw [write, hf, hcode]
  rfl

theorem rows_of_plain {f : OutputFormatter} (hf : f.format = .line) (hcolors : f.useColors = false)
    (os : List OutputRecord) :
    f.rows os = os.map fun o => Utf8.ofString (Logfmt.record o.record) := by
  induction os with
  | nil => rfl
  | cons o rest ih =>
      have hrow : (Utf8.ofString (Logfmt.record o.record ++ "\n")).dropLast =
          Utf8.ofString (Logfmt.record o.record) := by
        have hend : Utf8.encode "\n".toList = [0x0a] := rfl
        rw [Utf8.ofString, String.toList_append, Utf8.encode_append, hend, List.dropLast_concat]
        rfl
      rw [rows, write_of_plain hf hcolors, hrow, ih, List.map_cons]

end OutputFormatter

/-! ### Queries without a memory -/

theorem QueryRun.record_of_process {run : QueryRun} {record : LogRecord} {o : OutputRecord}
    (h : (run.process record).1 = some o) : o.record = record := by
  unfold process output? at h
  simp only [] at h
  split at h
  · cases h
    rfl
  · cases h

/-- A query that reads nothing of the past gives out what it has given out before,
    with the same colors and variables, and drops nothing of it. -/
theorem CompiledQuery.run_again {q : CompiledQuery} (h : q.pastNames = [])
    (records : List LogRecord) :
    (q.run ((q.run records).records.map fun o => o.record)).records = (q.run records).records := by
  have hrun : ∀ records, (q.run records).records =
      records.filterMap fun record => (q.start.process record).1 :=
    QueryRun.processAll_of_no_past h .empty
  rw [hrun ((q.run records).records.map _), List.filterMap_map]
  have hanswer : ∀ o ∈ (q.run records).records,
      ((fun record => (q.start.process record).1) ∘ fun o => o.record) o = some o := by
    intro o ho
    rw [hrun, List.mem_filterMap] at ho
    rcases ho with ⟨record, _, hgiven⟩
    have hsame := QueryRun.record_of_process hgiven
    rw [Function.comp_apply, hsame, hgiven]
  rw [List.filterMap_congr hanswer, List.filterMap_some]

/-! ### Pipelines from text to text -/

/-- A pipeline that takes text to text line by line: it goes on without bad lines,
    uses no colors, and its query judges no record by those before it. -/
structure StreamPipeline.FiltersText (p : StreamPipeline) : Prop where
  badLines : p.config.badLines = .skip
  inputFormat : p.config.inputFormat = .line
  outputFormat : p.config.outputFormat = .line
  useColors : p.config.useColors = false
  pastNames : p.query.pastNames = []

namespace StreamPipeline

variable {p : StreamPipeline} {sink : Sink} {input : Bytes}

/-- A stream that goes on without its bad lines ends well with any buffer if its
    sink does not fail, having advanced over what comes through the buffer. -/
theorem process_of_skip (hskip : p.config.badLines = .skip) (hroom : sink.room = none)
    (hflush : sink.flushFailure = none) (input : Bytes) :
    ∃ s, (p.process (.ofBytes input) sink).1 = (.ok s.statistics, s.sink) ∧
      Advances p.config (.start p.config p.query sink) (cutLines (p.delivered input)) s := by
  rcases takeLines_skip hroom hflush (cutLines (p.delivered input)) with
    ⟨s, hlines, hend, hadvance⟩
  rw [StreamConfig.withPolicy_self hskip] at hlines hadvance
  exact ⟨s, process_of_goOn hlines hend, hadvance⟩

theorem emitted_of_skip (hskip : p.config.badLines = .skip) (input : Bytes) :
    p.emitted (.ofBytes input) =
      (p.query.run (p.config.records (cutLines (p.delivered input)))).records := by
  rw [emitted, StreamConfig.taken_of_skip hskip, lines_buffered]

/-- What is given out as text is settled. -/
theorem FiltersText.settled (h : p.FiltersText) {o : OutputRecord}
    (ho : o ∈ p.emitted (.ofBytes input)) : p.config.Settled o.record := by
  rcases line_of_mem_emitted ho with ⟨line, hline, hrecord⟩
  exact StreamConfig.settled_of_record? h.inputFormat hline hrecord

/-- The bytes that a filter writes for an input. -/
def filtered (p : StreamPipeline) (input : Bytes) : Bytes :=
  ((OutputFormatter.start p.config.outputFormat p.config.useColors).writeAll
    (p.emitted (.ofBytes input))).1

/-- What a filter has written comes through its own buffer as the texts of the
    records that it has given out. -/
theorem FiltersText.cutLines_filtered (h : p.FiltersText) (input : Bytes) :
    cutLines (p.delivered (p.filtered input)) =
      (p.emitted (.ofBytes input)).map fun o => Utf8.ofString (Logfmt.record o.record) := by
  by_cases hsize : p.config.bufferSize = 0
  · -- Nothing comes through this buffer, and so nothing has been given out.
    have hnone : p.emitted (.ofBytes input) = [] := by
      rw [emitted_of_skip h.badLines, delivered, if_pos hsize]
      rfl
    rw [delivered, if_pos hsize, hnone]
    rfl
  · rw [delivered, if_neg hsize, filtered,
      OutputFormatter.cutLines_writeAll h.outputFormat fun o ho => (h.settled ho).newline,
      OutputFormatter.rows_of_plain h.outputFormat h.useColors]

/-- The lines of what a filter has written carry the records that it has given
    out. -/
theorem FiltersText.records_filtered (h : p.FiltersText) (input : Bytes) :
    p.config.records (cutLines (p.delivered (p.filtered input))) =
      (p.emitted (.ofBytes input)).map fun o => o.record := by
  rw [h.cutLines_filtered, StreamConfig.records, List.filterMap_map]
  exact List.filterMap_eq_map_iff_forall_eq_some.mpr fun o ho => (h.settled ho).record

/-- A filter gives out for its own output what it has given out before. -/
theorem FiltersText.emitted_again (h : p.FiltersText) (input : Bytes) :
    p.emitted (.ofBytes (p.filtered input)) = p.emitted (.ofBytes input) := by
  rw [emitted_of_skip h.badLines, h.records_filtered, emitted_of_skip h.badLines input]
  exact CompiledQuery.run_again h.pastNames _

theorem FiltersText.no_complaints (h : p.FiltersText) (input : Bytes) :
    ∀ line ∈ cutLines (p.delivered (p.filtered input)), p.config.complaint? line = none := by
  intro line hline
  rw [h.cutLines_filtered] at hline
  rcases List.mem_map.mp hline with ⟨o, ho, rfl⟩
  exact (h.settled ho).complaint

/-- A filter writes what it gives out, and counts it. -/
theorem FiltersText.process_eq (h : p.FiltersText) (hroom : sink.room = none)
    (hflush : sink.flushFailure = none) (input : Bytes) :
    ∃ (counts : Statistics) (sink' : Sink),
      (p.process (.ofBytes input) sink).1 = (.ok counts, sink') ∧
      sink'.written.toList = sink.written.toList ++ p.filtered input ∧
      counts.output = (p.emitted (.ofBytes input)).length := by
  rcases process_of_skip h.badLines hroom hflush input with ⟨s, hprocess, hadvance⟩
  have hgiven : (StreamState.start p.config p.query sink).outputs p.config
      (cutLines (p.delivered input)) = p.emitted (.ofBytes input) :=
    (emitted_of_skip h.badLines input).symm
  have hwritten := hadvance.written
  have hcounted := hadvance.output
  rw [hgiven] at hwritten hcounted
  exact ⟨s.statistics, s.sink, hprocess, hwritten, hcounted.trans (Nat.zero_add _)⟩

/-- A filter that is given what it has written takes exactly the records that it has
    given out, and gives out all of them. -/
theorem FiltersText.process_filtered (h : p.FiltersText) (hroom : sink.room = none)
    (hflush : sink.flushFailure = none) (input : Bytes) :
    ∃ (counts : Statistics) (sink' : Sink),
      (p.process (.ofBytes (p.filtered input)) sink).1 = (.ok counts, sink') ∧
      sink'.written.toList = sink.written.toList ++ p.filtered input ∧
      counts.errors = 0 ∧ counts.badLines.toList = [] ∧ counts.skipped = 0 ∧
      counts.processed = (p.emitted (.ofBytes input)).length ∧
      counts.output = (p.emitted (.ofBytes input)).length := by
  rcases process_of_skip h.badLines hroom hflush (p.filtered input) with ⟨s, hprocess, hadvance⟩
  have hgiven : (StreamState.start p.config p.query sink).outputs p.config
      (cutLines (p.delivered (p.filtered input))) = p.emitted (.ofBytes input) :=
    (emitted_of_skip h.badLines (p.filtered input)).symm.trans (h.emitted_again input)
  have htaken : (p.config.records (cutLines (p.delivered (p.filtered input)))).length =
      (p.emitted (.ofBytes input)).length := by
    rw [h.records_filtered, List.length_map]
  have hnone : ∀ line ∈ cutLines (p.delivered (p.filtered input)),
      ¬ (p.config.complaint? line).isSome := by
    intro line hline
    rw [h.no_complaints input line hline]
    exact Bool.false_ne_true
  have hwritten := hadvance.written
  have hcounted := hadvance.output
  have hskipped := hadvance.skipped
  have hprocessed := hadvance.processed
  have herrors := hadvance.errors
  have hbad := hadvance.badLines
  rw [hgiven] at hwritten hcounted hskipped
  rw [htaken] at hskipped hprocessed
  rw [List.countP_eq_zero.mpr hnone] at herrors
  rw [StreamConfig.badLinesFrom_eq_nil (h.no_complaints input)] at hbad
  refine ⟨s.statistics, s.sink, hprocess, hwritten, herrors, hbad, ?_, ?_, ?_⟩
  · exact Nat.add_right_cancel hskipped
  · exact hprocessed.trans (Nat.zero_add _)
  · exact hcounted.trans (Nat.zero_add _)

end StreamPipeline

/-- Filtering text a second time changes nothing. A filter writes some bytes for an
    input, whatever bytes that is. A stream with the same query and configuration
    ends well on these bytes and writes the very same ones; it meets no bad line,
    and of the records, which are as many as were given out before, it drops none. -/
theorem text_filtered_again (p : StreamPipeline) (h : p.FiltersText) (sink : Sink)
    (hroom : sink.room = none) (hflush : sink.flushFailure = none) (input : Bytes) :
    ∃ (counts : Statistics) (sink' : Sink) (bytes : Bytes),
      (p.process (.ofBytes input) sink).1 = (.ok counts, sink') ∧
      sink'.written.toList = sink.written.toList ++ bytes ∧
      ∀ (total : Statistics) (other : Sink), other.room = none → other.flushFailure = none →
        ∃ (countsAgain : Statistics) (other' : Sink),
          (StreamPipeline.process ⟨p.query, p.config, total⟩ (.ofBytes bytes) other).1 =
            (.ok countsAgain, other') ∧
          other'.written.toList = other.written.toList ++ bytes ∧
          countsAgain.errors = 0 ∧ countsAgain.badLines.toList = [] ∧
          countsAgain.skipped = 0 ∧ countsAgain.processed = counts.output ∧
          countsAgain.output = counts.output := by
  rcases h.process_eq hroom hflush input with ⟨counts, sink', hprocess, hwritten, hcounted⟩
  refine ⟨counts, sink', p.filtered input, hprocess, hwritten, fun total other hroom' hflush' => ?_⟩
  -- The total of a pipeline has no part in what a stream does.
  have hagain : (⟨p.query, p.config, total⟩ : StreamPipeline).FiltersText :=
    ⟨h.badLines, h.inputFormat, h.outputFormat, h.useColors, h.pastNames⟩
  rcases hagain.process_filtered hroom' hflush' input with
    ⟨countsAgain, other', hprocess', hwritten', herrors, hbad, hskipped, hprocessed, houtput⟩
  exact ⟨countsAgain, other', hprocess', hwritten', herrors, hbad, hskipped,
    hprocessed.trans hcounted.symm, houtput.trans hcounted.symm⟩

/-- A query that keeps the records with an `a` in them, each colored by it. -/
def keepingQuery : Query :=
  ⟨[.branch ⟨.record, "a"⟩ [.colorBy (.constant (.string "red"))] [.skipRecord]]⟩

/-- A line with two carriage returns, one without an `a`, one that is no text, one
    that is too long, and one without a newline. -/
def untidyInput : Bytes :=
  Utf8.ofString "a1\r\r\nb\n" ++ [0xff, 0x0a] ++ Utf8.ofString "aaaaaaaaa\n2a"

/-- The filter of this query for lines of at most eight bytes. -/
def keepingPipeline (query : CompiledQuery) : StreamPipeline :=
  .start query { maxLineLength := 8, outputFormat := .line }

/-- The two lines with an `a` are tidied up, and from then on they stay as they
    are. -/
theorem text_filtered_again_untidyInput :
    ∃ query : CompiledQuery, keepingQuery.compile = .ok query ∧
      (keepingPipeline query).FiltersText ∧ Sink.empty.room = none ∧
      Sink.empty.flushFailure = none ∧
      ∃ (countsAgain : Statistics) (other' : Sink),
        ((keepingPipeline query).process (.ofBytes (Utf8.ofString "a1\n2a\n")) .empty).1 =
          (.ok countsAgain, other') ∧
        other'.written.toList = Utf8.ofString "a1\n2a\n" ∧ countsAgain.errors = 0 ∧
        countsAgain.skipped = 0 := by
  have hfirst : (keepingQuery.compile.toOption.map fun query =>
      (query.pastNames,
        ((keepingPipeline query).process (.ofBytes untidyInput) .empty).1.2.written.toList)) =
      some ([], Utf8.ofString "a1\n2a\n") := by
    decide +kernel
  cases hc : keepingQuery.compile with
  | error e =>
      rw [hc] at hfirst
      cases hfirst
  | ok query =>
      rw [hc] at hfirst
      have hboth := Option.some.inj hfirst
      rw [Prod.mk.injEq] at hboth
      rcases hboth with ⟨hnames, hbytes⟩
      have hfilters : (keepingPipeline query).FiltersText := ⟨rfl, rfl, rfl, rfl, hnames⟩
      rcases text_filtered_again (keepingPipeline query) hfilters .empty rfl rfl untidyInput with
        ⟨counts, sink', bytes, hprocess, hwritten, hagain⟩
      have hsame : bytes = Utf8.ofString "a1\n2a\n" := by
        rw [hprocess] at hbytes
        exact hwritten.symm.trans hbytes
      rw [hsame] at hagain
      rcases hagain .zero .empty rfl rfl with
        ⟨countsAgain, other', hprocess', hwritten', herrors, _, hskipped, _, _⟩
      exact ⟨query, rfl, hfilters, rfl, rfl, countsAgain, other', hprocess', hwritten', herrors,
        hskipped⟩

end LogQuery
