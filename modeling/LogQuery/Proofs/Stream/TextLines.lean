import LogQuery.Proofs.Record.FromLines
import LogQuery.Proofs.Stream.Emitted

/-!
# Lines of Text and Records

Output as text is meant to be one line for every record. What a stream writes
has exactly as many newlines as records, and then some more: those in the names
of fields, which are written as they are (`line_output_newlines`). So the lines
are the records if and only if no name has a newline. Plain lines and lines of
pairs never give such names, but an object can have a key with a newline, and
its record is spread over two lines (`line_output_spreads_record`).

The count is made in two halves. A formatter writes for every record a newline
of its own and those of the record, whatever the record is; that is an
induction on the records, with the formatter going on from one to the next. The
records that a stream gives out are among those that it has read off lines,
and lines have no newline, so of the newlines of such a record only those of
its names are left.

## Main definitions

* `OutputFormatter.rows`: What is written for some records, one by one.
* `LogRecord.PlainNames`: No name of a field has a newline.

## Theorems

* `Source.newline_not_mem`: The lines of a source have no newline.
* `record?_of_mem_emitted`, `line_of_mem_emitted`: What a stream gives out is read off
  lines.
* `output_of_runStream`: A stream that ends well has counted what it gives out.
* `newlines_writeAll`: The newlines that a formatter writes.
* `cutLines_writeAll`: Where records have no newline, lines are records.
* `line_output_newlines`: The newlines of output as text.
* `line_output_spreads_record`: A record that is spread over two lines.
-/

namespace LogQuery

/-! ### Lines of input -/

/-- The lines among bytes have no newline. -/
theorem newline_not_mem_splitLinesFrom {lines : List Bytes} {line : Bytes}
    (hlines : ∀ l ∈ lines, 0x0a ∉ l) (hline : 0x0a ∉ line) (bytes : Bytes) :
    (∀ l ∈ (splitLinesFrom lines line bytes).1, 0x0a ∉ l) ∧
      0x0a ∉ (splitLinesFrom lines line bytes).2 := by
  -- Both the lines and the line that is not finished are kept the other way round.
  induction bytes generalizing lines line with
  | nil =>
      rw [splitLinesFrom]
      exact ⟨fun l hl => hlines l (List.mem_reverse.mp hl), fun h => hline (List.mem_reverse.mp h)⟩
  | cons b rest ih =>
      rw [splitLinesFrom]
      split
      · refine ih (fun l hl => ?_) List.not_mem_nil
        rcases List.mem_cons.mp hl with rfl | hl
        · exact fun h => hline (List.mem_reverse.mp h)
        · exact hlines l hl
      · next hb =>
        refine ih hlines (fun h => ?_)
        rcases List.mem_cons.mp h with h | h
        · exact hb h.symm
        · exact hline h

theorem Source.newline_not_mem {source : Source} {line : Bytes} (h : line ∈ source.lines) :
    0x0a ∉ line := by
  rcases newline_not_mem_splitLinesFrom (fun _ h => absurd h List.not_mem_nil) List.not_mem_nil
    source.bytes with ⟨hcomplete, hlast⟩
  unfold Source.lines at h
  simp only [] at h
  split at h
  · exact hcomplete line h
  · rcases List.mem_append.mp h with h | h
    · exact hcomplete line h
    · rw [List.mem_singleton] at h
      exact h ▸ hlast

theorem StreamConfig.mem_of_mem_taken {config : StreamConfig} {lines : List Bytes} {line : Bytes}
    (h : line ∈ config.taken lines) : line ∈ lines := by
  unfold StreamConfig.taken at h
  cases hpolicy : config.badLines with
  | skip =>
      rw [hpolicy] at h
      exact h
  | failFast =>
      rw [hpolicy] at h
      exact (List.takeWhile_prefix _).mem h

/-! ### Records given out -/

/-- The record of a line is read off its text. -/
theorem StreamConfig.read_of_record? {config : StreamConfig} {line : Bytes} {r : LogRecord}
    (h : config.record? line = some r) :
    ∃ text, Utf8.decode line = .ok text ∧ config.inputFormat.read text = .ok (some r) := by
  unfold StreamConfig.record? at h
  split at h
  · cases h
  split at h
  · cases h
  · next text hdecode =>
    rw [Option.join_eq_some_iff, toOption_eq_some_iff] at h
    exact ⟨text, hdecode, h⟩

theorem StreamConfig.newlines_of_record? {config : StreamConfig} {line : Bytes} {r : LogRecord}
    (hline : 0x0a ∉ line) (h : config.record? line = some r) :
    newlines (Logfmt.record r) = r.newlinesInNames ∧
      (config.inputFormat ≠ .jsonl → r.newlinesInNames = 0) := by
  rcases read_of_record? h with ⟨text, hdecode, hread⟩
  have htext : '\n' ∉ text := by
    rw [Utf8.decode_eq_ok_iff.mp hdecode, ← List.count_eq_zero, Utf8.count_encode] at hline
    exact List.count_eq_zero.mp hline
  exact LineFormat.newlines_of_read htext hread

namespace StreamPipeline

variable {p : StreamPipeline} {source : Source}

/-- What a stream gives out is carried by a line that it reads. -/
theorem record?_of_mem_emitted {o : OutputRecord} (h : o ∈ p.emitted source) :
    ∃ line ∈ (p.buffered source).lines, p.config.record? line = some o.record := by
  have hrecord := p.query.start.record_of_mem_processAll h
  rcases List.mem_filterMap.mp hrecord with ⟨line, hline, hcarried⟩
  exact ⟨line, StreamConfig.mem_of_mem_taken hline, hcarried⟩

theorem line_of_mem_emitted {o : OutputRecord} (h : o ∈ p.emitted source) :
    ∃ line, 0x0a ∉ line ∧ p.config.record? line = some o.record := by
  rcases record?_of_mem_emitted h with ⟨line, hline, hcarried⟩
  exact ⟨line, Source.newline_not_mem hline, hcarried⟩

end StreamPipeline

/-! ### A sink without a limit -/

namespace StreamState

/-- A stream whose sink takes everything does not close. -/
theorem takeLines_ne_close {config : StreamConfig} {s s' : StreamState}
    (hroom : s.sink.room = none) (lines : List Bytes) :
    s.takeLines config lines ≠ .close s' := by
  intro hclose
  rcases takeLines_cases config s lines with ⟨s₁, hgoOn⟩ | ⟨before, line, _, s₁, _, hbefore, hlast⟩
  · rw [hgoOn] at hclose
    cases hclose
  · -- Only a failed write closes a stream, and this sink does not fail.
    have hroom₁ : s₁.sink.room = none := (advances_of_goOn hroom hbefore).room.trans hroom
    have hturn := takeLine_turnOf config s₁ line
    rw [← hlast, hclose] at hturn
    cases hturn with
    | unread hread hrun hwrite hkind =>
        unfold writeFailure? Sink.write at hwrite
        rw [hroom₁] at hwrite
        cases hwrite

end StreamState

namespace StreamPipeline

variable {p : StreamPipeline} {source : Source}

/-- A stream that ends well has counted what it has given out. -/
theorem output_of_runStream {sink sink' : Sink} {counts : Statistics} (hroom : sink.room = none)
    (h : p.runStream source sink = (.ok counts, sink')) :
    counts.output = (p.emitted source).length := by
  have hstart : (StreamState.start p.config p.query sink).sink.room = none := hroom
  rcases runStream_eq_ok h with ⟨s, rfl, _, hgoOn | hclose⟩
  · have hadvance := StreamState.advances_of_goOn hstart hgoOn
    -- No line has ended the stream, so the lines taken are all of them.
    have htaken : p.config.taken (p.buffered source).lines = (p.buffered source).lines := by
      have hall := StreamState.taken_append hgoOn []
      rw [List.append_nil, StreamConfig.taken_nil, List.append_nil] at hall
      exact hall
    rw [hadvance.output, emitted, htaken]
    exact Nat.zero_add _
  · exact absurd hclose (StreamState.takeLines_ne_close hstart _)

end StreamPipeline

/-! ### Lines of output -/

namespace OutputFormatter

theorem newlines_writeAll {f : OutputFormatter} (hf : f.format = .line) (os : List OutputRecord) :
    (f.writeAll os).1.count 0x0a =
      os.length + (os.map fun o => newlines (Logfmt.record o.record)).sum := by
  induction os generalizing f with
  | nil => rfl
  | cons o rest ih =>
      have hnext : (f.write o).2.format = .line := (f.format_write o).trans hf
      rw [writeAll, List.count_append, count_ofString, newlines_write hf, ih hnext,
        List.length_cons, List.map_cons, List.sum_cons]
      omega

/-- What a formatter writes for some records, one by one and without the newline at
    the end of each. -/
def rows (f : OutputFormatter) : List OutputRecord → List Bytes
  | [] => []
  | o :: rest => (Utf8.ofString (f.write o).1).dropLast :: (f.write o).2.rows rest

theorem length_rows (f : OutputFormatter) (os : List OutputRecord) :
    (f.rows os).length = os.length := by
  induction os generalizing f with
  | nil => rfl
  | cons o rest ih => rw [rows, List.length_cons, ih, List.length_cons]

end OutputFormatter

/-- Bytes without a newline are the first line if a newline follows. -/
theorem cutLines_append_newline {row : Bytes} (h : 0x0a ∉ row) (rest : Bytes) :
    cutLines (row ++ 0x0a :: rest) = row :: cutLines rest := by
  induction row with
  | nil => exact cutLines_newline rest
  | cons b row ih =>
      rw [List.mem_cons, not_or] at h
      rw [List.cons_append, cutLines_cons (Ne.symm h.1), ih h.2]

namespace OutputFormatter

theorem write_eq_concat (f : OutputFormatter) (o : OutputRecord) :
    Utf8.ofString (f.write o).1 = (Utf8.ofString (f.write o).1).dropLast ++ [0x0a] := by
  rcases f.write_eq_row o with ⟨row, hrow⟩
  have hend : Utf8.ofString (row ++ "\n") = Utf8.ofString row ++ [0x0a] := by
    rw [Utf8.ofString, String.toList_append, Utf8.encode_append]
    rfl
  rw [hrow, hend, List.dropLast_concat]

/-- Where no record has a newline of its own, the lines of the output are the
    records. -/
theorem cutLines_writeAll {f : OutputFormatter} (hf : f.format = .line) {os : List OutputRecord}
    (h : ∀ o ∈ os, newlines (Logfmt.record o.record) = 0) :
    cutLines (f.writeAll os).1 = f.rows os := by
  induction os generalizing f with
  | nil => rfl
  | cons o rest ih =>
      have hnext : (f.write o).2.format = .line := (f.format_write o).trans hf
      have hrow : 0x0a ∉ (Utf8.ofString (f.write o).1).dropLast := by
        have hcount : (Utf8.ofString (f.write o).1).count 0x0a = 1 := by
          rw [count_ofString, newlines_write hf, h o List.mem_cons_self]
        rw [write_eq_concat, List.count_append] at hcount
        rw [← List.count_eq_zero]
        exact Nat.add_right_cancel (hcount.trans rfl)
      rw [writeAll, write_eq_concat, List.append_assoc, List.singleton_append,
        cutLines_append_newline hrow, ih hnext fun o ho => h o (List.mem_cons_of_mem _ ho), rows]

end OutputFormatter

/-! ### Records and lines -/

/-- No name of a field has a newline. -/
def LogRecord.PlainNames (r : LogRecord) : Prop := ∀ name ∈ r.fields.keys, '\n' ∉ name.toList

theorem LogRecord.newlinesInNames_eq_zero_iff (r : LogRecord) :
    r.newlinesInNames = 0 ↔ r.PlainNames := by
  rw [newlinesInNames, List.sum_eq_zero_iff_forall_eq_nat, List.forall_mem_map]
  exact forall₂_congr fun name _ => List.count_eq_zero

/-- Output as text has one newline for every record given out and those in the
    names of its fields. So there are as many newlines as records exactly if no
    name has one, and then each line is a record. Only input as JSON can give
    such names. -/
theorem line_output_newlines (p : StreamPipeline) (source : Source) {sink sink' : Sink}
    {counts : Statistics} (hformat : p.config.outputFormat = .line) (hroom : sink.room = none)
    (hok : (p.process source sink).1 = (.ok counts, sink')) :
    ∃ bytes, sink'.written.toList = sink.written.toList ++ bytes ∧
      counts.output = (p.emitted source).length ∧
      bytes.count 0x0a =
        counts.output + ((p.emitted source).map fun o => o.record.newlinesInNames).sum ∧
      (bytes.count 0x0a = counts.output ↔ ∀ o ∈ p.emitted source, o.record.PlainNames) ∧
      ((∀ o ∈ p.emitted source, o.record.PlainNames) →
        cutLines bytes =
          (OutputFormatter.start .line p.config.useColors).rows (p.emitted source)) ∧
      (p.config.inputFormat ≠ .jsonl → ∀ o ∈ p.emitted source, o.record.PlainNames) := by
  have hcounts : counts.output = (p.emitted source).length :=
    StreamPipeline.output_of_runStream hroom ((p.process_fst source sink).symm.trans hok)
  have hwritten := p.written_free source hroom
  rw [hok, hformat] at hwritten
  -- Whatever is given out was read off a line, and that line has no newline.
  have hnewlines : ∀ o ∈ p.emitted source,
      newlines (Logfmt.record o.record) = o.record.newlinesInNames ∧
        (p.config.inputFormat ≠ .jsonl → o.record.newlinesInNames = 0) := by
    intro o ho
    rcases StreamPipeline.line_of_mem_emitted ho with ⟨line, hline, hrecord⟩
    exact StreamConfig.newlines_of_record? hline hrecord
  have hcount := OutputFormatter.newlines_writeAll
    (f := .start .line p.config.useColors) rfl (p.emitted source)
  rw [List.map_congr_left fun o ho => (hnewlines o ho).1, ← hcounts] at hcount
  refine ⟨_, hwritten, hcounts, hcount, ?_, ?_, ?_⟩
  · rw [hcount, Nat.add_eq_left, List.sum_eq_zero_iff_forall_eq_nat, List.forall_mem_map]
    exact forall₂_congr fun o _ => o.record.newlinesInNames_eq_zero_iff
  · intro hplain
    refine OutputFormatter.cutLines_writeAll rfl fun o ho => ?_
    rw [(hnewlines o ho).1]
    exact o.record.newlinesInNames_eq_zero_iff.mpr (hplain o ho)
  · intro hjson o ho
    exact o.record.newlinesInNames_eq_zero_iff.mp ((hnewlines o ho).2 hjson)

/-- Two records as text, one of them colored, are two lines. -/
theorem line_output_newlines_chainedInput :
    chainedPipeline.config.outputFormat = .line ∧ Sink.empty.room = none ∧
      ∃ (counts : Statistics) (sink' : Sink),
        (chainedPipeline.process (.ofBytes chainedInput) .empty).1 = (.ok counts, sink') ∧
        counts.output = 2 ∧ sink'.written.toList.count 0x0a = counts.output ∧
        (cutLines sink'.written.toList).length = 2 := by
  have hrun : ((chainedPipeline.process (.ofBytes chainedInput) .empty).1.1.toOption.map
      fun counts => counts.output) = some 2 := by
    decide +kernel
  rcases hprocess : (chainedPipeline.process (.ofBytes chainedInput) .empty).1 with
    ⟨result, sink'⟩
  rw [hprocess] at hrun
  cases result with
  | error e => cases hrun
  | ok counts =>
      have houtput : counts.output = 2 := Option.some.inj hrun
      rcases line_output_newlines chainedPipeline (.ofBytes chainedInput) rfl rfl hprocess with
        ⟨bytes, hbytes, hcounts, _, hiff, hrows, hplain⟩
      have hnames := hplain (by decide)
      have hwritten : sink'.written.toList = bytes := hbytes
      refine ⟨rfl, rfl, counts, sink', rfl, houtput, ?_, ?_⟩
      · rw [hwritten]
        exact hiff.mpr hnames
      · rw [hwritten, hrows hnames, OutputFormatter.length_rows, ← hcounts, houtput]

/-- A pipeline from JSON to text without a query. -/
def spreadingPipeline : StreamPipeline :=
  .start ⟨[]⟩ { inputFormat := .jsonl, outputFormat := .line }

/-- One object, with a newline in its key. -/
def spreadingInput : Bytes := Utf8.ofString "\x7b\"a\\nb\":1\x7d\n"

/-- A record with a newline in a name is spread over two lines, so there are more
    newlines than records. -/
theorem line_output_spreads_record :
    spreadingPipeline.config.outputFormat = .line ∧
      ∃ (counts : Statistics) (sink' : Sink),
        (spreadingPipeline.process (.ofBytes spreadingInput) .empty).1 = (.ok counts, sink') ∧
        counts.output = 1 ∧ sink'.written.toList = Utf8.ofString "a\nb=1\n" ∧
        sink'.written.toList.count 0x0a ≠ counts.output := by
  have hrun : (((spreadingPipeline.process (.ofBytes spreadingInput) .empty).1.1.toOption.map
        fun counts => counts.output),
      (spreadingPipeline.process (.ofBytes spreadingInput) .empty).1.2.written.toList) =
      (some 1, Utf8.ofString "a\nb=1\n") := by
    decide +kernel
  rcases hprocess : (spreadingPipeline.process (.ofBytes spreadingInput) .empty).1 with
    ⟨result, sink'⟩
  rw [hprocess] at hrun
  cases result with
  | error e => cases (Prod.mk.inj hrun).1
  | ok counts =>
      have houtput : counts.output = 1 := Option.some.inj (Prod.mk.inj hrun).1
      have hwritten : sink'.written.toList = Utf8.ofString "a\nb=1\n" := (Prod.mk.inj hrun).2
      refine ⟨rfl, counts, sink', rfl, houtput, hwritten, ?_⟩
      rw [hwritten, houtput]
      decide

end LogQuery
