import LogQuery.Proofs.Stream.TextFilter
import Mathlib.Data.List.Forall2

/-!
# Line Endings Are Not Seen

Some systems end a line with a carriage return and a newline. A stream cuts at newlines
only, so on such input every line but an unfinished last one has one more byte at its end.
That byte passes the check of the length, the decoding and the trimming of the format
before it is gone, and none of them may be led to another answer by it.

The trimming of every format drops it (`read_concat_return`). The decoding keeps it apart:
in a well-formed text it is a character of its own, and it does not complete a sequence
that has been cut off, so a line is a text with it exactly if it is one without it
(`decode_concat_return`). The length is the exception. A line that is just as long as a
line may be is too long with one byte more, and the theorem has to leave it out.

Two lines are `Alike` if they carry the same record or none, and both are bad or neither
is. What is said about a bad line may differ, since a reason gives lengths and places. So
two streams over lines that are alike one by one write the same and count the same, and
the same lines are listed as bad (`Advances.alike`).

## Main definitions

* `withReturns`: An input with a carriage return in front of every newline.
* `StreamConfig.Alike`: Two lines have the same fate.

## Theorems

* `splitLines_withReturns`: The complete lines have one more byte.
* `decode_concat_return`, `read_concat_return`: The byte is decoded and dropped.
* `alike_concat_return`: A line is like itself with a carriage return.
* `Advances.alike`: Streams over like lines differ in the reasons at most.
* `line_endings_unseen`: A stream does not see how lines end.
-/

namespace LogQuery

/-! ### Carriage returns -/

/-- An input with a carriage return in front of every newline. -/
def withReturns (input : Bytes) : Bytes :=
  input.flatMap fun b => if b = 0x0a then [0x0d, 0x0a] else [b]

/-- The lines that are ended by a newline get one more byte, and what follows the last
    newline is what it was. -/
theorem splitLinesFrom_withReturns (line input : Bytes) :
    splitLinesFrom [] line (withReturns input) =
      ((splitLinesFrom [] line input).1.map (· ++ [0x0d]), (splitLinesFrom [] line input).2) := by
  induction input generalizing line with
  | nil => rfl
  | cons b rest ih =>
      rw [withReturns, List.flatMap_cons, ← withReturns]
      by_cases hb : b = 0x0a
      · -- The carriage return belongs to the line that the newline ends.
        have hreturn : (0x0d : UInt8) ≠ 0x0a := by decide
        rw [if_pos hb, List.cons_append, List.singleton_append, splitLinesFrom, if_neg hreturn,
          splitLinesFrom, if_pos rfl, splitLinesFrom_lines, ih, splitLinesFrom, if_pos hb,
          splitLinesFrom_lines [line.reverse]]
        simp only [List.reverse_cons, List.reverse_nil, List.nil_append, List.map_append,
          List.map_cons, List.map_nil]
      · rw [if_neg hb, List.singleton_append, splitLinesFrom, if_neg hb, ih, splitLinesFrom,
          if_neg hb]

theorem splitLines_withReturns (input : Bytes) :
    splitLines (withReturns input) =
      ((splitLines input).1.map (· ++ [0x0d]), (splitLines input).2) :=
  splitLinesFrom_withReturns [] input

/-- A line decodes with a carriage return at its end exactly if it decodes without, and
    then the carriage return is its last character. -/
theorem Utf8.decode_concat_return (line : Bytes) :
    (decode (line ++ [0x0d])).toOption = (decode line).toOption.map (· ++ ['\r']) := by
  cases hline : decode line with
  | ok text =>
      rw [decode_eq_ok_iff] at hline
      have hbytes : line ++ [0x0d] = encode (text ++ ['\r']) := by
        rw [hline, encode_append]
        rfl
      rw [decode_eq_ok_iff.mpr hbytes]
      rfl
  | error fault =>
      cases hreturned : decode (line ++ [0x0d]) with
      | error fault' => rfl
      | ok text =>
          -- The text would end with the carriage return and be one without it.
          rw [decode_eq_ok_iff] at hreturned
          obtain ⟨front, _, hfront⟩ := eq_concat_of_encode (by decide) hreturned.symm
          rw [decode_eq_ok_iff.mpr hfront] at hline
          cases hline

/-- The trimming of every format drops a carriage return at the end. -/
theorem LineFormat.read_concat_return (format : LineFormat) (text : List Char) :
    format.read (text ++ ['\r']) = format.read text := by
  cases format with
  | line => rw [read, read, trimEnd_concat_of_drop (by decide)]
  | jsonl => rw [read, read, readStructured, readStructured, trim_concat_of_drop (by decide)]
  | logfmt => rw [read, read, readStructured, readStructured, trim_concat_of_drop (by decide)]

/-! ### Like lines -/

namespace StreamConfig

/-- Two lines have the same fate: they carry the same record or none, and both are bad or
    neither is. -/
def Alike (config : StreamConfig) (line line' : Bytes) : Prop :=
  config.record? line' = config.record? line ∧
    (config.complaint? line').isSome = (config.complaint? line).isSome

/-- A line is like itself with a carriage return, unless it is as long as a line may be. -/
theorem alike_concat_return {config : StreamConfig} {line : Bytes}
    (hlength : line.length ≠ config.maxLineLength) : config.Alike line (line ++ [0x0d]) := by
  -- One byte more makes a line too long only if there was just room for it.
  have hlong : config.maxLineLength < (line ++ [0x0d]).length ↔
      config.maxLineLength < line.length := by
    rw [List.length_append, List.length_singleton]
    omega
  have hdecode := Utf8.decode_concat_return line
  simp only [Alike, record?, complaint?, hlong]
  by_cases h : config.maxLineLength < line.length
  · simp only [if_pos h, Option.isSome_some, and_self]
  simp only [if_neg h]
  cases hline : Utf8.decode line with
  | error fault =>
      cases hreturned : Utf8.decode (line ++ [0x0d]) with
      | error fault' => exact ⟨rfl, rfl⟩
      | ok text' =>
          rw [hline, hreturned] at hdecode
          cases hdecode
  | ok text =>
      cases hreturned : Utf8.decode (line ++ [0x0d]) with
      | error fault' =>
          rw [hline, hreturned] at hdecode
          cases hdecode
      | ok text' =>
          rw [hline, hreturned] at hdecode
          cases hdecode
          simp only [LineFormat.read_concat_return, and_self]

/-- The lines of an input are like those with carriage returns, one by one. -/
theorem alike_withReturns {config : StreamConfig} {input : Bytes}
    (hlength : ∀ line ∈ (splitLines input).1, line.length ≠ config.maxLineLength) :
    List.Forall₂ config.Alike (cutLines input) (cutLines (withReturns input)) := by
  have hcomplete : List.Forall₂ config.Alike (splitLines input).1
      ((splitLines input).1.map (· ++ [0x0d])) := by
    rw [List.forall₂_map_right_iff, List.forall₂_same]
    exact fun line hline => alike_concat_return (hlength line hline)
  rw [← lines_ofBytes, ← lines_ofBytes, Source.lines, Source.lines]
  simp only [Source.ofBytes, splitLines_withReturns, Option.isSome_none, Bool.false_or]
  split
  · exact hcomplete
  · exact List.rel_append hcomplete (.cons ⟨rfl, rfl⟩ .nil)

theorem records_of_alike {config : StreamConfig} {lines lines' : List Bytes}
    (h : List.Forall₂ config.Alike lines lines') :
    config.records lines' = config.records lines := by
  unfold records
  induction h with
  | nil => rfl
  | cons hline _ ih => rw [List.filterMap_cons, List.filterMap_cons, hline.1, ih]

theorem countP_of_alike {config : StreamConfig} {lines lines' : List Bytes}
    (h : List.Forall₂ config.Alike lines lines') :
    (lines'.countP fun line => (config.complaint? line).isSome) =
      lines.countP fun line => (config.complaint? line).isSome := by
  induction h with
  | nil => rfl
  | cons hline _ ih => rw [List.countP_cons, List.countP_cons, hline.2, ih]

/-- The same lines are bad, though there may be something else to be said about them. -/
theorem badLinesFrom_of_alike {config : StreamConfig} {lines lines' : List Bytes}
    (h : List.Forall₂ config.Alike lines lines') (number : Nat) :
    (config.badLinesFrom number lines').map BadLine.line =
      (config.badLinesFrom number lines).map BadLine.line := by
  induction h generalizing number with
  | nil => rfl
  | @cons line line' rest rest' hline _ ih =>
      have hfirst : (config.badLinesFrom number [line']).map BadLine.line =
          (config.badLinesFrom number [line]).map BadLine.line := by
        rw [badLinesFrom_singleton, badLinesFrom_singleton]
        have hcomplaint := hline.2
        revert hcomplaint
        cases config.complaint? line with
        | none => cases config.complaint? line' with
          | none => exact fun _ => rfl
          | some reason => exact nofun
        | some reason => cases config.complaint? line' with
          | none => exact nofun
          | some reason' => exact fun _ => rfl
      rw [← List.singleton_append, ← List.singleton_append (x := line), badLinesFrom_append,
        badLinesFrom_append, List.map_append, List.map_append, hfirst, List.length_singleton, ih,
        List.length_singleton]

end StreamConfig

/-! ### Like streams -/

theorem Sink.eq_of_written {a b : Sink} (hwritten : a.written.toList = b.written.toList)
    (hroom : a.room = b.room) (hflush : a.flushFailure = b.flushFailure) : a = b := by
  cases a
  cases b
  rw [Sink.mk.injEq]
  exact ⟨Array.toList_inj.mp hwritten, hroom, hflush⟩

/-- Two streams that advance over like lines differ in the reasons at most. -/
theorem Advances.alike {config : StreamConfig} {s s₁ s₂ : StreamState}
    {lines lines' : List Bytes} (h : Advances config s lines s₁)
    (h' : Advances config s lines' s₂) (halike : List.Forall₂ config.Alike lines lines') :
    s₂.sink = s₁.sink ∧ s₂.statistics.linesSeen = s₁.statistics.linesSeen ∧
      s₂.statistics.processed = s₁.statistics.processed ∧
      s₂.statistics.output = s₁.statistics.output ∧
      s₂.statistics.skipped = s₁.statistics.skipped ∧
      s₂.statistics.errors = s₁.statistics.errors ∧
      s₂.statistics.badLines.toList.map BadLine.line =
        s₁.statistics.badLines.toList.map BadLine.line := by
  have hrecords := StreamConfig.records_of_alike halike
  have houtputs : s.outputs config lines' = s.outputs config lines := by
    rw [StreamState.outputs, hrecords, StreamState.outputs]
  refine ⟨?_, ?_, ?_, ?_, ?_, ?_, ?_⟩
  · exact Sink.eq_of_written (by rw [h'.written, h.written, houtputs]) (h'.room.trans h.room.symm)
      (h'.flushFailure.trans h.flushFailure.symm)
  · rw [h'.linesSeen, h.linesSeen, halike.length_eq]
  · rw [h'.processed, h.processed, hrecords]
  · rw [h'.output, h.output, houtputs]
  · have hfirst := h.skipped
    have hsecond := h'.skipped
    rw [hrecords, houtputs] at hsecond
    omega
  · rw [h'.errors, h.errors, StreamConfig.countP_of_alike halike]
  · rw [h'.badLines, h.badLines, List.map_append, List.map_append,
      StreamConfig.badLinesFrom_of_alike halike]

/-- A stream does not see how lines end. Where no line is exactly as long as a line may
    be, carriage returns in front of the newlines change nothing in what a stream writes
    and counts, nor in which lines are bad. -/
theorem line_endings_unseen (p : StreamPipeline) (sink : Sink) (hskip : p.config.badLines = .skip)
    (hroom : sink.room = none) (hflush : sink.flushFailure = none) (input : Bytes)
    (hlength : ∀ line ∈ (splitLines input).1, line.length ≠ p.config.maxLineLength) :
    ∃ (counts counts' : Statistics) (sink' : Sink),
      (p.process (.ofBytes input) sink).1 = (.ok counts, sink') ∧
      (p.process (.ofBytes (withReturns input)) sink).1 = (.ok counts', sink') ∧
      counts'.linesSeen = counts.linesSeen ∧ counts'.processed = counts.processed ∧
      counts'.output = counts.output ∧ counts'.skipped = counts.skipped ∧
      counts'.errors = counts.errors ∧
      counts'.badLines.toList.map BadLine.line = counts.badLines.toList.map BadLine.line := by
  obtain ⟨s, hprocess, hadvance⟩ := StreamPipeline.process_of_skip hskip hroom hflush input
  obtain ⟨s', hprocess', hadvance'⟩ :=
    StreamPipeline.process_of_skip hskip hroom hflush (withReturns input)
  -- A buffer without room lets nothing through on either side.
  have hlines : List.Forall₂ p.config.Alike (cutLines (p.delivered input))
      (cutLines (p.delivered (withReturns input))) := by
    unfold StreamPipeline.delivered
    split
    · exact .nil
    · exact StreamConfig.alike_withReturns hlength
  obtain ⟨hsink, hcounts⟩ := hadvance.alike hadvance' hlines
  rw [hsink] at hprocess'
  exact ⟨s.statistics, s'.statistics, s.sink, hprocess, hprocess', hcounts⟩

/-- A record with a carriage return of its own, a blank line, a line that ends within a
    character, one that is too long, one that is no pair, and a record without a newline. -/
def unevenInput : Bytes :=
  Utf8.ofString "a=1\r\n \n" ++ [0x61, 0x3d, 0xc3, 0x0a] ++
    Utf8.ofString "a=1234567\nbroken\na=é"

/-- Both inputs give the two records and have three bad lines. -/
theorem line_endings_unseen_unevenInput :
    chainedPipeline.config.badLines = .skip ∧ Sink.empty.room = none ∧
      Sink.empty.flushFailure = none ∧
      (∀ line ∈ (splitLines unevenInput).1,
        line.length ≠ chainedPipeline.config.maxLineLength) ∧
      withReturns unevenInput ≠ unevenInput ∧
      ∃ (counts' : Statistics) (sink' : Sink),
        (chainedPipeline.process (.ofBytes (withReturns unevenInput)) .empty).1 =
          (.ok counts', sink') ∧
        sink'.written.toList = Utf8.ofString "a=1\n\x1b[36ma=é\x1b[0m\n" ∧
        (counts'.linesSeen, counts'.processed, counts'.errors) = (6, 2, 3) ∧
        counts'.badLines.toList.map BadLine.line = [3, 4, 5] := by
  have hlength : ∀ line ∈ (splitLines unevenInput).1,
      line.length ≠ chainedPipeline.config.maxLineLength := by
    decide +kernel
  obtain ⟨counts, counts', sink', hprocess, hprocess', hseen, hprocessed, _, _, herrors, hbad⟩ :=
    line_endings_unseen chainedPipeline .empty rfl rfl rfl unevenInput hlength
  have hrun : ((chainedPipeline.process (.ofBytes unevenInput) .empty).1.1.toOption.map fun c =>
        (c.linesSeen, c.processed, c.errors, c.badLines.toList.map BadLine.line),
      (chainedPipeline.process (.ofBytes unevenInput) .empty).1.2.written.toList) =
      (some (6, 2, 3, [3, 4, 5]), Utf8.ofString "a=1\n\x1b[36ma=é\x1b[0m\n") := by
    decide +kernel
  rw [hprocess, Prod.mk.injEq] at hrun
  obtain ⟨hcounts, hwritten⟩ := hrun
  simp only [Except.toOption, Option.map_some, Option.some.injEq, Prod.mk.injEq] at hcounts
  obtain ⟨hsix, htwo, hthree, hlines⟩ := hcounts
  refine ⟨rfl, rfl, rfl, hlength, by decide +kernel, counts', sink', hprocess', hwritten, ?_, ?_⟩
  · rw [hseen, hprocessed, herrors, hsix, htwo, hthree]
  · rw [hbad, hlines]

end LogQuery
