import LogQuery.Proofs.Stream.TextLines
import Mathlib.Data.List.DropRight

/-!
# Sources That Break Off

A source can fail at any byte. What counts then is where its last newline is: the
lines up to there have come whole, and the beginning of a line behind it is lost,
however long it is. `lines_failing` says so. A source that fails has the lines of
what it gave up to its last newline, read from a source that does not fail.

So a stream over the one goes along with a stream over the other until all lines
are taken, and only then does the kind of the failure matter. An end that comes too
early is an end, and the two streams come to the same, whatever their sinks do
(`process_of_unexpectedEnd`). Any other failure is the error of the stream, unless
a line has already stopped it.

What a stream reads is its source as it comes through the buffer, and the main theorem
asks for that to give its bytes and to fail. A buffer without room takes every source
that has bytes to be at its end, so behind one only a source without any gets to fail
(`eq_of_buffered_failing`).

## Main definitions

* `wholeLines`: Bytes up to their last newline.

## Theorems

* `wholeLines_newline`: The bytes in front of a newline are kept.
* `lines_failing`: The lines of a source that fails are those of its whole lines.
* `lines_buffered_failing`: The same behind any buffer.
* `eq_of_buffered_failing`: What fails behind a buffer is the source.
* `process_of_unexpectedEnd`: A source that ends too early is one that ends behind its
  last newline.
* `failing_source_keeps_whole_lines`: What a stream makes of a source that breaks off.
-/

namespace LogQuery

/-- The bytes up to and with the last newline among them, and none if there is no
    newline. -/
def wholeLines (bytes : Bytes) : Bytes := bytes.rdropWhile fun b => b != 0x0a

/-! ### Lines -/

theorem wholeLines_of_not_mem {bytes : Bytes} (h : 0x0a ∉ bytes) : wholeLines bytes = [] := by
  refine List.rdropWhile_eq_nil_iff.mpr fun b hb => ?_
  exact bne_iff_ne.mpr fun heq => h (heq ▸ hb)

/-- What is in front of a newline is kept, and behind it the last newline is looked for
    again. -/
theorem wholeLines_newline (front after : Bytes) :
    wholeLines (front ++ 0x0a :: after) = front ++ 0x0a :: wholeLines after := by
  unfold wholeLines
  induction after using List.reverseRecOn with
  | nil => exact List.rdropWhile_concat_neg _ _ _ (by decide)
  | append_singleton after b ih =>
      rw [← List.cons_append, ← List.append_assoc]
      by_cases hb : (b != 0x0a) = true
      · rw [List.rdropWhile_concat_pos (fun b => b != 0x0a) _ b hb,
          List.rdropWhile_concat_pos (fun b => b != 0x0a) _ b hb, ih]
      · rw [List.rdropWhile_concat_neg (fun b => b != 0x0a) _ b hb,
          List.rdropWhile_concat_neg (fun b => b != 0x0a) _ b hb, List.append_assoc,
          List.cons_append]

/-- A source that fails has the lines that it has given whole. -/
theorem lines_failing (bytes : Bytes) (failure : Failure) :
    Source.lines ⟨bytes, some failure⟩ = cutLines (wholeLines bytes) := by
  by_cases h : 0x0a ∈ bytes
  · rcases List.eq_append_cons_of_mem h with ⟨front, after, rfl, hfront⟩
    have hrest := lines_failing after failure
    have hwhole := Source.lines_newline hfront (wholeLines after) none
    rw [Source.lines_newline hfront, hrest, wholeLines_newline, ← lines_ofBytes, ← lines_ofBytes]
    exact hwhole.symm
  · rw [Source.lines_broken h, wholeLines_of_not_mem h, cutLines_nil]
termination_by bytes.length

namespace StreamPipeline

variable {p : StreamPipeline} {given : Bytes} {failure : Failure}

/-- Whatever the buffer, a stream has the same lines of a source that fails and of what
    that source has given whole. -/
theorem lines_buffered_failing (p : StreamPipeline) (given : Bytes) (failure : Failure) :
    (p.buffered ⟨given, some failure⟩).lines =
      (p.buffered (.ofBytes (wholeLines given))).lines := by
  rw [lines_buffered]
  unfold buffered delivered
  by_cases hsize : p.config.bufferSize = 0
  · rw [if_pos hsize]
    cases given with
    | nil =>
        simp only [List.isEmpty_nil, Bool.not_true, Bool.and_false, Bool.false_eq_true, if_false]
        exact lines_failing [] failure
    | cons b rest =>
        simp only [hsize, decide_true, List.isEmpty_cons, Bool.not_false, Bool.and_self, if_true]
        rfl
  · simp only [hsize, decide_false, Bool.false_and, Bool.false_eq_true, if_false]
    exact lines_failing given failure

/-- A buffer adds no failure of its own, so what fails behind it is the source as it is. -/
theorem eq_of_buffered_failing {source : Source}
    (h : p.buffered source = ⟨given, some failure⟩) : source = ⟨given, some failure⟩ := by
  unfold buffered at h
  split at h
  · cases h
  · exact h

/-- A source that ends too early ends behind its last newline, whatever its stream is
    written to. -/
theorem process_of_unexpectedEnd (hkind : failure.kind = .unexpectedEnd) (p : StreamPipeline)
    (given : Bytes) (sink : Sink) :
    p.process ⟨given, some failure⟩ sink = p.process (.ofBytes (wholeLines given)) sink := by
  have hrun : p.runStream ⟨given, some failure⟩ sink =
      p.runStream (.ofBytes (wholeLines given)) sink := by
    rw [runStream_eq, runStream_eq, lines_buffered_failing, failure_buffered]
    cases (StreamState.start p.config p.query sink).takeLines p.config
        (p.buffered (.ofBytes (wholeLines given))).lines with
    | fail error s => rfl
    | close s => rfl
    | goOn s =>
        -- Behind a buffer the failure may not be met, and where it is it makes an end.
        have hend : (p.buffered ⟨given, some failure⟩).failure = none ∨
            (p.buffered ⟨given, some failure⟩).failure = some failure := by
          unfold buffered
          split
          · exact .inl rfl
          · exact .inr rfl
        rcases hend with hnone | hsome
        · rw [hnone]
        · rw [hsome]
          exact if_pos hkind
  unfold process
  rw [hrun]

/-- Any other failure is the error of a stream that has come to it, and what has been
    written until then stays. -/
theorem runStream_of_failure {sink : Sink} (hroom : sink.room = none)
    (hflush : sink.flushFailure = none)
    (hreads : p.buffered ⟨given, some failure⟩ = ⟨given, some failure⟩)
    (hkind : failure.kind ≠ .unexpectedEnd) :
    p.runStream ⟨given, some failure⟩ sink =
      ((p.runStream (.ofBytes (wholeLines given)) sink).1.bind fun _ => .error (.io failure),
        (p.runStream (.ofBytes (wholeLines given)) sink).2) := by
  have hstart : (StreamState.start p.config p.query sink).sink.room = none := hroom
  rw [runStream_eq, runStream_eq, lines_buffered_failing, failure_buffered, hreads]
  cases hlines : (StreamState.start p.config p.query sink).takeLines p.config
      (p.buffered (.ofBytes (wholeLines given))).lines with
  | fail error s => rfl
  | close s => exact absurd hlines (StreamState.takeLines_ne_close hstart _)
  | goOn s =>
      have hend : s.sink.flushFailure = none :=
        (StreamState.advances_of_goOn hstart hlines).flushFailure.trans hflush
      simp only [Turn.conclude, if_neg hkind, StreamState.finish, hend]
      rfl

end StreamPipeline

/-- What a stream makes of a source that gives so many bytes of its input, through
    whatever buffer, and then breaks off. An end that comes too early is an end:
    everything is as if the input had ended behind its last newline among these bytes.
    Any other failure is the error of the stream, unless a line in front of it has already
    stopped the stream; what is written is still the same, and the pipeline is left as it
    was. -/
theorem failing_source_keeps_whole_lines (p : StreamPipeline) (sink : Sink)
    (hroom : sink.room = none) (hflush : sink.flushFailure = none) (input : Bytes) (n : Nat)
    (failure : Failure) (source : Source)
    (hreads : p.buffered source = ⟨input.take n, some failure⟩) :
    let failing := p.process source sink
    let whole := p.process (.ofBytes (wholeLines (input.take n))) sink
    (failure.kind = .unexpectedEnd → failing = whole) ∧
      (failure.kind ≠ .unexpectedEnd →
        failing.1.2.written = whole.1.2.written ∧
        failing.1.1 = (whole.1.1.bind fun _ => .error (.io failure)) ∧
        failing.2 = p) := by
  intro failing whole
  rcases StreamPipeline.eq_of_buffered_failing hreads with rfl
  refine ⟨fun hkind => StreamPipeline.process_of_unexpectedEnd hkind p _ sink, fun hkind => ?_⟩
  have hrun : failing.1 = (whole.1.1.bind fun _ => .error (.io failure), whole.1.2) := by
    rw [StreamPipeline.process_fst, StreamPipeline.process_fst]
    exact StreamPipeline.runStream_of_failure hroom hflush hreads hkind
  refine ⟨congrArg (fun outcome => outcome.2.written) hrun, congrArg Prod.fst hrun, ?_⟩
  -- The result is an error in either case, and an error adds nothing to the total.
  have hnone : failing.1.1.toOption = none := by
    rw [hrun]
    cases whole.1.1 with
    | ok counts => rfl
    | error error => rfl
  have hpipeline := StreamPipeline.process_snd p ⟨input.take n, some failure⟩ sink
  rw [hnone] at hpipeline
  exact hpipeline

/-- The first seven bytes of this input end inside of a character of its second line. -/
def accentedInput : Bytes := Utf8.ofString "a=1\na=é\na=2\n"

/-- Of the accented input only the first line has come whole when its source breaks off
    inside of the second. -/
theorem failing_source_keeps_whole_lines_halfCharacter :
    let early : Failure := ⟨.unexpectedEnd, "early"⟩
    let gone : Failure := ⟨.other, "gone"⟩
    let outcome := chainedPipeline.process ⟨accentedInput.take 7, some gone⟩ .empty
    Sink.empty.room = none ∧ Sink.empty.flushFailure = none ∧
      chainedPipeline.buffered ⟨accentedInput.take 7, some gone⟩ =
        ⟨accentedInput.take 7, some gone⟩ ∧
      early.kind = .unexpectedEnd ∧ gone.kind ≠ .unexpectedEnd ∧
      chainedPipeline.process ⟨accentedInput.take 7, some early⟩ .empty =
        chainedPipeline.process (.ofBytes (Utf8.ofString "a=1\n")) .empty ∧
      outcome.1.1 = .error (.io gone) ∧ outcome.2 = chainedPipeline ∧
      outcome.1.2.written.toList = Utf8.ofString "a=1\n" := by
  intro early gone outcome
  have hwhole : wholeLines (accentedInput.take 7) = Utf8.ofString "a=1\n" := by decide +kernel
  have hreads : ∀ source, chainedPipeline.buffered source = source := by
    intro source
    have hsize : decide (chainedPipeline.config.bufferSize = 0) = false := by decide
    rw [StreamPipeline.buffered, hsize, Bool.false_and, if_neg Bool.false_ne_true]
  have hearly := (failing_source_keeps_whole_lines chainedPipeline .empty rfl rfl accentedInput 7
    early _ (hreads _)).1 rfl
  have hgone := (failing_source_keeps_whole_lines chainedPipeline .empty rfl rfl accentedInput 7
    gone _ (hreads _)).2 (by decide)
  rw [hwhole] at hearly hgone
  rcases hgone with ⟨hwritten, hresult, hpipeline⟩
  refine ⟨rfl, rfl, hreads _, rfl, by decide, hearly, ?_, hpipeline, ?_⟩
  · -- The one line that has come whole is read well, so it is the failure that counts.
    have hok : (chainedPipeline.process (.ofBytes (Utf8.ofString "a=1\n")) .empty).1.1.toOption =
        some ⟨1, 1, 1, 0, 0, #[], 0⟩ := by decide +kernel
    rw [toOption_eq_some_iff.mp hok] at hresult
    exact hresult
  · rw [hwritten]
    decide +kernel

end LogQuery
