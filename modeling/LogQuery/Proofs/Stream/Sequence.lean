import LogQuery.Proofs.Stream.Refinement
import LogQuery.Proofs.Stream.Turns
import Mathlib.Algebra.GroupWithZero.Nat

/-!
# Streams in a Row

A pipeline takes one stream after the other, and every stream is to be treated
as if it were the only one. A variable that an earlier stream has bound, or a
color that it has given to a tag, would show in what a later stream writes. So
the statement is about everything that comes of a stream: its result, and its
sink with all that has been written to it, are those of the same stream sent
alone through a pipeline that has not taken any (`process_alone`).

What does go from one stream to the next is the total, and a stream that fails,
at whatever point, is as if it had not been sent (`process_of_error`). The total
is built up by `Statistics.add`, one stream at a time. `Totals` says what it is
without that: every count is the sum of the counts of the streams that have
ended well, and the bad lines are theirs, one stream behind the other.

The time that a stream takes is left aside.

## Main definitions

* `StreamPipeline.processAll`: Takes streams in a row.
* `endedWell`: The statistics of the streams that have not failed.
* `Totals`: Statistics are the sum of others, count by count.

## Theorems

* `process_alone`: A pipeline treats a stream as a fresh one does.
* `process_of_error`: A stream that fails leaves no trace in its pipeline.
* `processAll_fst`, `processAll_snd`: What comes of streams in a row, and what
  goes through them.
* `totals_snoc`, `totals_foldl`: Adding statistics adds their counts.
* `streams_isolated`: Streams are independent, and the total counts the whole of
  a stream or nothing of it.
-/

namespace LogQuery

/-! ### One stream -/

namespace StreamPipeline

/-- What comes of a stream does not depend on the streams before it. -/
theorem process_alone (p : StreamPipeline) (source : Source) (sink : Sink) :
    (p.process source sink).1 = ((start p.query p.config).process source sink).1 := by
  rw [process_fst, process_fst]
  rfl

theorem process_of_error {p : StreamPipeline} {source : Source} {sink sink' : Sink}
    {error : ProcessingError} (h : (p.process source sink).1 = (.error error, sink')) :
    (p.process source sink).2 = p := by
  rw [process_snd, h]
  rfl

/-! ### Several streams -/

/-- Takes streams in a row. Gives what comes of each. -/
def processAll (p : StreamPipeline) :
    List (Source × Sink) → List (Except ProcessingError Statistics × Sink) × StreamPipeline
  | [] => ([], p)
  | (source, sink) :: rest =>
    let (outcome, p) := p.process source sink
    let (outcomes, p) := p.processAll rest
    (outcome :: outcomes, p)

theorem processAll_cons (p : StreamPipeline) (source : Source) (sink : Sink)
    (rest : List (Source × Sink)) :
    p.processAll ((source, sink) :: rest) =
      ((p.process source sink).1 :: ((p.process source sink).2.processAll rest).1,
        ((p.process source sink).2.processAll rest).2) := rfl

theorem processAll_append (p : StreamPipeline) (xs ys : List (Source × Sink)) :
    p.processAll (xs ++ ys) =
      ((p.processAll xs).1 ++ ((p.processAll xs).2.processAll ys).1,
        ((p.processAll xs).2.processAll ys).2) := by
  induction xs generalizing p with
  | nil => rfl
  | cons stream rest ih =>
      rcases stream with ⟨source, sink⟩
      rw [List.cons_append, processAll_cons, processAll_cons, ih, List.cons_append]

/-- Every stream in a row is treated as if it were alone. -/
theorem processAll_fst (p : StreamPipeline) (streams : List (Source × Sink)) :
    (p.processAll streams).1 =
      streams.map fun stream => ((start p.query p.config).process stream.1 stream.2).1 := by
  induction streams generalizing p with
  | nil => rfl
  | cons stream rest ih =>
      rcases stream with ⟨source, sink⟩
      -- The pipeline behind the first stream still has its query and its configuration.
      have hquery : (p.process source sink).2.query = p.query := by rw [process_snd]
      have hconfig : (p.process source sink).2.config = p.config := by rw [process_snd]
      rw [processAll_cons, ih, hquery, hconfig, process_alone, List.map_cons]

end StreamPipeline

/-- The statistics of the streams that have not failed, in order. -/
def endedWell (outcomes : List (Except ProcessingError Statistics × Sink)) : List Statistics :=
  outcomes.flatMap fun outcome => outcome.1.toOption.toList

/-- Through streams in a row goes the total of those that have ended well. -/
theorem StreamPipeline.processAll_snd (p : StreamPipeline) (streams : List (Source × Sink)) :
    (p.processAll streams).2 =
      { p with total := (endedWell (p.processAll streams).1).foldl Statistics.add p.total } := by
  induction streams generalizing p with
  | nil => rfl
  | cons stream rest ih =>
      rcases stream with ⟨source, sink⟩
      rw [processAll_cons, ih, endedWell, endedWell, List.flatMap_cons, List.foldl_append,
        process_snd]

/-! ### Totals -/

/-- Statistics are the sum of others, count by count, and their bad lines are those
    of the others, one after the other. -/
structure Totals (parts : List Statistics) (total : Statistics) : Prop where
  linesSeen : total.linesSeen = (parts.map Statistics.linesSeen).sum
  processed : total.processed = (parts.map Statistics.processed).sum
  output : total.output = (parts.map Statistics.output).sum
  skipped : total.skipped = (parts.map Statistics.skipped).sum
  errors : total.errors = (parts.map Statistics.errors).sum
  badLines : total.badLines.toList = parts.flatMap fun part => part.badLines.toList

theorem totals_nil : Totals [] .zero where
  linesSeen := rfl
  processed := rfl
  output := rfl
  skipped := rfl
  errors := rfl
  badLines := rfl

/-- A count that is summed up is summed up with one more part. -/
theorem sum_map_snoc (count : Statistics → Nat) (parts : List Statistics) (part : Statistics) :
    ((parts ++ [part]).map count).sum = (parts.map count).sum + count part := by
  rw [List.map_append, List.sum_append, List.map_singleton, List.sum_singleton]

theorem totals_snoc {parts : List Statistics} {total : Statistics} (h : Totals parts total)
    (part : Statistics) : Totals (parts ++ [part]) (total.add part) where
  linesSeen := by rw [sum_map_snoc, ← h.linesSeen]; rfl
  processed := by rw [sum_map_snoc, ← h.processed]; rfl
  output := by rw [sum_map_snoc, ← h.output]; rfl
  skipped := by rw [sum_map_snoc, ← h.skipped]; rfl
  errors := by rw [sum_map_snoc, ← h.errors]; rfl
  badLines := by
    rw [List.flatMap_append, List.flatMap_singleton, ← h.badLines]
    exact Array.toList_append

theorem totals_foldl {parts : List Statistics} {total : Statistics} (h : Totals parts total)
    (more : List Statistics) : Totals (parts ++ more) (more.foldl Statistics.add total) := by
  induction more generalizing parts total with
  | nil =>
      rw [List.append_nil]
      exact h
  | cons part rest ih =>
      -- The part goes over to those that have been added.
      rw [← List.singleton_append, ← List.append_assoc]
      exact ih (totals_snoc h part)

/-- The streams of a pipeline are independent, whatever their sources and sinks do.
    What comes of each of them, its result and all that it has written, is what
    comes of it when it is sent alone through a fresh pipeline. Behind any number
    of streams, the total is the sum of the statistics of those that have ended
    well, count by count, with their bad lines in order; and a stream that has
    failed leaves the pipeline exactly as it was. -/
theorem streams_isolated (query : CompiledQuery) (config : StreamConfig)
    (streams : List (Source × Sink)) :
    let fresh := StreamPipeline.start query config
    let alone := streams.map fun stream => (fresh.process stream.1 stream.2).1
    (fresh.processAll streams).1 = alone ∧
    (∀ i, Totals (endedWell (alone.take i)) (fresh.processAll (streams.take i)).2.total) ∧
    ∀ (i : Nat) (error : ProcessingError) (sink : Sink), alone[i]? = some (.error error, sink) →
      (fresh.processAll (streams.take (i + 1))).2 = (fresh.processAll (streams.take i)).2 := by
  intro fresh alone
  have halone : ∀ streams, (fresh.processAll streams).1 =
      streams.map fun stream => (fresh.process stream.1 stream.2).1 := fresh.processAll_fst
  refine ⟨halone streams, ?_, ?_⟩
  · intro i
    have htotals := totals_foldl totals_nil (endedWell (alone.take i))
    rw [List.nil_append] at htotals
    rw [StreamPipeline.processAll_snd, halone, List.map_take]
    exact htotals
  · intro i error sink herror
    -- The stream at the place is the one that fails when it is sent alone.
    rw [List.getElem?_map, Option.map_eq_some_iff] at herror
    rcases herror with ⟨⟨source, sink₀⟩, hstream, hfailed⟩
    rw [List.take_add_one, hstream, StreamPipeline.processAll_append]
    -- The pipeline in front of the stream differs from a fresh one in its total only.
    have hbefore : ((fresh.processAll (streams.take i)).2.process source sink₀).1 =
        (.error error, sink) := by
      rw [StreamPipeline.process_alone, StreamPipeline.processAll_snd]
      exact hfailed
    exact StreamPipeline.process_of_error hbefore

/-- A source that fails behind its first record. -/
def brokenSource : Source := ⟨Utf8.ofString "a=3\n", some ⟨.other, "gone"⟩⟩

/-- Two streams of colored records, and between them one that fails. -/
def interruptedStreams : List (Source × Sink) :=
  [(.ofBytes (Utf8.ofString "a=1\na=2\n"), .empty), (brokenSource, .empty),
    (.ofBytes (Utf8.ofString "a=4\na=5\n"), .empty)]

/-- The last stream gives its tag the first color again, and the one that has
    failed is not counted. -/
theorem streams_isolated_interruptedStreams :
    ∃ error sink', (interruptedStreams.map fun stream =>
        (chainedPipeline.process stream.1 stream.2).1)[1]? = some (.error error, sink') ∧
      (chainedPipeline.processAll (interruptedStreams.take 2)).2 =
        (chainedPipeline.processAll (interruptedStreams.take 1)).2 ∧
      ((chainedPipeline.processAll interruptedStreams).1.map fun outcome =>
          outcome.2.written.toList)[2]? = some (Utf8.ofString "a=4\n\x1b[36ma=5\x1b[0m\n") ∧
      (chainedPipeline.processAll (interruptedStreams.take 3)).2.total.linesSeen = 4 := by
  rcases streams_isolated chainedQuery chainedPipeline.config interruptedStreams with
    ⟨halone, htotals, herror⟩
  have hpipeline : chainedPipeline = .start chainedQuery chainedPipeline.config := rfl
  have hnone : (chainedPipeline.process brokenSource .empty).1.1.toOption = none := by
    decide +kernel
  rcases hbroken : (chainedPipeline.process brokenSource .empty).1 with ⟨result, sink'⟩
  rw [hbroken] at hnone
  cases result with
  | ok counts => cases hnone
  | error error =>
      have hfailed : (interruptedStreams.map fun stream =>
          (chainedPipeline.process stream.1 stream.2).1)[1]? = some (.error error, sink') :=
        congrArg some hbroken
      refine ⟨error, sink', hfailed, herror 1 error sink' hfailed, ?_, ?_⟩
      · rw [hpipeline, halone]
        decide +kernel
      · refine (htotals 3).linesSeen.trans ?_
        decide +kernel

end LogQuery
