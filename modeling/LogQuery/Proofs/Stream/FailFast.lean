import LogQuery.Proofs.Stream.Refinement
import LogQuery.Proofs.Stream.Turns

/-!
# Failing Fast

A pipeline has a policy for lines that cannot become records: it goes on
without them, or it fails at the first. Up to that line the two cannot be told
apart, because the policy is looked at nowhere else. So a stream without bad
lines ends in the same way under either policy, whatever its source and its sink
do (`process_withPolicy`), and at the first bad line the stream that fails
leaves in its sink what the other one leaves there for the input cut in front of
that line.

The two policies also have to say the same of the bad line. The one puts it into
an error and the other into a list, and both take it from the same problem;
`problem_cases` says what a problem can be.

An empty buffer lets nothing through. What is delivered of an input is therefore
all of it or nothing, and the statements here are about the lines of that.

## Main definitions

* `StreamPipeline.withPolicy`: A pipeline with another policy for bad lines.
* `StreamPipeline.delivered`: What comes of an input through the buffer.

## Theorems

* `takeLine_withPolicy`, `takeLines_withPolicy`: Without a bad line, the policy
  makes no difference to a stream.
* `process_withPolicy`: The same for a stream from its source to its sink.
* `takeLine_failFast`: What a bad line does to a stream that fails fast.
* `process_of_goOn`, `process_of_fail`: A stream that has taken all lines ends
  well, and one that fails at a line leaves its pipeline alone.
* `takeLines_skip`, `takeLines_failFast`: What the lines of an input do to the
  streams under the two policies.
* `failFast_follows_skip`: Failing fast agrees with going on up to the first bad
  line.
-/

namespace LogQuery

/-! ### Policies -/

def StreamConfig.withPolicy (config : StreamConfig) (policy : BadLinePolicy) : StreamConfig :=
  { config with badLines := policy }

theorem StreamConfig.withPolicy_self {config : StreamConfig} {policy : BadLinePolicy}
    (h : config.badLines = policy) : config.withPolicy policy = config := by
  cases h
  rfl

/-- A pipeline that is the same but for its policy for bad lines. -/
def StreamPipeline.withPolicy (p : StreamPipeline) (policy : BadLinePolicy) : StreamPipeline :=
  { p with config := p.config.withPolicy policy }

/-- Only a bad line makes a stream look at its policy. -/
theorem takeLine_withPolicy {config : StreamConfig} {line : Bytes}
    (h : config.complaint? line = none) (policy : BadLinePolicy) (s : StreamState) :
    s.takeLine (config.withPolicy policy) line = s.takeLine config line := by
  have hread : (config.withPolicy policy).readLine line = config.readLine line := rfl
  unfold StreamState.takeLine StreamState.demand
  rw [hread]
  rcases config.readLine_cases line with
    ⟨problem, _, hcomplaint, _⟩ | ⟨hblank, _, _⟩ | ⟨record, hrecord, _, _⟩
  · rw [h] at hcomplaint
    cases hcomplaint
  · rw [hblank]
  · rw [hrecord]

theorem takeLines_withPolicy {config : StreamConfig} {lines : List Bytes}
    (h : ∀ line ∈ lines, config.complaint? line = none) (policy : BadLinePolicy)
    (s : StreamState) :
    s.takeLines (config.withPolicy policy) lines = s.takeLines config lines := by
  induction lines generalizing s with
  | nil => rfl
  | cons line rest ih =>
      rw [StreamState.takeLines, StreamState.takeLines,
        takeLine_withPolicy (h line List.mem_cons_self)]
      cases s.takeLine config line with
      | goOn s' => exact ih (fun other hother => h other (List.mem_cons_of_mem line hother)) s'
      | close s' => rfl
      | fail error s' => rfl

/-- Where no line is bad, a stream does the same under any policy. -/
theorem process_withPolicy {p : StreamPipeline} {source : Source}
    (h : ∀ line ∈ (p.buffered source).lines, p.config.complaint? line = none)
    (policy : BadLinePolicy) (sink : Sink) :
    ((p.withPolicy policy).process source sink).1 = (p.process source sink).1 := by
  have hlines := takeLines_withPolicy h policy (.start p.config p.query sink)
  have hrun : (p.withPolicy policy).runStream source sink = p.runStream source sink := by
    rw [StreamPipeline.runStream_eq, StreamPipeline.runStream_eq, ← hlines]
    rfl
  rw [StreamPipeline.process_fst, StreamPipeline.process_fst, hrun]

/-! ### The first bad line -/

namespace StreamConfig

/-- A problem is about the length of a line if the line is too long, and
    otherwise about what stands in it. -/
theorem problem_cases {config : StreamConfig} {line : Bytes} {problem : LineProblem}
    (h : config.readLine line = .error problem) :
    (config.maxLineLength < line.length ∧
        problem = .tooLong line.length config.maxLineLength) ∨
      line.length ≤ config.maxLineLength ∧ ∃ fault, problem = .unreadable fault := by
  unfold readLine at h
  by_cases hlong : config.maxLineLength < line.length
  · rw [if_pos hlong] at h
    cases h
    exact .inl ⟨hlong, rfl⟩
  · rw [if_neg hlong] at h
    refine .inr ⟨Nat.le_of_not_lt hlong, ?_⟩
    cases hread : config.inputFormat.readBytes line with
    | error fault =>
        rw [hread] at h
        cases h
        exact ⟨fault, rfl⟩
    | ok carried =>
        rw [hread] at h
        cases h

end StreamConfig

/-- What is to be said about a bad line becomes the error of a stream that fails
    at it. -/
theorem takeLine_failFast {config : StreamConfig} {line : Bytes}
    (h : (config.complaint? line).isSome) (s : StreamState) :
    ∃ reason error, config.complaint? line = some reason ∧
      s.takeLine (config.withPolicy .failFast) line = .fail error s.counted ∧
      ((config.maxLineLength < line.length ∧
          error = .lineTooLong line.length config.maxLineLength ∧ error.message = reason) ∨
        line.length ≤ config.maxLineLength ∧
          error = .parse (s.statistics.linesSeen + 1) config.inputFormat.name reason) := by
  have hread : (config.withPolicy .failFast).readLine line = config.readLine line := rfl
  rcases config.readLine_cases line with
    ⟨problem, hproblem, hcomplaint, _⟩ | ⟨_, hcomplaint, _⟩ | ⟨_, _, hcomplaint, _⟩
  · refine ⟨problem.message, problem.toError (s.statistics.linesSeen + 1) config.inputFormat,
      hcomplaint, ?_, ?_⟩
    · exact StreamState.takeLine_of_turnOf (.refused (hread.trans hproblem) rfl)
    · rcases config.problem_cases hproblem with ⟨hlong, rfl⟩ | ⟨hshort, fault, rfl⟩
      · exact .inl ⟨hlong, rfl, rfl⟩
      · exact .inr ⟨hshort, rfl⟩
  · rw [hcomplaint] at h
    cases h
  · rw [hcomplaint] at h
    cases h

/-! ### Whole streams -/

namespace StreamPipeline

/-- What comes of an input through the buffer of a pipeline. -/
def delivered (p : StreamPipeline) (input : Bytes) : Bytes :=
  if p.config.bufferSize = 0 then [] else input

theorem lines_buffered (p : StreamPipeline) (input : Bytes) :
    (p.buffered (.ofBytes input)).lines = cutLines (p.delivered input) := by
  rw [← lines_ofBytes]
  unfold buffered delivered
  by_cases hsize : p.config.bufferSize = 0
  · rw [if_pos hsize]
    cases input with
    | nil => simp only [Source.ofBytes, List.isEmpty_nil, Bool.not_true, Bool.and_false,
        Bool.false_eq_true, if_false]
    | cons b rest => simp only [Source.ofBytes, hsize, List.isEmpty_cons, Bool.not_false,
        decide_true, Bool.and_self, if_true]
  · simp only [hsize, decide_false, Bool.false_and, Bool.false_eq_true, if_false]

theorem cutLines_delivered_headLines (p : StreamPipeline) (n : Nat) (input : Bytes) :
    cutLines (p.delivered (headLines n input)) = (cutLines (p.delivered input)).take n := by
  unfold delivered
  by_cases hsize : p.config.bufferSize = 0
  · rw [if_pos hsize, if_pos hsize, cutLines_nil, List.take_nil]
  · rw [if_neg hsize, if_neg hsize, cutLines_headLines]

theorem failure_buffered (p : StreamPipeline) (input : Bytes) :
    (p.buffered (.ofBytes input)).failure = none := by
  unfold buffered
  split
  · rfl
  · rfl

/-- A stream that has taken all lines of its input ends well if its sink does
    not fail. -/
theorem process_of_goOn {p : StreamPipeline} {sink : Sink} {input : Bytes} {s : StreamState}
    (h : (StreamState.start p.config p.query sink).takeLines p.config
      (cutLines (p.delivered input)) = .goOn s)
    (hflush : s.sink.flushFailure = none) :
    (p.process (.ofBytes input) sink).1 = (.ok s.statistics, s.sink) := by
  rw [process_fst]
  rw [runStream_eq]
  simp only [lines_buffered, h, failure_buffered, Turn.conclude, StreamState.finish, hflush]

/-- A stream that fails at a line leaves its pipeline as it was. -/
theorem process_of_fail {p : StreamPipeline} {sink : Sink} {input : Bytes}
    {error : ProcessingError} {s : StreamState}
    (h : (StreamState.start p.config p.query sink).takeLines p.config
      (cutLines (p.delivered input)) = .fail error s) :
    p.process (.ofBytes input) sink = ((.error error, s.sink), p) := by
  have hrun : p.runStream (.ofBytes input) sink = (.error error, s.sink) := by
    rw [runStream_eq, lines_buffered, h]
    rfl
  unfold process
  rw [hrun]
  rfl

end StreamPipeline

/-! ### Two policies -/

section

variable {p : StreamPipeline} {sink : Sink}

/-- A stream that goes on takes any lines, and its sink stays without a failure. -/
theorem takeLines_skip (hroom : sink.room = none) (hflush : sink.flushFailure = none)
    (lines : List Bytes) :
    ∃ s, (StreamState.start p.config p.query sink).takeLines (p.config.withPolicy .skip) lines =
        .goOn s ∧
      s.sink.flushFailure = none ∧
      Advances (p.config.withPolicy .skip) (.start p.config p.query sink) lines s := by
  have hstart : (StreamState.start p.config p.query sink).sink.room = none := hroom
  rcases @takeLines_advances (p.config.withPolicy .skip) _ rfl hstart lines with
    ⟨s, hlines, hadvance⟩
  exact ⟨s, hlines, hadvance.flushFailure.trans hflush, hadvance⟩

/-- A stream that fails fast comes to its first bad line in the state in which
    the other one comes there, and stops. -/
theorem takeLines_failFast {before after : List Bytes} {bad : Bytes} {s s₁ : StreamState}
    {error : ProcessingError} (hbefore : ∀ line ∈ before, p.config.complaint? line = none)
    (htaken : s.takeLines (p.config.withPolicy .skip) before = .goOn s₁)
    (hfail : s₁.takeLine (p.config.withPolicy .failFast) bad = .fail error s₁.counted) :
    s.takeLines (p.config.withPolicy .failFast) (before ++ bad :: after) =
      .fail error s₁.counted := by
  rw [takeLines_withPolicy hbefore] at htaken
  rw [StreamState.takeLines_append, takeLines_withPolicy hbefore, htaken]
  simp only [StreamState.takeLines, hfail]

end

/-- Failing fast agrees with going on without the bad lines up to the first of
    them. If no line is bad, the two streams end well and alike. If a line is the
    first bad one, the stream that fails there has written what the other one
    writes for the input cut in front of that line; its error has the number of
    the line and the reason that is the first on the list of the other stream, or
    that reason is the message of the error, if the line is too long; and the
    pipeline is what it was. -/
theorem failFast_follows_skip (p : StreamPipeline) (sink : Sink) (hroom : sink.room = none)
    (hflush : sink.flushFailure = none) (input : Bytes) :
    let failFast := p.withPolicy .failFast
    let skip := p.withPolicy .skip
    let lines := cutLines (p.delivered input)
    ((∀ line ∈ lines, p.config.complaint? line = none) →
      ∃ (statistics : Statistics) (sink' : Sink),
        (failFast.process (.ofBytes input) sink).1 = (.ok statistics, sink') ∧
        (skip.process (.ofBytes input) sink).1 = (.ok statistics, sink')) ∧
    ∀ before bad after, lines = before ++ bad :: after →
      (∀ line ∈ before, p.config.complaint? line = none) → (p.config.complaint? bad).isSome →
      ∃ (error : ProcessingError) (reason : String) (sink' sinkSkip : Sink)
        (counts countsSkip : Statistics),
        p.config.complaint? bad = some reason ∧
        failFast.process (.ofBytes input) sink = ((.error error, sink'), failFast) ∧
        (skip.process (.ofBytes (headLines before.length input)) sink).1 = (.ok counts, sink') ∧
        (skip.process (.ofBytes input) sink).1 = (.ok countsSkip, sinkSkip) ∧
        countsSkip.badLines[0]? =
          some ⟨before.length + 1, p.config.inputFormat.name, reason⟩ ∧
        ((p.config.maxLineLength < bad.length ∧
            error = .lineTooLong bad.length p.config.maxLineLength ∧ error.message = reason) ∨
          bad.length ≤ p.config.maxLineLength ∧
            error = .parse (before.length + 1) p.config.inputFormat.name reason) := by
  intro failFast skip lines
  refine ⟨fun hnone => ?_, fun before bad after hsplit hbefore hbad => ?_⟩
  · rcases takeLines_skip hroom hflush lines with ⟨s, hlines, hend, _⟩
    have hskip : (skip.process (.ofBytes input) sink).1 = (.ok s.statistics, s.sink) :=
      StreamPipeline.process_of_goOn hlines hend
    have hsame : ∀ policy, ((p.withPolicy policy).process (.ofBytes input) sink).1 =
        (p.process (.ofBytes input) sink).1 := by
      intro policy
      refine process_withPolicy ?_ policy sink
      rw [StreamPipeline.lines_buffered]
      exact hnone
    exact ⟨s.statistics, s.sink, (hsame .failFast).trans ((hsame .skip).symm.trans hskip), hskip⟩
  · rcases takeLines_skip hroom hflush before with ⟨s₁, htaken, hend₁, hadvance₁⟩
    rcases takeLines_skip hroom hflush lines with ⟨s₂, hlines, hend₂, hadvance₂⟩
    rcases takeLine_failFast hbad s₁ with ⟨reason, error, hreason, hfail, herror⟩
    have hseen : s₁.statistics.linesSeen = before.length :=
      hadvance₁.linesSeen.trans (Nat.zero_add _)
    have hstops : (StreamState.start p.config p.query sink).takeLines
        (p.config.withPolicy .failFast) lines = .fail error s₁.counted := by
      rw [hsplit]
      exact takeLines_failFast hbefore htaken hfail
    have hfailed := @StreamPipeline.process_of_fail failFast sink input _ _ hstops
    -- The head of the input has the lines in front of the bad one, and no others.
    have hcut : cutLines (skip.delivered (headLines before.length input)) = before := by
      have hdelivered : cutLines (skip.delivered input) = before ++ bad :: after := hsplit
      rw [StreamPipeline.cutLines_delivered_headLines, hdelivered, List.take_left]
    have hnoted : s₂.statistics.badLines.toList =
        p.config.badLinesFrom 1 (before ++ bad :: after) := by
      rw [← hsplit]
      exact hadvance₂.badLines
    refine ⟨error, reason, s₁.sink, s₂.sink, s₁.statistics, s₂.statistics, hreason, hfailed,
      StreamPipeline.process_of_goOn ?_ hend₁, StreamPipeline.process_of_goOn hlines hend₂,
      ?_, ?_⟩
    · rw [hcut]
      exact htaken
    · rw [← Array.getElem?_toList, hnoted, StreamConfig.badLinesFrom_first hbefore hreason,
        Nat.add_comm 1]
      rfl
    · rw [← hseen]
      exact herror

/-- The third line of the chained input is the first that is bad, and a stream
    that fails there has written the record in front of it. -/
theorem failFast_follows_skip_chainedInput :
    Sink.empty.room = none ∧ Sink.empty.flushFailure = none ∧
      ∃ sink', (chainedPipeline.withPolicy .failFast).process (.ofBytes chainedInput) .empty =
          ((.error (.parse 3 "logfmt" "Expected '=' after key 'broken'"), sink'),
            chainedPipeline.withPolicy .failFast) ∧
        sink'.written.toList = Utf8.ofString "a=1\n" := by
  rcases (failFast_follows_skip chainedPipeline .empty rfl rfl chainedInput).2
      [Utf8.ofString "a=1", Utf8.ofString " "] (Utf8.ofString "broken")
      [[0xff], Utf8.ofString "a=123456789", Utf8.ofString "a=2"]
      (by decide +kernel) (by decide +kernel) (by decide +kernel) with
    ⟨error, reason, sink', _, counts, _, hreason, hfailed, hcut, _, _, herror⟩
  have hwords : reason = "Expected '=' after key 'broken'" := by
    have hcomplaint : chainedPipeline.config.complaint? (Utf8.ofString "broken") =
        some "Expected '=' after key 'broken'" := by decide +kernel
    exact Option.some.inj (hreason.symm.trans hcomplaint)
  rcases herror with ⟨hlong, _⟩ | ⟨_, rfl⟩
  · exact absurd hlong (by decide +kernel)
  · refine ⟨rfl, rfl, sink', ?_, ?_⟩
    · rw [hfailed, hwords]
      rfl
    · have hsink := congrArg (fun outcome => outcome.2.written.toList) hcut
      rw [← hsink]
      decide +kernel

end LogQuery
