import LogQuery.Proofs.Stream.FailFast

/-!
# What a Stream Gives Out

The records that a stream gives out, and the bytes that it writes for them, said
for either policy. A stream that goes on without its bad lines takes every line.
One that fails at a bad line takes those in front of the first, which `taken`
cuts off; up to there the policies cannot be told apart, so what is known of the
one is known of the other. `emitted` is then what a fresh run gives out for the
records of the lines taken.

A sink without a limit gets the bytes of exactly these records, however the
stream ends (`written_free`): when it fails, at a bad line or because its source
fails, it has written everything that it has given out by then.

## Main definitions

* `Turn.state`: The state that a turn leaves.
* `StreamConfig.taken`: The lines that a stream takes.
* `StreamPipeline.emitted`: The records that a stream gives out.

## Theorems

* `takeLines_skip_of_goOn`: A stream that goes on does as one that goes on
  without its bad lines.
* `advances_of_goOn`: A stream that has gone on has advanced over its lines.
* `taken_cons`, `taken_cons_of_bad`: What one line does to the lines taken.
* `taken_append`: Behind lines that are taken the next ones are.
* `takeLines_taken`: A stream goes over the lines that it takes, and then ends or
  fails.
* `runStream_snd`: The sink of a stream is that of its last turn.
* `written_free`: What a stream writes to a sink without a limit.
-/

namespace LogQuery

/-- The state that a turn leaves. -/
def Turn.state : Turn → StreamState
  | goOn s | close s | fail _ s => s

namespace StreamState

variable {config : StreamConfig} {s : StreamState}

/-! ### Going on -/

/-- A stream that goes on has met no line about which its policy matters, or it
    goes on without such lines. -/
theorem takeLine_skip_of_goOn {s' : StreamState} {line : Bytes}
    (h : s.takeLine config line = .goOn s') :
    s.takeLine (config.withPolicy .skip) line = .goOn s' := by
  have hturn := takeLine_turnOf config s line
  rw [h] at hturn
  cases hturn with
  | blank hread => exact takeLine_of_turnOf (.blank hread)
  | bad hread hpolicy => exact takeLine_of_turnOf (.bad hread rfl)
  | dropped hread hrun => exact takeLine_of_turnOf (.dropped hread hrun)
  | written hread hrun hwrite => exact takeLine_of_turnOf (.written hread hrun hwrite)

theorem takeLines_skip_of_goOn {s' : StreamState} {lines : List Bytes}
    (h : s.takeLines config lines = .goOn s') :
    s.takeLines (config.withPolicy .skip) lines = .goOn s' := by
  induction lines generalizing s with
  | nil => exact h
  | cons line rest ih =>
      rcases takeLines_cons_eq_goOn h with ⟨s₁, hline, hrest⟩
      rw [takeLines, takeLine_skip_of_goOn hline]
      exact ih hrest

/-- A stream that has gone on has advanced over its lines. -/
theorem advances_of_goOn (hroom : s.sink.room = none) {s' : StreamState} {lines : List Bytes}
    (h : s.takeLines config lines = .goOn s') :
    Advances (config.withPolicy .skip) s lines s' := by
  rcases @takeLines_advances (config.withPolicy .skip) s rfl hroom lines with
    ⟨s'', hlines, hadvance⟩
  rw [takeLines_skip_of_goOn h] at hlines
  cases hlines
  exact hadvance

end StreamState

/-! ### Lines taken -/

/-- The lines that a stream takes: all of them, or those in front of the first bad
    one if it fails there. -/
def StreamConfig.taken (config : StreamConfig) (lines : List Bytes) : List Bytes :=
  match config.badLines with
  | .skip => lines
  | .failFast => lines.takeWhile fun line => (config.complaint? line).isNone

namespace StreamConfig

theorem taken_nil (config : StreamConfig) : config.taken [] = [] := by
  unfold taken
  cases config.badLines with
  | skip => rfl
  | failFast => rfl

theorem taken_of_skip {config : StreamConfig} (h : config.badLines = .skip) (lines : List Bytes) :
    config.taken lines = lines := by
  unfold taken
  rw [h]

/-- A stream that fails at bad lines takes a line that is not bad, and those behind
    it as if it had not been there. -/
theorem taken_cons {config : StreamConfig} (h : config.badLines = .failFast) {line : Bytes}
    (hgood : config.complaint? line = none) (rest : List Bytes) :
    config.taken (line :: rest) = line :: config.taken rest := by
  unfold taken
  simp only [h, List.takeWhile_cons, hgood, Option.isNone_none, if_true]

theorem taken_cons_of_bad {config : StreamConfig} (h : config.badLines = .failFast) {line : Bytes}
    (hbad : (config.complaint? line).isSome) (rest : List Bytes) :
    config.taken (line :: rest) = [] := by
  have hno : (config.complaint? line).isNone = false := by
    rw [← Option.not_isSome, hbad, Bool.not_true]
  unfold taken
  simp only [h, List.takeWhile_cons, hno, Bool.false_eq_true, if_false]

end StreamConfig

namespace StreamState

variable {config : StreamConfig} {s : StreamState}

/-- A stream that fails at bad lines goes on over a line that is not bad. -/
theorem complaint?_of_goOn {s' : StreamState} {line : Bytes} (hpolicy : config.badLines = .failFast)
    (h : s.takeLine config line = .goOn s') : config.complaint? line = none := by
  cases hcomplaint : config.complaint? line with
  | none => rfl
  | some reason =>
      have hbad : (config.complaint? line).isSome := by rw [hcomplaint]; rfl
      rcases takeLine_failFast hbad s with ⟨_, error, _, hfail, _⟩
      rw [StreamConfig.withPolicy_self hpolicy, h] at hfail
      cases hfail

/-- Behind lines over which a stream has gone it takes the next ones. -/
theorem taken_append {s' : StreamState} {before : List Bytes}
    (h : s.takeLines config before = .goOn s') (after : List Bytes) :
    config.taken (before ++ after) = before ++ config.taken after := by
  cases hpolicy : config.badLines with
  | skip => rw [StreamConfig.taken_of_skip hpolicy, StreamConfig.taken_of_skip hpolicy]
  | failFast =>
      -- Each line before is one over which the stream has gone, so it is not bad.
      induction before generalizing s with
      | nil => rfl
      | cons line rest ih =>
          rcases takeLines_cons_eq_goOn h with ⟨s₁, hline, hrest⟩
          have hgood := complaint?_of_goOn hpolicy hline
          rw [List.cons_append, StreamConfig.taken_cons hpolicy hgood, ih hrest, List.cons_append]

/-- A stream whose sink takes everything goes over the lines that it takes, and
    then it has no lines left or fails at the next one. -/
theorem takeLines_taken (hroom : s.sink.room = none) (lines : List Bytes) :
    ∃ s', s.takeLines config (config.taken lines) = .goOn s' ∧
      (s.takeLines config lines).state.sink = s'.sink := by
  cases hpolicy : config.badLines with
  | skip =>
      rcases takeLines_advances hpolicy hroom lines with ⟨s', hlines, _⟩
      rw [StreamConfig.taken_of_skip hpolicy, hlines]
      exact ⟨s', rfl, rfl⟩
  | failFast =>
      induction lines generalizing s with
      | nil =>
          rw [StreamConfig.taken_nil]
          exact ⟨s, rfl, rfl⟩
      | cons line rest ih =>
          cases hcomplaint : config.complaint? line with
          | none =>
              -- The line is not bad, so the policy does not matter for it.
              rcases @takeLine_advances (config.withPolicy .skip) s rfl hroom line with
                ⟨s₁, hline, hadvance⟩
              rw [takeLine_withPolicy hcomplaint] at hline
              have hroom₁ : s₁.sink.room = none := hadvance.room.trans hroom
              rcases ih hroom₁ with ⟨s', htaken, hsink⟩
              rw [StreamConfig.taken_cons hpolicy hcomplaint, takeLines, takeLines, hline]
              exact ⟨s', htaken, hsink⟩
          | some reason =>
              -- Here the stream ends, with its sink as the lines taken have left it.
              have hbad : (config.complaint? line).isSome := by rw [hcomplaint]; rfl
              rcases takeLine_failFast hbad s with ⟨_, error, _, hfail, _⟩
              rw [StreamConfig.withPolicy_self hpolicy] at hfail
              rw [StreamConfig.taken_cons_of_bad hpolicy hbad]
              refine ⟨s, rfl, ?_⟩
              rw [takeLines, hfail]
              rfl

theorem finish_snd (s : StreamState) : s.finish.2 = s.sink := by
  unfold finish
  split
  · split
    · rfl
    · rfl
  · rfl

end StreamState

/-! ### Whole streams -/

/-- However a stream ends after a turn, its sink is the one that the turn leaves. -/
theorem Turn.conclude_snd (failure : Option Failure) (turn : Turn) :
    (turn.conclude failure).2 = turn.state.sink := by
  cases turn with
  | fail error s => rfl
  | close s => exact s.finish_snd
  | goOn s =>
      rcases conclude_goOn_cases failure s with hend | ⟨f, _, _, hfail⟩
      · rw [hend]
        exact s.finish_snd
      · rw [hfail]
        rfl

namespace StreamPipeline

/-- The records that a stream gives out: what a fresh run gives out for the records
    of the lines that the stream takes. -/
def emitted (p : StreamPipeline) (source : Source) : List OutputRecord :=
  (p.query.run (p.config.records (p.config.taken (p.buffered source).lines))).records

/-- The sink of a stream is that of its last turn, however it ends. -/
theorem runStream_snd (p : StreamPipeline) (source : Source) (sink : Sink) :
    (p.runStream source sink).2 =
      ((StreamState.start p.config p.query sink).takeLines p.config
        (p.buffered source).lines).state.sink := by
  rw [runStream_eq]
  exact Turn.conclude_snd _ _

/-- A sink without a limit gets the bytes of the records that the stream gives
    out. -/
theorem written_free (p : StreamPipeline) (source : Source) {sink : Sink}
    (hroom : sink.room = none) :
    (p.process source sink).1.2.written.toList = sink.written.toList ++
      ((OutputFormatter.start p.config.outputFormat p.config.useColors).writeAll
        (p.emitted source)).1 := by
  have hstart : (StreamState.start p.config p.query sink).sink.room = none := hroom
  rcases StreamState.takeLines_taken hstart (p.buffered source).lines with ⟨s', hlines, hsink⟩
  rw [process_fst, runStream_snd, hsink]
  exact (StreamState.advances_of_goOn hstart hlines).written

end StreamPipeline

end LogQuery
