import LogQuery.Proofs.Stream.Emitted
import LogQuery.Stream.Calls

/-!
# From Call to Call

A stream that writes to a writer is a machine, and this module says where its steps
lead. Nothing is said about how many steps there are: a writer may take its bytes one
by one or all at once, and the moments that are reached are the same.

The bytes of one record are the one place where the writer matters. As long as it has
room they are taken, in whatever portions (`reaches_rest`), so a stream that stays
within the limit reaches what it reaches with a sink that takes everything
(`reaches_lines`, `reaches_ended`). When the room is used up and bytes are left, the
next call decides. If it fails, the turn ends as it does with a sink of the same room
and failure, which is what makes sinks the right thing to take streams with
(`reaches_write`). If it is interrupted, the moment is its own successor, and the
stream never leaves it (`next_interrupted`).

## Main definitions

* `Moment.Reaches`: Some steps lead from one moment to another.
* `Sink.limited`: A sink under a limit.
* `StreamPipeline.EndsOver`, `StreamPipeline.NeverEndsOver`: A stream that writes to a
  writer ends, or it does not.

## Theorems

* `after_add`: Steps are made one after the other.
* `reaches_rest`: The calls for some bytes, up to the limit.
* `next_failed`, `next_interrupted`: The call behind the limit.
* `reaches_write`: The calls of a writer that fails come to what a sink does at once.
* `reaches_lines`, `reaches_ended`: Within its limit a writer is not noticed.
* `endsOver_unique`: A stream comes to one thing at most.
* `neverEndsOver_of_reaches`: A stream that is stuck comes to nothing.
* `endsOver_process`: What a stream comes to with a writer that fails is what it comes
  to with a sink of the same room and failure.
-/

namespace LogQuery

/-! ### Written bytes -/

theorem size_appendList (written : Array UInt8) (bytes : Bytes) :
    (written ++ bytes).size = written.size + bytes.length := by
  rw [← Array.length_toList, Array.toList_appendList, List.length_append, Array.length_toList]

theorem appendList_append (written : Array UInt8) (xs ys : Bytes) :
    written ++ xs ++ ys = written ++ (xs ++ ys) := by
  apply Array.toList_inj.mp
  rw [Array.toList_appendList, Array.toList_appendList, Array.toList_appendList,
    List.append_assoc]

/-- The same sink, if it takes so many bytes in all and then fails. -/
def Sink.limited (n : Nat) (failure : Failure) (s : Sink) : Sink :=
  { s with room := some (n - s.written.size, failure) }

variable {config : StreamConfig} {w : Writer}

namespace Moment

/-! ### Steps -/

theorem after_add (config : StreamConfig) (w : Writer) (first second : Nat) (m : Moment) :
    after config w (first + second) m = after config w second (after config w first m) := by
  induction first generalizing m with
  | zero => rw [Nat.zero_add, after]
  | succ n ih => rw [Nat.succ_add, after, after, ih]

/-- A moment that is its own successor is never left. -/
theorem after_of_next_eq {m : Moment} (h : m.next config w = m) (steps : Nat) :
    after config w steps m = m := by
  induction steps with
  | zero => rfl
  | succ n ih => rw [after, h, ih]

/-- Some steps lead from one moment to another. -/
def Reaches (config : StreamConfig) (w : Writer) (m m' : Moment) : Prop :=
  ∃ steps, after config w steps m = m'

theorem Reaches.refl (m : Moment) : Reaches config w m m := ⟨0, rfl⟩

theorem Reaches.trans {m m' m'' : Moment} (h : Reaches config w m m')
    (h' : Reaches config w m' m'') : Reaches config w m m'' := by
  rcases h with ⟨first, rfl⟩
  rcases h' with ⟨second, rfl⟩
  exact ⟨first + second, after_add config w first second m⟩

theorem reaches_next {m m' : Moment} (h : m.next config w = m') : Reaches config w m m' := ⟨1, h⟩

theorem written_ended (turn : Turn) :
    (ended turn).written = turn.state.sink.written.toList := by
  cases turn <;> rfl

/-! ### One call -/

variable {s : StreamState} {bytes : Bytes} {lines : List Bytes}

/-- A writer that has room takes at least one byte, and no more than it is offered or
    has room for. -/
theorem answer_of_room {position offered : Nat} (hroom : position < w.limit)
    (hoffered : 0 < offered) :
    ∃ count, w.answer position offered = .taken count ∧ 0 < count ∧ count ≤ offered ∧
      position + count ≤ w.limit := by
  refine ⟨_, if_pos hroom, ?_, ?_, ?_⟩
  · omega
  · omega
  · omega

theorem next_taken {count : Nat} (hbytes : bytes ≠ [])
    (h : w.answer s.sink.written.size bytes.length = .taken count) :
    (writing bytes s lines).next config w = .writing (bytes.drop count)
      { s with sink.written := s.sink.written ++ bytes.take count } lines := by
  rcases List.exists_cons_of_ne_nil hbytes with ⟨b, rest, rfl⟩
  simp only [next, h]

/-- Behind its limit a writer that fails ends the turn. -/
theorem next_failed (config : StreamConfig) {failure : Failure} (hbytes : bytes ≠ [])
    (hfull : w.limit ≤ s.sink.written.size) (hfault : w.fault = .failure failure)
    (lines : List Bytes) :
    (writing bytes s lines).next config w = .ended (s.answered (some failure)) := by
  rcases List.exists_cons_of_ne_nil hbytes with ⟨b, rest, rfl⟩
  simp only [next, Writer.answer, if_neg (Nat.not_lt_of_le hfull), hfault]

/-- Behind its limit a writer that interrupts leaves everything as it is. -/
theorem next_interrupted (config : StreamConfig) (hbytes : bytes ≠ [])
    (hfull : w.limit ≤ s.sink.written.size) (hfault : w.fault = .interruption)
    (lines : List Bytes) :
    (writing bytes s lines).next config w = writing bytes s lines := by
  rcases List.exists_cons_of_ne_nil hbytes with ⟨b, rest, rfl⟩
  simp only [next, Writer.answer, if_neg (Nat.not_lt_of_le hfull), hfault]

/-! ### The bytes of one record -/

/-- The writer takes bytes until none are left or its limit is reached. -/
theorem reaches_rest (config : StreamConfig) (w : Writer) (s : StreamState) (bytes : Bytes)
    (lines : List Bytes) :
    Reaches config w (.writing bytes s lines)
      (.writing (bytes.drop (w.limit - s.sink.written.size))
        { s with
          sink.written := s.sink.written ++ bytes.take (w.limit - s.sink.written.size) }
        lines) := by
  induction hlength : bytes.length using Nat.strongRecOn generalizing bytes s with
  | ind n ih =>
      by_cases hbytes : bytes = []
      · rw [hbytes, List.drop_nil, List.take_nil, Array.appendList_nil]
        exact .refl _
      rcases Nat.lt_or_ge s.sink.written.size w.limit with hroom | hfull
      · -- One call leaves fewer bytes to be written, and as much less room.
        rcases answer_of_room hroom (List.length_pos_iff.mpr hbytes) with
          ⟨count, hanswer, hpos, hcount, hlimit⟩
        have hsize : (s.sink.written ++ bytes.take count).size = s.sink.written.size + count := by
          rw [size_appendList, List.length_take_of_le hcount]
        have hleft : w.limit - s.sink.written.size =
            count + (w.limit - (s.sink.written ++ bytes.take count).size) := by omega
        have hrest := ih (bytes.drop count).length (by rw [List.length_drop]; omega)
          { s with sink.written := s.sink.written ++ bytes.take count } _ rfl
        simp only [List.drop_drop, appendList_append, ← List.take_add, ← hleft] at hrest
        exact (reaches_next (next_taken hbytes hanswer)).trans hrest
      · rw [Nat.sub_eq_zero_of_le hfull, List.drop_zero, List.take_zero, Array.appendList_nil]
        exact .refl _

/-- Bytes for which there is room are written. -/
theorem reaches_of_fits (hfits : s.sink.written.size + bytes.length ≤ w.limit) :
    Reaches config w (.writing bytes s lines)
      (({ s with sink.written := s.sink.written ++ bytes }.answered none).followedBy lines) := by
  have hlength : bytes.length ≤ w.limit - s.sink.written.size := by omega
  have hrest := reaches_rest config w s bytes lines
  rw [List.drop_of_length_le hlength, List.take_of_length_le hlength] at hrest
  exact hrest.trans (reaches_next rfl)

/-- Where the writer has room for some of the bytes only, the others are left, and it
    has none after them. -/
theorem drop_of_over (hover : w.limit < s.sink.written.size + bytes.length)
    (hsize : s.sink.written.size ≤ w.limit) :
    bytes.drop (w.limit - s.sink.written.size) ≠ [] ∧
      (s.sink.written ++ bytes.take (w.limit - s.sink.written.size)).size = w.limit := by
  have hlength : w.limit - s.sink.written.size < bytes.length := by omega
  constructor
  · rw [ne_eq, List.drop_eq_nil_iff]
    exact Nat.not_le_of_lt hlength
  · rw [size_appendList, List.length_take_of_le (Nat.le_of_lt hlength)]
    omega

/-- Nothing follows a turn that has failed to write. -/
theorem followedBy_answered (failure : Failure) (s : StreamState) (lines : List Bytes) :
    (s.answered (some failure)).followedBy lines = .ended (s.answered (some failure)) := by
  rcases s.answered_cases failure with ⟨_, hclose⟩ | ⟨_, hfail⟩
  · rw [hclose]
    rfl
  · rw [hfail]
    rfl

/-- The calls of a writer that fails come to what a sink does at once that has as much
    room left and then the same failure. -/
theorem reaches_write (config : StreamConfig) {failure : Failure}
    (hfault : w.fault = .failure failure)
    (hsize : s.sink.written.size ≤ w.limit) (bytes : Bytes) (lines : List Bytes) :
    let result := (s.sink.limited w.limit failure).write bytes
    Reaches config w (.writing bytes s lines)
      (({ s with sink.written := result.2.written }.answered result.1).followedBy lines) := by
  by_cases hfits : s.sink.written.size + bytes.length ≤ w.limit
  · have hlength : bytes.length ≤ w.limit - s.sink.written.size := by omega
    simp only [Sink.write, Sink.limited, if_pos hlength]
    exact reaches_of_fits hfits
  · have hlength : ¬ bytes.length ≤ w.limit - s.sink.written.size := by omega
    rcases drop_of_over (Nat.lt_of_not_le hfits) hsize with ⟨hleft, hfull⟩
    simp only [Sink.write, Sink.limited, if_neg hlength]
    have hstop := next_failed config hleft (s := { s with
      sink.written := s.sink.written ++ bytes.take (w.limit - s.sink.written.size) })
      (Nat.le_of_eq hfull.symm) hfault lines
    refine (reaches_rest config w s bytes lines).trans (reaches_next (hstop.trans ?_))
    exact (followedBy_answered failure _ lines).symm

end Moment

/-! ### Lines within the limit -/

namespace StreamState

variable {s s' : StreamState}

/-- The end of a turn leaves the sink as it is. -/
theorem sink_answered (s : StreamState) (answer : Option Failure) :
    (s.answered answer).state.sink = s.sink := by
  cases answer with
  | none => rfl
  | some failure =>
      rcases s.answered_cases failure with ⟨_, hclose⟩ | ⟨_, hfail⟩
      · rw [hclose]
        rfl
      · rw [hfail]
        rfl

/-- A stream whose output nobody reads ends well if its sink has nothing to lose. -/
theorem conclude_answered_brokenPipe {failure : Failure} {behind : Option Failure}
    (hkind : failure.kind = .brokenPipe) (hflush : s.sink.flushFailure = none) :
    (s.answered (some failure)).conclude behind = (.ok s.statistics, s.sink) := by
  simp only [answered, if_pos hkind, Turn.conclude, finish, hflush]

/-- A stream whose output cannot be written for another reason fails. -/
theorem conclude_answered_of_ne {failure : Failure} {behind : Option Failure}
    (hkind : failure.kind ≠ .brokenPipe) :
    (s.answered (some failure)).conclude behind = (.error (.io failure), s.sink) := by
  simp only [answered, if_neg hkind, Turn.conclude]

/-- What a line asks to be written is asked of the sink that the stream has. -/
theorem sink_of_demand {line bytes : Bytes} (h : s.demand config line = .write bytes s') :
    s'.sink = s.sink := by
  unfold demand at h
  split at h
  · cases h
  · cases h
  · unfold takeRecord at h
    simp only [] at h
    split at h
    · cases h
      rfl
    · cases h

/-- A sink without a limit stays without one. -/
theorem room_of_takeLine {line : Bytes} (hroom : s.sink.room = none)
    (h : s.takeLine config line = .goOn s') : s'.sink.room = none := by
  have hlines : s.takeLines config [line] = .goOn s' := by
    rw [takeLines, h]
    rfl
  exact (advances_of_goOn hroom hlines).room.trans hroom

/-- A sink without a limit has no less behind some lines than in front of them. -/
theorem size_le_takeLines (hroom : s.sink.room = none) (lines : List Bytes) :
    s.sink.written.size ≤ (s.takeLines config lines).state.sink.written.size := by
  rcases takeLines_taken hroom lines with ⟨s', hlines, hsink⟩
  rw [hsink, ← Array.length_toList, ← Array.length_toList, (advances_of_goOn hroom hlines).written,
    List.length_append]
  exact Nat.le_add_right _ _

end StreamState

namespace Moment

variable {s : StreamState}

/-- A turn that stays within the limit is taken. -/
theorem reaches_turn (hroom : s.sink.room = none) {line : Bytes}
    (hfits : (s.takeLine config line).state.sink.written.size ≤ w.limit) (rest : List Bytes) :
    Reaches config w (.reading s (line :: rest)) ((s.takeLine config line).followedBy rest) := by
  cases hdemand : s.demand config line with
  | nothing turn =>
      rw [StreamState.takeLine_of_nothing hdemand]
      exact reaches_next (by simp only [next, hdemand])
  | write bytes s' =>
      have hsink := StreamState.sink_of_demand hdemand
      have hline : s.takeLine config line =
          { s' with sink.written := s'.sink.written ++ bytes }.answered none := by
        unfold StreamState.takeLine
        simp only [hdemand, Sink.write_of_room (hsink ▸ hroom)]
      -- The bytes fit, so how the writer portions them is not seen.
      rw [hline, StreamState.answered, Turn.state, size_appendList] at hfits
      rw [hline]
      exact (reaches_next (by simp only [next, hdemand])).trans (reaches_of_fits hfits)

/-- Lines are taken as long as the stream stays within the limit. -/
theorem reaches_lines {lines : List Bytes} (hroom : s.sink.room = none)
    (hfits : (s.takeLines config lines).state.sink.written.size ≤ w.limit) (rest : List Bytes) :
    Reaches config w (.reading s (lines ++ rest)) ((s.takeLines config lines).followedBy rest) := by
  induction lines generalizing s with
  | nil => exact .refl _
  | cons line more ih =>
      rw [StreamState.takeLines] at hfits ⊢
      cases hline : s.takeLine config line with
      | goOn s₁ =>
          rw [hline] at hfits
          have hroom₁ := StreamState.room_of_takeLine hroom hline
          -- The sink only grows, so what has room behind all lines has room behind the first.
          have hfirst : (s.takeLine config line).state.sink.written.size ≤ w.limit := by
            rw [hline]
            exact Nat.le_trans (StreamState.size_le_takeLines hroom₁ more) hfits
          have hturn := reaches_turn hroom hfirst (more ++ rest)
          rw [hline] at hturn
          exact hturn.trans (ih hroom₁ hfits)
      | close s₁ | fail error s₁ =>
          have hfirst : (s.takeLine config line).state.sink.written.size ≤ w.limit := by
            rw [hline] at hfits ⊢
            exact hfits
          have hturn := reaches_turn hroom hfirst (more ++ rest)
          rw [hline] at hturn
          exact hturn

/-- A stream that stays within the limit ends as it does with a sink that takes
    everything. -/
theorem reaches_ended {lines : List Bytes} (hroom : s.sink.room = none)
    (hfits : (s.takeLines config lines).state.sink.written.size ≤ w.limit) :
    Reaches config w (.reading s lines) (.ended (s.takeLines config lines)) := by
  have hlines := reaches_lines hroom hfits []
  rw [List.append_nil] at hlines
  cases hturn : s.takeLines config lines with
  | goOn s' =>
      rw [hturn] at hlines
      exact hlines.trans (reaches_next rfl)
  | close s' | fail error s' =>
      rw [hturn] at hlines
      exact hlines

end Moment

/-! ### Whole streams -/

namespace StreamPipeline

variable {p : StreamPipeline} {source : Source}

/-- A stream that writes to a writer ends, and comes to this. -/
def EndsOver (p : StreamPipeline) (source : Source) (w : Writer)
    (outcome : (Except ProcessingError Statistics × Sink) × StreamPipeline) : Prop :=
  ∃ steps, p.processAfter source w steps = some outcome

/-- A stream that writes to a writer does not end, however many steps it makes. -/
def NeverEndsOver (p : StreamPipeline) (source : Source) (w : Writer) : Prop :=
  ∀ steps, p.processAfter source w steps = none

/-- The moment before the first line. -/
def firstMoment (p : StreamPipeline) (source : Source) : Moment :=
  .reading (.start p.config p.query .empty) (p.buffered source).lines

theorem momentAfter_eq (p : StreamPipeline) (source : Source) (w : Writer) (steps : Nat) :
    p.momentAfter source w steps = Moment.after p.config w steps (p.firstMoment source) := by
  have hread := p.readThrough_eq source
  unfold momentAfter
  exact hread ▸ rfl

theorem processAfter_eq (p : StreamPipeline) (source : Source) (w : Writer) (steps : Nat) :
    p.processAfter source w steps =
      match p.momentAfter source w steps with
      | .ended turn => some (p.settle (turn.conclude (p.buffered source).failure))
      | _ => none := by
  have hread := p.readThrough_eq source
  unfold processAfter
  exact hread ▸ rfl

/-- A stream that comes to its end comes to what follows from its last turn. -/
theorem endsOver_of_reaches {turn : Turn}
    (h : Moment.Reaches p.config w (p.firstMoment source) (.ended turn)) :
    p.EndsOver source w (p.settle (turn.conclude (p.buffered source).failure)) := by
  rcases h with ⟨steps, hended⟩
  refine ⟨steps, ?_⟩
  rw [processAfter_eq, momentAfter_eq, hended]

/-- A stream that has ended makes no further steps. -/
theorem processAfter_add {steps : Nat}
    {outcome : (Except ProcessingError Statistics × Sink) × StreamPipeline}
    (h : p.processAfter source w steps = some outcome) (more : Nat) :
    p.processAfter source w (steps + more) = some outcome := by
  rw [processAfter_eq, momentAfter_eq] at h ⊢
  rw [Moment.after_add]
  cases hmoment : Moment.after p.config w steps (p.firstMoment source) with
  | reading s lines | writing bytes s lines =>
      rw [hmoment] at h
      cases h
  | ended turn =>
      rw [hmoment] at h
      rw [Moment.after_of_next_eq rfl]
      exact h

/-- A stream comes to one thing at most. -/
theorem endsOver_unique
    {outcome outcome' : (Except ProcessingError Statistics × Sink) × StreamPipeline}
    (h : p.EndsOver source w outcome) (h' : p.EndsOver source w outcome') :
    outcome = outcome' := by
  rcases h with ⟨steps, hsteps⟩
  rcases h' with ⟨steps', hsteps'⟩
  have hboth := processAfter_add hsteps steps'
  rw [Nat.add_comm, processAfter_add hsteps' steps] at hboth
  exact (Option.some.inj hboth).symm

/-- A stream that gets to a moment that is its own successor, and is not the end, does
    not end. -/
theorem neverEndsOver_of_reaches {bytes : Bytes} {s : StreamState} {lines : List Bytes}
    (h : Moment.Reaches p.config w (p.firstMoment source) (.writing bytes s lines))
    (hstuck : (Moment.writing bytes s lines).next p.config w = .writing bytes s lines) :
    p.NeverEndsOver source w := by
  rcases h with ⟨steps, hmoment⟩
  intro steps'
  -- If it had ended by then, it would still be at its end when it is at that moment.
  cases hended : p.processAfter source w steps' with
  | none => rfl
  | some outcome =>
      have hlater := processAfter_add hended steps
      rw [Nat.add_comm, processAfter_eq, momentAfter_eq, Moment.after_add, hmoment,
        Moment.after_of_next_eq hstuck] at hlater
      cases hlater

end StreamPipeline

/-! ### Sinks -/

namespace Sink

/-- A sink that takes so many bytes in all and then fails. -/
def ofRoom (n : Nat) (failure : Failure) : Sink := ⟨#[], some (n, failure), none⟩

/-- A sink under a limit stays under it. -/
theorem write_limited {n : Nat} {s : Sink} (hsize : s.written.size ≤ n) (failure : Failure)
    (bytes : Bytes) :
    let result := (s.limited n failure).write bytes
    result.2 = { s with written := result.2.written }.limited n failure ∧
      result.2.written.size ≤ n := by
  intro result
  by_cases hfits : bytes.length ≤ n - s.written.size
  · have hresult : result = (none, { s with
        written := s.written ++ bytes
        room := some (n - s.written.size - bytes.length, failure) }) :=
      if_pos hfits
    rw [hresult]
    simp only [limited, size_appendList, Nat.sub_sub, true_and]
    omega
  · have hresult : result = (some failure, { s with
        written := s.written ++ bytes.take (n - s.written.size), room := some (0, failure) }) :=
      if_neg hfits
    have hfull : (s.written ++ bytes.take (n - s.written.size)).size = n := by
      rw [size_appendList, List.length_take_of_le (by omega)]
      omega
    rw [hresult]
    simp only [limited, hfull, Nat.sub_self, true_and]
    exact Nat.le_refl n

end Sink

/-- The same stream with a limit to its sink. -/
def StreamState.limited (n : Nat) (failure : Failure) (s : StreamState) : StreamState :=
  { s with sink := s.sink.limited n failure }

namespace Turn

/-- The same turn with a limit to the sink that it leaves. -/
def limited (n : Nat) (failure : Failure) : Turn → Turn
  | goOn s => .goOn (s.limited n failure)
  | close s => .close (s.limited n failure)
  | fail error s => .fail error (s.limited n failure)

theorem limited_answered (n : Nat) (failure : Failure) (s : StreamState)
    (answer : Option Failure) :
    (s.answered answer).limited n failure = (s.limited n failure).answered answer := by
  cases answer with
  | none => rfl
  | some other =>
      by_cases hkind : other.kind = .brokenPipe
      · simp only [StreamState.answered, if_pos hkind]
        rfl
      · simp only [StreamState.answered, if_neg hkind]
        rfl

end Turn

namespace Moment

variable {s : StreamState} {failure : Failure}

/-- A turn ends with a writer that fails as it does with a sink. -/
theorem reaches_turn_limited (config : StreamConfig) (hfault : w.fault = .failure failure)
    (hroom : s.sink.room = none) (hsize : s.sink.written.size ≤ w.limit) (line : Bytes)
    (rest : List Bytes) :
    ∃ turn : Turn, Reaches config w (.reading s (line :: rest)) (turn.followedBy rest) ∧
      (s.limited w.limit failure).takeLine config line = turn.limited w.limit failure ∧
      turn.state.sink.room = none ∧ turn.state.sink.written.size ≤ w.limit := by
  have hturn := StreamState.takeLine_turnOf config s line
  have hreaches : (s.takeLine config line).state.sink.written.size ≤ w.limit →
      Reaches config w (.reading s (line :: rest)) ((s.takeLine config line).followedBy rest) :=
    fun h => reaches_turn hroom h rest
  generalize s.takeLine config line = turn at hturn hreaches
  -- Only a turn that writes looks at the sink.
  cases hturn with
  | blank hread =>
      exact ⟨_, hreaches hsize, StreamState.takeLine_of_turnOf (.blank hread), hroom, hsize⟩
  | bad hread hpolicy =>
      exact ⟨_, hreaches hsize, StreamState.takeLine_of_turnOf (.bad hread hpolicy), hroom, hsize⟩
  | refused hread hpolicy =>
      exact ⟨_, hreaches hsize, StreamState.takeLine_of_turnOf (.refused hread hpolicy), hroom,
        hsize⟩
  | dropped hread hrun =>
      exact ⟨_, hreaches hsize, StreamState.takeLine_of_turnOf (.dropped hread hrun), hroom, hsize⟩
  | @written record o hread hrun hwrite =>
      have hdemand := StreamState.demand_of_output hread hrun
      rcases Sink.write_limited hsize failure (Utf8.ofString (s.formatter.write o).1) with
        ⟨hsink, hresult⟩
      have hwriting := reaches_write config
        (s := { s.counted.ran record with formatter := (s.formatter.write o).2 }) hfault hsize
        (Utf8.ofString (s.formatter.write o).1) rest
      -- The calls leave what the sink has written; the room that is left there follows from it.
      refine ⟨_, (reaches_next (by simp only [next, hdemand])).trans hwriting, ?_, ?_, ?_⟩
      · rw [StreamState.takeLine_of_output (s := s.limited w.limit failure) hread hrun,
          Turn.limited_answered]
        have hwrote : ((s.limited w.limit failure).counted.ran record).wrote o =
            { s.counted.ran record with
              formatter := (s.formatter.write o).2
              sink := ((s.sink.limited w.limit failure).write
                (Utf8.ofString (s.formatter.write o).1)).2 } := rfl
        rw [hwrote, hsink]
        rfl
      · rw [StreamState.sink_answered]
        exact hroom
      · rw [StreamState.sink_answered]
        exact hresult
  -- A sink without a limit does not fail.
  | unread hread hrun hwrite hkind | unwritten hread hrun hwrite hkind =>
      rw [StreamState.writeFailure?_of_room hroom] at hwrite
      cases hwrite

/-- A stream ends with a writer that fails as it does with a sink. -/
theorem reaches_ended_limited (config : StreamConfig) (hfault : w.fault = .failure failure)
    (hroom : s.sink.room = none) (hsize : s.sink.written.size ≤ w.limit) (lines : List Bytes) :
    ∃ turn, Reaches config w (.reading s lines) (.ended turn) ∧
      (s.limited w.limit failure).takeLines config lines = turn.limited w.limit failure := by
  induction lines generalizing s with
  | nil => exact ⟨.goOn s, reaches_next rfl, rfl⟩
  | cons line rest ih =>
      rcases reaches_turn_limited config hfault hroom hsize line rest with
        ⟨turn, hreaches, hline, hroom₁, hsize₁⟩
      rw [StreamState.takeLines, hline]
      cases turn with
      | goOn s₁ =>
          rcases ih hroom₁ hsize₁ with ⟨turn, hended, hrest⟩
          exact ⟨turn, hreaches.trans hended, hrest⟩
      | close s₁ | fail error s₁ => exact ⟨_, hreaches, rfl⟩

end Moment

theorem StreamState.finish_limited (s : StreamState) (n : Nat) (failure : Failure) :
    (s.limited n failure).finish = (s.finish.1, s.finish.2.limited n failure) := by
  have hflush : (s.limited n failure).sink.flushFailure = s.sink.flushFailure := rfl
  unfold finish
  rw [hflush]
  cases s.sink.flushFailure with
  | none => rfl
  | some other =>
      by_cases hkind : other.kind = .brokenPipe
      · simp only [if_pos hkind]
        rfl
      · simp only [if_neg hkind]
        rfl

theorem Turn.conclude_limited (n : Nat) (failure : Failure) (behind : Option Failure)
    (turn : Turn) :
    (turn.limited n failure).conclude behind =
      ((turn.conclude behind).1, (turn.conclude behind).2.limited n failure) := by
  cases turn with
  | fail error s => rfl
  | close s => exact s.finish_limited n failure
  | goOn s =>
      cases behind with
      | none => exact s.finish_limited n failure
      | some other =>
          by_cases hkind : other.kind = .unexpectedEnd
          · simp only [limited, conclude, if_pos hkind]
            exact s.finish_limited n failure
          · simp only [limited, conclude, if_neg hkind]
            rfl

namespace StreamPipeline

/-- A stream that writes to a writer that fails comes to what the pipeline takes it to
    with a sink that has the same room and the same failure. -/
theorem endsOver_process {failure : Failure} (hfault : w.fault = .failure failure)
    (p : StreamPipeline) (source : Source) :
    ∃ sink, (p.process source (.ofRoom w.limit failure)).1.2 = sink.limited w.limit failure ∧
      p.EndsOver source w (((p.process source (.ofRoom w.limit failure)).1.1, sink),
        (p.process source (.ofRoom w.limit failure)).2) := by
  have hstart : (StreamState.start p.config p.query .empty).limited w.limit failure =
      StreamState.start p.config p.query (.ofRoom w.limit failure) := rfl
  rcases Moment.reaches_ended_limited p.config hfault
    (s := .start p.config p.query .empty) rfl (Nat.zero_le _) (p.buffered source).lines with
    ⟨turn, hended, hlimited⟩
  have hrun : p.runStream source (.ofRoom w.limit failure) =
      ((turn.conclude (p.buffered source).failure).1,
        (turn.conclude (p.buffered source).failure).2.limited w.limit failure) := by
    rw [runStream_eq, ← hstart, hlimited, Turn.conclude_limited]
  refine ⟨(turn.conclude (p.buffered source).failure).2, ?_, ?_⟩
  · rw [process_fst, hrun]
  · have hends : p.EndsOver source w (p.settle (turn.conclude (p.buffered source).failure)) :=
      endsOver_of_reaches hended
    revert hends
    unfold process
    rw [hrun]
    rcases turn.conclude (p.buffered source).failure with ⟨result, sink⟩
    -- What is counted depends on the result only.
    cases result with
    | ok counts => exact id
    | error error => exact id

end StreamPipeline

end LogQuery
