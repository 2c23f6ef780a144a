import LogQuery.Proofs.Stream.Turns

/-!
# Nothing Is Lost in the Counts

Every line that a stream reads is a record, or a bad line, or it carries
nothing, and every record is written or dropped. The counts of a stream that has
ended well say so, whatever its source and its sink have done to it on the way,
with one exception: a stream closes quietly when nobody reads its output any
more, and the record that it was then about to write is neither written nor
dropped.

`Tallied` is what holds of the counts between two lines. It has a number of
records that are pending, which is zero as long as the stream goes on and one
where it has closed. Each line keeps it (`tallied_of_turnOf`), in as many cases
as there are turns, and so do lines in a row. A turn that fails has nothing to
keep, because its counts are thrown away.

The numbers of the bad lines come with it. A line is noted with the number that
it has just been given, so all numbers noted before are smaller.

## Main definitions

* `StreamConfig.carriesNothing`: A line that is read well has no record.
* `StreamPipeline.StopsUnread`: A stream closes at the last of some lines,
  because nobody reads its output.
* `Tallied`: The counts of a stream agree with the lines that it has read.

## Theorems

* `tallied_snoc`, `tallied_record`, `tallied_noted`: One more line, and the counts
  agree again.
* `tallied_of_turnOf`: Every turn keeps the counts in agreement.
* `takeLines_tallied`: So do turns in a row.
* `stopsUnread_of_close`, `close_of_stopsUnread`: A stream closes for one reason
  only, and for that reason it does close.
* `process_conserves`: The counts of a stream that has ended well.
-/

namespace LogQuery

/-- A line is read well and has no record. -/
def StreamConfig.carriesNothing (config : StreamConfig) (line : Bytes) : Bool :=
  match config.readLine line with
  | .ok none => true
  | .ok (some _) | .error _ => false

/-! ### Agreement -/

/-- Counts agree with the lines that have been read, and so many records are
    neither written nor dropped. -/
structure Tallied (config : StreamConfig) (read : List Bytes) (pending : Nat)
    (counts : Statistics) : Prop where
  linesSeen : counts.linesSeen = read.length
  fates : counts.linesSeen =
    counts.processed + counts.errors + read.countP config.carriesNothing
  records : counts.processed = counts.output + counts.skipped + pending
  errors : counts.errors = counts.badLines.size
  increasing : (counts.badLines.toList.map BadLine.line).Pairwise (· < ·)
  numbered : ∀ bad ∈ counts.badLines.toList, 1 ≤ bad.line ∧ bad.line ≤ counts.linesSeen

theorem tallied_nil (config : StreamConfig) : Tallied config [] 0 .zero where
  linesSeen := rfl
  fates := rfl
  records := rfl
  errors := rfl
  increasing := List.Pairwise.nil
  numbered := nofun

section

variable {config : StreamConfig} {read : List Bytes} {counts counts' : Statistics} {line : Bytes}

/-- A line that is not bad is a record or carries nothing. -/
theorem tallied_snoc {pending : Nat} (h : Tallied config read 0 counts)
    (hseen : counts'.linesSeen = counts.linesSeen + 1)
    (hfate : counts'.processed + (if config.carriesNothing line then 1 else 0) =
      counts.processed + 1)
    (hrecords : counts'.processed = counts'.output + counts'.skipped + pending)
    (herrors : counts'.errors = counts.errors) (hbadLines : counts'.badLines = counts.badLines) :
    Tallied config (read ++ [line]) pending counts' where
  linesSeen := by rw [hseen, h.linesSeen, List.length_append, List.length_singleton]
  fates := by
    have hfates := h.fates
    rw [List.countP_append, List.countP_singleton]
    omega
  records := hrecords
  errors := by rw [herrors, hbadLines, h.errors]
  increasing := by
    rw [hbadLines]
    exact h.increasing
  numbered := by
    intro bad hbad
    rw [hbadLines] at hbad
    have hnumber := h.numbered bad hbad
    omega

/-- A record that has been taken is written, or dropped, or pending. -/
theorem tallied_record {pending : Nat} {record : LogRecord} (h : Tallied config read 0 counts)
    (hread : config.readLine line = .ok (some record))
    (hseen : counts'.linesSeen = counts.linesSeen + 1)
    (hprocessed : counts'.processed = counts.processed + 1)
    (hrecord : counts'.output + counts'.skipped + pending = counts.output + counts.skipped + 1)
    (herrors : counts'.errors = counts.errors) (hbadLines : counts'.badLines = counts.badLines) :
    Tallied config (read ++ [line]) pending counts' := by
  have hline : config.carriesNothing line = false := by
    unfold StreamConfig.carriesNothing
    rw [hread]
  have hrecords := h.records
  refine tallied_snoc h hseen ?_ ?_ herrors hbadLines
  · rw [hline, hprocessed]
    rfl
  · omega

/-- A bad line is noted under the number of the line. -/
theorem tallied_noted {bad : BadLine} (h : Tallied config read 0 counts)
    (hline : config.carriesNothing line = false) (hbad : bad.line = counts.linesSeen + 1) :
    Tallied config (read ++ [line]) 0
      ({ counts with linesSeen := counts.linesSeen + 1 }.addBadLine bad) where
  linesSeen := by
    rw [List.length_append, List.length_singleton, ← h.linesSeen]
    rfl
  fates := by
    have hfates := h.fates
    rw [List.countP_append, List.countP_singleton, hline]
    simp only [Statistics.addBadLine, Bool.false_eq_true, if_false]
    omega
  records := h.records
  errors := by
    simp only [Statistics.addBadLine, Array.size_push, h.errors]
  increasing := by
    simp only [Statistics.addBadLine, Array.toList_push, List.map_append, List.map_cons,
      List.map_nil]
    rw [List.pairwise_append]
    refine ⟨h.increasing, List.pairwise_singleton _ _, ?_⟩
    -- No number is above that of the line before, and the new one is.
    intro number hnumber last hlast
    rw [List.mem_singleton.mp hlast, hbad]
    rcases List.mem_map.mp hnumber with ⟨earlier, hearlier, rfl⟩
    exact Nat.lt_succ_of_le (h.numbered earlier hearlier).2
  numbered := by
    intro other hother
    simp only [Statistics.addBadLine, Array.toList_push, List.mem_append,
      List.mem_singleton] at hother ⊢
    rcases hother with hearlier | rfl
    · have hnumber := h.numbered other hearlier
      omega
    · omega

end

/-! ### One line -/

/-- What a turn leaves agrees with the lines that have been read. A stream that
    has closed has a record pending. -/
def Turn.Tallies (config : StreamConfig) (read : List Bytes) : Turn → Prop
  | .goOn s => Tallied config read 0 s.statistics
  | .close s => Tallied config read 1 s.statistics
  | .fail _ _ => True

theorem tallied_of_turnOf {config : StreamConfig} {s : StreamState} {line : Bytes} {turn : Turn}
    {read : List Bytes} (hturn : TurnOf config s line turn)
    (h : Tallied config read 0 s.statistics) : turn.Tallies config (read ++ [line]) := by
  cases hturn with
  | blank hread =>
      have hline : config.carriesNothing line = true := by
        unfold StreamConfig.carriesNothing
        rw [hread]
      refine tallied_snoc h rfl ?_ h.records rfl rfl
      rw [hline]
      rfl
  | bad hread hpolicy =>
      have hline : config.carriesNothing line = false := by
        unfold StreamConfig.carriesNothing
        rw [hread]
      exact tallied_noted h hline rfl
  | dropped hread hrun => exact tallied_record h hread rfl rfl rfl rfl rfl
  | written hread hrun hwrite =>
      exact tallied_record h hread rfl rfl (Nat.add_right_comm _ 1 _) rfl rfl
  | unread hread hrun hwrite hkind => exact tallied_record h hread rfl rfl rfl rfl rfl
  -- The counts of a stream that has failed are not given out.
  | refused hread hpolicy => trivial
  | unwritten hread hrun hwrite hkind => trivial

/-! ### Several lines -/

theorem takeLines_tallied {config : StreamConfig} {s s' : StreamState} {read : List Bytes}
    (h : Tallied config read 0 s.statistics) {lines : List Bytes}
    (hlines : s.takeLines config lines = .goOn s') :
    Tallied config (read ++ lines) 0 s'.statistics := by
  induction lines generalizing s read with
  | nil =>
      cases hlines
      rw [List.append_nil]
      exact h
  | cons line rest ih =>
      rcases StreamState.takeLines_cons_eq_goOn hlines with ⟨s₁, hturn, hrest⟩
      have hline := tallied_of_turnOf (StreamState.takeLine_turnOf config s line) h
      rw [hturn] at hline
      rw [← List.singleton_append, ← List.append_assoc]
      exact ih hline hrest

/-- A stream comes to the last of some lines and closes there: the record of that
    line is given out, and nobody reads what is written of it. -/
def StreamPipeline.StopsUnread (p : StreamPipeline) (source : Source) (sink : Sink)
    (read : List Bytes) : Prop :=
  ∃ before line after s record o failure,
    (p.buffered source).lines = before ++ line :: after ∧ read = before ++ [line] ∧
    (StreamState.start p.config p.query sink).takeLines p.config before = .goOn s ∧
    p.config.readLine line = .ok (some record) ∧ (s.run.process record).1 = some o ∧
    s.writeFailure? o = some failure ∧ failure.kind = .brokenPipe

namespace StreamPipeline

/-- A stream that has closed has stopped because nobody reads its output, with
    the record of the last line pending. -/
theorem stopsUnread_of_close {p : StreamPipeline} {source : Source} {sink : Sink}
    {s' : StreamState} (h : (StreamState.start p.config p.query sink).takeLines p.config
      (p.buffered source).lines = .close s') :
    ∃ read, p.StopsUnread source sink read ∧ Tallied p.config read 1 s'.statistics := by
  rcases StreamState.takeLines_cases p.config (.start p.config p.query sink)
    (p.buffered source).lines with ⟨s, hgoOn⟩ | ⟨before, line, after, s, hsplit, hbefore, hstop⟩
  · rw [h] at hgoOn
    cases hgoOn
  · have hturn := StreamState.takeLine_turnOf p.config s line
    rw [← hstop, h] at hturn
    have htally := takeLines_tallied (tallied_nil p.config) hbefore
    rw [List.nil_append] at htally
    refine ⟨before ++ [line], ?_, tallied_of_turnOf hturn htally⟩
    cases hturn with
    | unread hread hrun hwrite hkind =>
        exact ⟨before, line, after, s, _, _, _, hsplit, rfl, hbefore, hread, hrun, hwrite, hkind⟩

/-- Where the conditions for closing are met, the stream does close. -/
theorem close_of_stopsUnread {p : StreamPipeline} {source : Source} {sink : Sink}
    {read : List Bytes} (h : p.StopsUnread source sink read) :
    ∃ s', (StreamState.start p.config p.query sink).takeLines p.config
      (p.buffered source).lines = .close s' := by
  rcases h with ⟨before, line, after, s, record, o, failure, hsplit, _, hbefore, hread, hrun,
    hwrite, hkind⟩
  have hline := StreamState.takeLine_of_turnOf (TurnOf.unread hread hrun hwrite hkind)
  refine ⟨((s.counted.ran record).wrote o), ?_⟩
  rw [hsplit, StreamState.takeLines_append, hbefore]
  simp only [StreamState.takeLines, hline]

end StreamPipeline

/-- The counts of a stream that has ended well, whatever its source and its sink
    have done to it. Every line that it has read is a record, or is bad, or
    carries nothing; every record is written or dropped, save the one at which
    the stream has closed because nobody reads its output, and without such a
    record all lines have been read. The bad lines are listed, under numbers that
    increase and are numbers of lines. -/
theorem process_conserves {p : StreamPipeline} {source : Source} {sink sink' : Sink}
    {counts : Statistics} (h : (p.process source sink).1 = (.ok counts, sink')) :
    ∃ read, counts.linesSeen = read.length ∧
      counts.linesSeen =
        counts.processed + counts.errors + read.countP p.config.carriesNothing ∧
      ((read = (p.buffered source).lines ∧ (∀ lines, ¬ p.StopsUnread source sink lines) ∧
          counts.processed = counts.output + counts.skipped) ∨
        p.StopsUnread source sink read ∧
          counts.processed = counts.output + counts.skipped + 1) ∧
      counts.errors = counts.badLines.toList.length ∧
      (counts.badLines.toList.map BadLine.line).Pairwise (· < ·) ∧
      ∀ bad ∈ counts.badLines.toList, 1 ≤ bad.line ∧ bad.line ≤ counts.linesSeen := by
  rw [StreamPipeline.process_fst] at h
  rcases StreamPipeline.runStream_eq_ok h with ⟨s, rfl, _, hgoOn | hclose⟩
  · have htally := takeLines_tallied (tallied_nil p.config) hgoOn
    rw [List.nil_append] at htally
    have hopen : ∀ lines, ¬ p.StopsUnread source sink lines := by
      intro lines hstops
      rcases StreamPipeline.close_of_stopsUnread hstops with ⟨s', hclose⟩
      rw [hgoOn] at hclose
      cases hclose
    exact ⟨_, htally.linesSeen, htally.fates, .inl ⟨rfl, hopen, htally.records⟩, htally.errors,
      htally.increasing, htally.numbered⟩
  · rcases StreamPipeline.stopsUnread_of_close hclose with ⟨read, hstops, htally⟩
    exact ⟨read, htally.linesSeen, htally.fates, .inr ⟨hstops, htally.records⟩, htally.errors,
      htally.increasing, htally.numbered⟩

/-- A pipeline for lines of pairs that drops the records with a two. -/
def droppingPipeline : StreamPipeline :=
  .start ((Query.compile ⟨[.branch ⟨.field "a", "2"⟩ [.skipRecord] []]⟩).toOption.getD default)
    { inputFormat := .logfmt, outputFormat := .line }

/-- A line of every fate, and two records behind them. -/
def mixedInput : Bytes := Utf8.ofString "a=1\n\na=2\nbroken\na=3\na=4\n"

/-- A sink whose reader goes away behind the first record. -/
def leavingSink : Sink := ⟨#[], some (5, ⟨.brokenPipe, "gone"⟩), none⟩

/-- The fifth line gives out the record that nobody reads, so it is the last one
    that is read. -/
theorem process_conserves_leavingSink :
    ∃ counts sink' read,
      (droppingPipeline.process (.ofBytes mixedInput) leavingSink).1 = (.ok counts, sink') ∧
      counts = ⟨5, 3, 1, 1, 1, #[⟨4, "logfmt", "Expected '=' after key 'broken'"⟩], 0⟩ ∧
      read.length = 5 ∧ read.countP droppingPipeline.config.carriesNothing = 1 ∧
      droppingPipeline.StopsUnread (.ofBytes mixedInput) leavingSink read := by
  have hcounts : (droppingPipeline.process (.ofBytes mixedInput) leavingSink).1.1.toOption =
      some ⟨5, 3, 1, 1, 1, #[⟨4, "logfmt", "Expected '=' after key 'broken'"⟩], 0⟩ := by
    decide +kernel
  rcases hresult : (droppingPipeline.process (.ofBytes mixedInput) leavingSink).1 with
    ⟨result, sink'⟩
  rw [hresult] at hcounts
  cases result with
  | error e => cases hcounts
  | ok counts =>
      rcases process_conserves hresult with ⟨read, hseen, hfates, hstops, _⟩
      cases hcounts
      refine ⟨_, sink', read, rfl, rfl, hseen.symm, ?_, ?_⟩
      · simp only [] at hfates
        omega
      · rcases hstops with ⟨_, _, hrecords⟩ | ⟨hstops, _⟩
        · cases hrecords
        · exact hstops

end LogQuery
