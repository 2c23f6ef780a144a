import LogQuery.Proofs.Stream.Lines

/-!
# Reading Through a Buffer

A buffer cuts a source at places that have nothing to do with its lines, and
these places depend on the size. What is taken out of the buffer does not: the
lines that come through a buffer with any room are the lines of the source, and
the source fails behind them as it would without a buffer
(`readThrough_of_room`). Only a buffer without room is different, because a
filling that brings nothing is taken for the end (`readThrough_zero`).

The argument forgets the border between what is held and what is ahead. `rest`
is the source that is still to be read, and filling does not change it. `Takes`
says what one line makes of the rest, in the three ways in which a line can end;
the piece of a line that fills a buffer is a step inside one of them
(`takes_of_piece`), so it leaves no trace.

## Main definitions

* `InputBuffer.rest`: The source that is still to be read.
* `InputBuffer.Takes`: What becomes of the rest when a line is taken out.

## Theorems

* `fill_eq_ok`, `fill_eq_error`: Filling does not change what is to be read.
* `readLine_takes`: A line is taken out of the rest, whatever the fillings.
* `readLines_eq`: The lines taken out are those of the rest.
* `readThrough_of_room`: A buffer with room makes no difference.
* `readThrough_zero`: Nothing comes through a buffer without room.
* `runStream_eq`: A stream has the lines of its source as it comes through.
-/

namespace LogQuery

/-! ### The first line of a source -/

theorem splitLinesFrom_lines (lines : List Bytes) (line bytes : Bytes) :
    splitLinesFrom lines line bytes =
      (lines.reverse ++ (splitLinesFrom [] line bytes).1, (splitLinesFrom [] line bytes).2) := by
  rw [splitLinesFrom_eq, splitLinesFrom_eq [], List.reverse_nil, List.nil_append]

/-- Bytes without a newline only make the line at hand longer. -/
theorem splitLinesFrom_append {front : Bytes} (h : 0x0a ∉ front) (lines : List Bytes)
    (line bytes : Bytes) :
    splitLinesFrom lines line (front ++ bytes) =
      splitLinesFrom lines (front.reverse ++ line) bytes := by
  induction front generalizing line with
  | nil => rfl
  | cons b front ih =>
      rw [List.mem_cons, not_or] at h
      have hb : b ≠ 0x0a := Ne.symm h.1
      rw [List.cons_append, splitLinesFrom, if_neg hb, ih h.2]
      simp only [List.reverse_cons, List.append_assoc, List.singleton_append]

namespace Source

variable {front : Bytes}

/-- A newline ends the first line, and the other lines are those behind it. -/
theorem lines_newline (h : 0x0a ∉ front) (after : Bytes) (failure : Option Failure) :
    lines ⟨front ++ 0x0a :: after, failure⟩ = front :: lines ⟨after, failure⟩ := by
  have hsplit : splitLines (front ++ 0x0a :: after) =
      (front :: (splitLines after).1, (splitLines after).2) := by
    unfold splitLines
    rw [splitLinesFrom_append h, splitLinesFrom, if_pos rfl, splitLinesFrom_lines]
    simp only [List.append_nil, List.reverse_reverse, List.reverse_cons, List.reverse_nil,
      List.nil_append, List.singleton_append]
  unfold lines
  simp only [hsplit]
  by_cases hlast : (failure.isSome || (splitLines after).2.isEmpty) = true
  · rw [if_pos hlast, if_pos hlast]
  · rw [if_neg hlast, if_neg hlast, List.cons_append]

theorem splitLines_of_not_mem (h : 0x0a ∉ front) : splitLines front = ([], front) := by
  have happend := splitLinesFrom_append h [] [] []
  rw [List.append_nil, List.append_nil] at happend
  rw [splitLines, happend, splitLinesFrom, List.reverse_nil, List.reverse_reverse]

/-- Without a newline there is one line, if there is anything in it. -/
theorem lines_last (h : 0x0a ∉ front) :
    lines ⟨front, none⟩ = if front.isEmpty then [] else [front] := by
  unfold lines
  simp only [splitLines_of_not_mem h, Option.isSome_none, Bool.false_or, List.nil_append]

/-- A line that the failure of the source breaks off is lost. -/
theorem lines_broken (h : 0x0a ∉ front) (failure : Failure) :
    lines ⟨front, some failure⟩ = [] := by
  unfold lines
  simp only [splitLines_of_not_mem h, Option.isSome_some, Bool.true_or, if_true]

end Source

/-! ### One line -/

namespace InputBuffer

/-- The source that is still to be read, in the buffer and ahead of it. -/
def rest (b : InputBuffer) : Source := ⟨b.held ++ b.ahead.bytes, b.ahead.failure⟩

/-- Filling moves bytes into the buffer. With room in the buffer it is empty only
    if there is nothing left, and no failure either. -/
theorem fill_eq_ok {b b' : InputBuffer} (h : b.fill = .ok b') :
    b'.rest = b.rest ∧ b'.size = b.size ∧
      (0 < b.size → b'.held = [] → b.rest = ⟨[], none⟩) := by
  unfold fill at h
  by_cases hempty : b.held.isEmpty
  · rw [if_pos hempty] at h
    have hheld : b.held = [] := List.isEmpty_iff.mp hempty
    split at h
    · cases h
    · next bytes failure hnot =>
      cases h
      refine ⟨?_, rfl, fun hroom hnone => ?_⟩
      · simp only [rest, hheld, List.take_append_drop, List.nil_append]
      · have hbytes : b.ahead.bytes = [] := by
          rcases List.take_eq_nil_iff.mp hnone with hsize | hbytes
          · omega
          · exact hbytes
        have hfailure : b.ahead.failure = none := by
          cases hfail : b.ahead.failure with
          | none => rfl
          | some failure => exact absurd hfail (hnot failure hbytes)
        rw [rest, hheld, hbytes, hfailure, List.append_nil]
  · rw [if_neg hempty] at h
    cases h
    refine ⟨rfl, rfl, fun _ hnone => ?_⟩
    exact absurd (List.isEmpty_iff.mpr hnone) hempty

/-- Filling fails only where nothing is left but the failure. -/
theorem fill_eq_error {b : InputBuffer} {failure : Failure} (h : b.fill = .error failure) :
    b.rest = ⟨[], some failure⟩ := by
  unfold fill at h
  by_cases hempty : b.held.isEmpty
  · rw [if_pos hempty] at h
    split at h
    · next failure' hbytes hfailure =>
      cases h
      rw [rest, List.isEmpty_iff.mp hempty, hbytes, hfailure, List.append_nil]
    · cases h
  · rw [if_neg hempty] at h
    cases h

/-- What becomes of the rest when a line is taken out, with some bytes of the line
    taken out before: it loses everything up to a newline; or it has none, and
    all of it is the line; or it breaks the line off by failing. -/
inductive Takes (line : Bytes) (b : InputBuffer) : Except Failure (Bytes × InputBuffer) → Prop where
  | whole {front after taken : Bytes} {b' : InputBuffer} : 0x0a ∉ front →
      b.rest.bytes = front ++ 0x0a :: after → taken = line.reverse ++ front ++ [0x0a] →
      b'.rest = ⟨after, b.rest.failure⟩ → b'.size = b.size → Takes line b (.ok (taken, b'))
  | last {taken : Bytes} {b' : InputBuffer} : 0x0a ∉ b.rest.bytes → b.rest.failure = none →
      taken = line.reverse ++ b.rest.bytes → b'.rest = ⟨[], none⟩ → b'.size = b.size →
      Takes line b (.ok (taken, b'))
  | broken {failure : Failure} : 0x0a ∉ b.rest.bytes → b.rest.failure = some failure →
      Takes line b (.error failure)

/-- A piece without a newline that is taken out in front belongs to the line. -/
theorem takes_of_piece {line piece : Bytes} {b b₁ : InputBuffer}
    {outcome : Except Failure (Bytes × InputBuffer)} (hpiece : 0x0a ∉ piece)
    (hrest : b.rest = ⟨piece ++ b₁.rest.bytes, b₁.rest.failure⟩) (hsize : b₁.size = b.size)
    (h : Takes (piece.reverse ++ line) b₁ outcome) : Takes line b outcome := by
  have hbytes : b.rest.bytes = piece ++ b₁.rest.bytes := by rw [hrest]
  have hfailure : b.rest.failure = b₁.rest.failure := by rw [hrest]
  have hnone : 0x0a ∉ b₁.rest.bytes → 0x0a ∉ b.rest.bytes := by
    intro h
    rw [hbytes, List.mem_append, not_or]
    exact ⟨hpiece, h⟩
  cases h with
  | @whole front after taken b' hfront hfound htaken hafter hsame =>
      refine @Takes.whole _ _ (piece ++ front) after _ _ ?_ ?_ ?_
        (hafter.trans (by rw [hfailure])) (hsame.trans hsize)
      · rw [List.mem_append, not_or]
        exact ⟨hpiece, hfront⟩
      · rw [hbytes, hfound, List.append_assoc]
      · rw [htaken]
        simp only [List.reverse_append, List.reverse_reverse, List.append_assoc]
  | @last taken b' hmem hend htaken hempty hsame =>
      refine .last (hnone hmem) (hfailure.trans hend) ?_ hempty (hsame.trans hsize)
      rw [htaken, hbytes]
      simp only [List.reverse_append, List.reverse_reverse, List.append_assoc]
  | broken hmem hfail =>
      exact .broken (hnone hmem) (hfailure.trans hfail)

theorem newline_not_mem_takeWhile (bytes : Bytes) :
    0x0a ∉ bytes.takeWhile fun b => b != 0x0a := by
  intro hmem
  have hall : (bytes.takeWhile fun b => b != 0x0a).all (fun b => b != 0x0a) = true :=
    List.all_takeWhile
  have hne := List.all_eq_true.mp hall 0x0a hmem
  cases hne

/-- A line is taken out of the rest, whatever fillings it takes to get there. -/
theorem readLine_takes {b : InputBuffer} (hroom : 0 < b.size) (line : Bytes) :
    Takes line b (b.readLine line) := by
  fun_induction readLine line b with
  | case1 line b failure hfill =>
      have hrest := fill_eq_error hfill
      refine .broken ?_ (by rw [hrest])
      rw [hrest]
      exact List.not_mem_nil
  | case2 line b filled hfill hheld =>
      rcases fill_eq_ok hfill with ⟨hrest, hsize, hend⟩
      have hnothing := hend hroom hheld
      refine .last ?_ (by rw [hnothing]) ?_ (hrest.trans hnothing) hsize
      · rw [hnothing]
        exact List.not_mem_nil
      · rw [hnothing, List.append_nil]
  | case3 line b filled hfill first more hheld line' newline rest hrest =>
      -- The newline is in the buffer, so the line ends with a part of this filling.
      rcases fill_eq_ok hfill with ⟨hsame, hsize, _⟩
      have hsplit := List.takeWhile_append_dropWhile (p := fun b => b != 0x0a) (l := first :: more)
      have hnewline : newline = 0x0a := by
        have hhead := List.head?_dropWhile_not (fun b : UInt8 => b != 0x0a) (first :: more)
        rw [hrest] at hhead
        simpa using hhead
      rw [hrest, hnewline] at hsplit
      refine @Takes.whole _ _ _ (rest ++ filled.ahead.bytes) _ _
        (newline_not_mem_takeWhile (first :: more)) ?_ ?_ ?_ hsize
      · have hbytes : filled.rest.bytes = (first :: more) ++ filled.ahead.bytes := by
          rw [InputBuffer.rest, hheld]
        have hwhole := congrArg (fun bytes => bytes ++ filled.ahead.bytes) hsplit.symm
        rw [← hsame, hbytes, hwhole, List.append_assoc, List.cons_append]
      · simp only [line', hnewline, List.reverse_cons, List.reverse_append, List.reverse_reverse]
      · rw [← hsame]
        rfl
  | case4 line b filled hfill first more hheld line' hrest ih =>
      -- The whole filling is a piece of the line, and the induction takes out the others.
      rcases fill_eq_ok hfill with ⟨hsame, hsize, _⟩
      have hpiece := List.takeWhile_append_dropWhile (p := fun b => b != 0x0a) (l := first :: more)
      rw [hrest, List.append_nil] at hpiece
      have hroom' : 0 < filled.size := by rw [hsize]; exact hroom
      refine @takes_of_piece _ _ _ { filled with held := [] } _
        (newline_not_mem_takeWhile (first :: more)) ?_ hsize (ih hroom')
      rw [← hsame, hpiece]
      simp only [InputBuffer.rest, hheld, List.nil_append]

/-! ### All lines -/

theorem withoutNewline_append (front : Bytes) : withoutNewline (front ++ [0x0a]) = front := by
  unfold withoutNewline
  rw [List.getLast?_concat, if_pos rfl, List.dropLast_concat]

theorem withoutNewline_of_not_mem {line : Bytes} (h : 0x0a ∉ line) :
    withoutNewline line = line := by
  unfold withoutNewline
  rw [if_neg fun hlast => h (List.mem_of_getLast? hlast)]

/-- Where a line is broken off, no line is left but the failure. -/
theorem Takes.of_error {b : InputBuffer} {failure : Failure} (h : Takes [] b (.error failure)) :
    b.rest.lines = [] ∧ b.rest.failure = some failure := by
  cases h with
  | broken hnone hfail =>
      refine ⟨?_, hfail⟩
      have hrest : b.rest = ⟨b.rest.bytes, some failure⟩ := by rw [← hfail]
      rw [hrest]
      exact Source.lines_broken hnone failure

/-- An empty line is the end, because any line but the last has its newline. -/
theorem Takes.of_nil {b b' : InputBuffer} (h : Takes [] b (.ok ([], b'))) :
    b.rest.lines = [] ∧ b.rest.failure = none := by
  cases h with
  | whole hfront hfound htaken =>
      have hlength := congrArg List.length htaken
      simp only [List.length_nil, List.length_append, List.length_singleton] at hlength
      omega
  | last hnone hend htaken =>
      have hbytes : b.rest.bytes = [] := htaken.symm
      have hrest : b.rest = ⟨[], none⟩ := by rw [← hbytes, ← hend]
      rw [hrest]
      exact ⟨rfl, rfl⟩

/-- A line that is not empty is the first one of the rest, and leaves the others. -/
theorem Takes.of_cons {b b' : InputBuffer} {first : UInt8} {more : Bytes}
    (h : Takes [] b (.ok (first :: more, b'))) :
    b.rest.lines = withoutNewline (first :: more) :: b'.rest.lines ∧
      b.rest.failure = b'.rest.failure ∧ b'.size = b.size := by
  cases h with
  | @whole front after taken b' hfront hfound htaken hafter hsize =>
      have hrest : b.rest = ⟨front ++ 0x0a :: after, b.rest.failure⟩ := by rw [← hfound]
      have hline : withoutNewline (first :: more) = front := by
        rw [htaken]
        exact withoutNewline_append front
      refine ⟨?_, by rw [hafter], hsize⟩
      rw [hrest, Source.lines_newline hfront, hline, hafter]
  | last hnone hend htaken hempty hsize =>
      have hline : first :: more = b.rest.bytes := htaken
      have hrest : b.rest = ⟨first :: more, none⟩ := by rw [hline, ← hend]
      rw [← hline] at hnone
      refine ⟨?_, by rw [hend, hempty], hsize⟩
      rw [hrest, hempty, Source.lines_last hnone, withoutNewline_of_not_mem hnone]
      rfl

/-- No line is taken out any more where the source has come to its end. -/
theorem readLines_of_end {b b' : InputBuffer} (h : b.readLine [] = .ok ([], b'))
    (lines : List Bytes) : b.readLines lines = (lines.reverse, none) := by
  rw [readLines]
  split
  · next failure hread => cases hread.symm.trans h
  · rfl
  · next first more b'' hread => cases hread.symm.trans h

theorem readLines_of_error {b : InputBuffer} {failure : Failure}
    (h : b.readLine [] = .error failure) (lines : List Bytes) :
    b.readLines lines = (lines.reverse, some failure) := by
  rw [readLines]
  split
  · next failure' hread =>
    cases hread.symm.trans h
    rfl
  · next b' hread => cases hread.symm.trans h
  · next first more b' hread => cases hread.symm.trans h

/-- Without room, the first filling brings nothing, which is the end unless the source
    fails there. -/
theorem readLine_without_room {s : Source} (h : s.bytes = [] → s.failure = none) :
    readLine [] ⟨0, [], s⟩ = .ok ([], ⟨0, [], s⟩) := by
  rw [readLine]
  rcases s with ⟨_ | ⟨first, more⟩, _ | failure⟩
  · rfl
  · cases h rfl
  · rfl
  · rfl

/-- A buffer with room gives the lines of the source behind it, and fails where the
    source does. -/
theorem readLines_eq {b : InputBuffer} (hroom : 0 < b.size) (lines : List Bytes) :
    b.readLines lines = (lines.reverse ++ b.rest.lines, b.rest.failure) := by
  fun_induction readLines lines b with
  | case1 lines b failure hline =>
      have htakes := readLine_takes hroom []
      rw [hline] at htakes
      rcases htakes.of_error with ⟨hlines, hfail⟩
      rw [hlines, hfail, List.append_nil]
  | case2 lines b b' hline =>
      have htakes := readLine_takes hroom []
      rw [hline] at htakes
      rcases htakes.of_nil with ⟨hlines, hend⟩
      rw [hlines, hend, List.append_nil]
  | case3 lines b first more b' hline ih =>
      have htakes := readLine_takes hroom []
      rw [hline] at htakes
      rcases htakes.of_cons with ⟨hlines, hfailure, hsize⟩
      have hroom' : 0 < b'.size := by rw [hsize]; exact hroom
      rw [ih hroom', hlines, hfailure]
      simp only [List.reverse_cons, List.append_assoc, List.singleton_append]

end InputBuffer

/-! ### Sources behind a buffer -/

namespace Source

/-- The lines that come through a buffer with any room are those of the source, and
    so is the failure. -/
theorem readThrough_of_room {size : Nat} (hroom : 0 < size) (s : Source) :
    s.readThrough size = (s.lines, s.failure) :=
  InputBuffer.readLines_eq (b := ⟨size, [], s⟩) hroom []

/-- Nothing comes through a buffer without room, not even a failure that has bytes in
    front of it. -/
theorem readThrough_zero (s : Source) :
    s.readThrough 0 = ([], if s.bytes.isEmpty then s.failure else none) := by
  rcases s with ⟨_ | ⟨first, more⟩, _ | failure⟩
  · exact InputBuffer.readLines_of_end (InputBuffer.readLine_without_room fun _ => rfl) []
  · have hfails : InputBuffer.readLine [] ⟨0, [], ⟨[], some failure⟩⟩ = .error failure := by
      rw [InputBuffer.readLine]
      rfl
    exact InputBuffer.readLines_of_error hfails []
  · exact InputBuffer.readLines_of_end
      (InputBuffer.readLine_without_room (s := ⟨first :: more, none⟩) nofun) []
  · exact InputBuffer.readLines_of_end
      (InputBuffer.readLine_without_room (s := ⟨first :: more, some failure⟩) nofun) []

end Source

namespace StreamPipeline

/-- A source comes through the buffer of a pipeline as the pipeline sees it. -/
theorem readThrough_eq (p : StreamPipeline) (source : Source) :
    source.readThrough p.config.bufferSize =
      ((p.buffered source).lines, (p.buffered source).failure) := by
  unfold buffered
  by_cases hsize : p.config.bufferSize = 0
  · rw [hsize, Source.readThrough_zero]
    rcases source with ⟨_ | ⟨first, more⟩, failure⟩
    · have hlines : Source.lines ⟨[], failure⟩ = [] := by
        cases failure with
        | none => rfl
        | some failure => rfl
      simp only [List.isEmpty_nil, Bool.not_true, Bool.and_false, Bool.false_eq_true, if_false,
        if_true, hlines]
    · simp only [List.isEmpty_cons, Bool.not_false, decide_true, Bool.and_true, if_true,
        Bool.false_eq_true, if_false]
      rfl
  · rw [Source.readThrough_of_room (Nat.pos_of_ne_zero hsize)]
    simp only [hsize, decide_false, Bool.false_and, Bool.false_eq_true, if_false]

/-- A stream takes the lines of its source as it comes through the buffer, and ends or
    fails behind them as the source does. -/
theorem runStream_eq (p : StreamPipeline) (source : Source) (sink : Sink) :
    p.runStream source sink =
      ((StreamState.start p.config p.query sink).takeLines p.config
        (p.buffered source).lines).conclude (p.buffered source).failure := by
  have hread := p.readThrough_eq source
  unfold runStream
  exact hread ▸ rfl

end StreamPipeline

end LogQuery
