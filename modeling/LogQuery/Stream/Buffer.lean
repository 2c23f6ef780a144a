import LogQuery.Stream.Channel

/-!
# Buffers

A source is not read line by line. It is read in fillings of a buffer, and the
lines are then taken out of the buffer: a filling can hold many lines and the
beginning of one more, and a long line comes in many pieces. The buffer is
filled again only when nothing is left in it, so a failure of the source is
noticed after everything in front of it has been taken out.

A filling that brings nothing is the end of the source. A buffer without any
room is never filled with anything, so behind it every source that has bytes
seems to be at its end.

## Main definitions

* `InputBuffer`: A source behind a buffer.
* `InputBuffer.fill`: Fills a buffer that is empty.
* `InputBuffer.readLine`: Takes out a line, filling as often as it takes.
* `Source.readThrough`: All lines of a source, and how their reading ends.
-/

namespace LogQuery

/-- A source behind a buffer. -/
structure InputBuffer where
  /-- How many bytes the buffer has room for. -/
  size : Nat
  /-- The bytes that are in the buffer. -/
  held : Bytes
  /-- What has not come into the buffer yet. -/
  ahead : Source

namespace InputBuffer

/-- Fills a buffer that is empty, unless the source fails at this point. -/
def fill (b : InputBuffer) : Except Failure InputBuffer :=
  if b.held.isEmpty then
    match b.ahead.bytes, b.ahead.failure with
    | [], some failure => .error failure
    | bytes, _ =>
      .ok { b with
        held := bytes.take b.size, ahead := { b.ahead with bytes := bytes.drop b.size } }
  else .ok b

/-- How many bytes are still to be taken out. -/
def remaining (b : InputBuffer) : Nat := b.held.length + b.ahead.bytes.length

theorem remaining_fill {b b' : InputBuffer} (h : b.fill = .ok b') :
    b'.remaining = b.remaining := by
  unfold fill at h
  by_cases hempty : b.held.isEmpty
  · rw [if_pos hempty] at h
    have hheld : b.held.length = 0 := List.length_eq_zero_iff.mpr (List.isEmpty_iff.mp hempty)
    split at h
    · cases h
    · cases h
      simp only [remaining, List.length_take, List.length_drop, hheld]
      omega
  · rw [if_neg hempty] at h
    cases h
    rfl

/-- Takes bytes out of the buffer up to a newline, or up to the end if there is
    none, and fills the buffer as often as it takes. The line comes with its
    newline; what was taken out of it before is given in reverse. -/
def readLine (line : Bytes) (b : InputBuffer) : Except Failure (Bytes × InputBuffer) :=
  match _hfill : b.fill with
  | .error failure => .error failure
  | .ok filled =>
    match _hheld : filled.held with
    | [] => .ok (line.reverse, filled)
    | first :: more =>
      let line := ((first :: more).takeWhile (· != 0x0a)).reverse ++ line
      match (first :: more).dropWhile (· != 0x0a) with
      | newline :: rest => .ok ((newline :: line).reverse, { filled with held := rest })
      | [] => readLine line { filled with held := [] }
termination_by b.remaining
decreasing_by
  have hsame := remaining_fill _hfill
  simp only [remaining, _hheld, List.length_cons, List.length_nil] at hsame ⊢
  omega

/-- Nothing is lost between the bytes of a line and those that remain. -/
theorem length_of_readLine {line taken : Bytes} {b b' : InputBuffer}
    (h : b.readLine line = .ok (taken, b')) :
    taken.length + b'.remaining = line.length + b.remaining := by
  fun_induction readLine line b with
  | case1 line b failure hfill => cases h
  | case2 line b filled hfill hheld =>
      cases h
      rw [List.length_reverse, remaining_fill hfill]
  | case3 line b filled hfill first more hheld line' newline rest hrest =>
      cases h
      have hsame := remaining_fill hfill
      have hsplit := congrArg List.length
        (List.takeWhile_append_dropWhile (p := fun b => b != 0x0a) (l := first :: more))
      rw [hrest, List.length_append, List.length_cons] at hsplit
      simp only [remaining, hheld, line', List.length_reverse, List.length_cons,
        List.length_append] at hsame hsplit ⊢
      omega
  | case4 line b filled hfill first more hheld line' hrest ih =>
      have hsame := remaining_fill hfill
      have hsplit := congrArg List.length
        (List.takeWhile_append_dropWhile (p := fun b => b != 0x0a) (l := first :: more))
      rw [hrest, List.append_nil] at hsplit
      have hline := ih h
      simp only [remaining, hheld, line', List.length_reverse, List.length_nil,
        List.length_append] at hsame hsplit hline ⊢
      omega

/-- A line without the newline at its end. -/
def withoutNewline (line : Bytes) : Bytes :=
  if line.getLast? = some 0x0a then line.dropLast else line

/-- Takes out lines until nothing more comes or the source fails. The lines
    taken out so far come in reverse. -/
def readLines (lines : List Bytes) (b : InputBuffer) : List Bytes × Option Failure :=
  match _hline : b.readLine [] with
  | .error failure => (lines.reverse, some failure)
  | .ok ([], _) => (lines.reverse, none)
  | .ok (first :: more, b') => readLines (withoutNewline (first :: more) :: lines) b'
termination_by b.remaining
decreasing_by
  have hlength := length_of_readLine _hline
  simp only [List.length_cons, List.length_nil] at hlength
  omega

end InputBuffer

/-- The lines that a source gives when it is read through a buffer of some size,
    and the failure that ends the reading, if there is one. -/
def Source.readThrough (size : Nat) (s : Source) : List Bytes × Option Failure :=
  InputBuffer.readLines [] ⟨size, [], s⟩

end LogQuery
