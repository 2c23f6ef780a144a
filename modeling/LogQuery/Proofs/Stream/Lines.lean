import LogQuery.Stream.Pipeline

/-!
# The Lines of an Input

What a stream sees of its input, said without the loop that reads it.

An input is cut at its newlines, which is `List.splitOn`. There is always one
more piece than there are newlines; the piece behind the last newline is a line
only if something stands in it, so an input that ends with a newline has no
empty line behind it. `lines_ofBytes` shows that reading byte by byte cuts in
the same places. The reader keeps the line at hand and the lines before it in
reverse, so the induction is on a cut that has already begun.

A line then meets one of three fates. It is bad, and there is something to be
said about it, or it carries a record, or it is blank and carries nothing.
`complaint?` and `record?` name the first two, from the checks that decide on
them, and `readLine_cases` shows that the stream decides no differently.

## Main definitions

* `cutLines`: The lines of an input.
* `headLines`: An input up to the end of one of its lines.
* `StreamConfig.complaint?`: What is to be said about a bad line.
* `StreamConfig.record?`: The record of a line that carries one.
* `StreamConfig.badLinesFrom`: The bad lines among lines, numbered.

## Theorems

* `lines_ofBytes`: A source that does not fail has the lines of its bytes.
* `cutLines_newline`, `cutLines_cons`: The lines of an input, byte by byte.
* `cutLines_headLines`: The first lines of an input are those of its head.
* `readLine_cases`: The three fates of a line.
* `badLinesFrom_append`: Bad lines are numbered on.
* `badLinesFrom_eq_nil`: There are none where nothing is to be said.
* `badLinesFrom_first`: The first bad line is the first entry.
-/

namespace LogQuery

/-! ### Cutting -/

/-- The lines of an input: what stands between its newlines, and what stands
    behind the last one if anything does. -/
def cutLines (bytes : Bytes) : List Bytes :=
  let pieces := bytes.splitOn 0x0a
  if pieces.getLast? = some [] then pieces.dropLast else pieces

/-- Reading on from a line that has begun gives the pieces of a cut that has
    begun there: all but the last are complete. -/
theorem splitLinesFrom_eq (lines : List Bytes) (line bytes : Bytes) :
    splitLinesFrom lines line bytes =
      (lines.reverse ++ (bytes.splitOnPPrepend (fun b => b == 0x0a) line).dropLast,
        (bytes.splitOnPPrepend (fun b => b == 0x0a) line).getLast
          (List.splitOnPPrepend_ne_nil _ _ _)) := by
  induction bytes generalizing lines line with
  | nil =>
      simp only [splitLinesFrom, List.splitOnPPrepend_nil, List.dropLast_singleton,
        List.append_nil, List.getLast_singleton]
  | cons b rest ih =>
      by_cases hb : b = 0x0a
      · -- A newline completes the line, and the next one begins with nothing.
        have hcut : (b :: rest).splitOnPPrepend (fun b => b == 0x0a) line =
            line.reverse :: rest.splitOnPPrepend (fun b => b == 0x0a) [] :=
          List.splitOnPPrepend_cons_pos (beq_iff_eq.mpr hb)
        have hne := List.splitOnPPrepend_ne_nil (fun b : UInt8 => b == 0x0a) rest []
        rw [splitLinesFrom, if_pos hb, ih]
        simp only [hcut, List.reverse_cons, List.append_assoc, List.singleton_append,
          List.dropLast_cons_of_ne_nil hne, List.getLast_cons hne]
      · have hcut : (b :: rest).splitOnPPrepend (fun b => b == 0x0a) line =
            rest.splitOnPPrepend (fun b => b == 0x0a) (b :: line) :=
          List.splitOnPPrepend_cons_neg (beq_eq_false_iff_ne.mpr hb)
        rw [splitLinesFrom, if_neg hb, ih]
        simp only [hcut]

/-- The lines that can be read from bytes are those of the bytes. -/
theorem lines_ofBytes (bytes : Bytes) : (Source.ofBytes bytes).lines = cutLines bytes := by
  have hne : bytes.splitOn 0x0a ≠ [] := List.splitOn_ne_nil 0x0a bytes
  have hsplit : splitLines bytes =
      ((bytes.splitOn 0x0a).dropLast, (bytes.splitOn 0x0a).getLast hne) :=
    splitLinesFrom_eq [] [] bytes
  unfold Source.lines cutLines
  simp only [Source.ofBytes, hsplit, Option.isSome_none, Bool.false_or, List.isEmpty_iff,
    List.getLast?_eq_some_getLast hne, Option.some.injEq]
  by_cases hlast : (bytes.splitOn 0x0a).getLast hne = []
  · rw [if_pos hlast, if_pos hlast]
  · rw [if_neg hlast, if_neg hlast]
    exact List.dropLast_concat_getLast hne

theorem cutLines_nil : cutLines [] = [] := rfl

/-- A newline ends a line, which is empty when nothing stands before it. -/
theorem cutLines_newline (rest : Bytes) : cutLines (0x0a :: rest) = [] :: cutLines rest := by
  have hne : rest.splitOn 0x0a ≠ [] := List.splitOn_ne_nil 0x0a rest
  have hcut : (0x0a :: rest : Bytes).splitOn 0x0a = [] :: rest.splitOn 0x0a :=
    List.splitOn_cons_eq_if_modifyHead _ _
  unfold cutLines
  simp only [hcut, List.getLast?_cons_of_ne_nil hne, List.dropLast_cons_of_ne_nil hne]
  by_cases hlast : (rest.splitOn 0x0a).getLast? = some []
  · rw [if_pos hlast, if_pos hlast]
  · rw [if_neg hlast, if_neg hlast]

/-- Any other byte belongs to the line behind it. -/
theorem cutLines_cons {b : UInt8} (hb : b ≠ 0x0a) (rest : Bytes) :
    cutLines (b :: rest) =
      match cutLines rest with
      | [] => [[b]]
      | line :: lines => (b :: line) :: lines := by
  have hcut : (b :: rest).splitOn 0x0a = (rest.splitOn 0x0a).modifyHead (b :: ·) := by
    rw [List.splitOn_cons_eq_if_modifyHead, if_neg (by rw [beq_iff_eq]; exact hb)]
  unfold cutLines
  rw [hcut]
  cases hpieces : rest.splitOn 0x0a with
  | nil => exact absurd hpieces (List.splitOn_ne_nil 0x0a rest)
  | cons piece pieces =>
      cases pieces with
      | nil =>
          cases piece with
          | nil => rfl
          | cons c piece => rfl
      | cons second pieces =>
          simp only [List.modifyHead_cons, List.getLast?_cons_cons, List.dropLast_cons_cons]
          by_cases hlast : (second :: pieces).getLast? = some []
          · rw [if_pos hlast, if_pos hlast]
          · rw [if_neg hlast, if_neg hlast]

/-- An input up to where so many of its lines end, or all of it if it has no
    more. -/
def headLines : Nat → Bytes → Bytes
  | 0, _ => []
  | _ + 1, [] => []
  | n + 1, b :: rest => b :: headLines (if b = 0x0a then n else n + 1) rest

theorem cutLines_headLines (n : Nat) (bytes : Bytes) :
    cutLines (headLines n bytes) = (cutLines bytes).take n := by
  induction bytes generalizing n with
  | nil =>
      cases n with
      | zero => rfl
      | succ n => rfl
  | cons b rest ih =>
      cases n with
      | zero => rfl
      | succ n =>
          rw [headLines]
          by_cases hb : b = 0x0a
          · rw [if_pos hb, hb, cutLines_newline, cutLines_newline, ih, List.take_succ_cons]
          · rw [if_neg hb, cutLines_cons hb, cutLines_cons hb, ih]
            cases cutLines rest with
            | nil => rw [List.take_nil, List.take_succ_cons, List.take_nil]
            | cons line lines => rw [List.take_succ_cons, List.take_succ_cons]

/-! ### Three fates -/

namespace StreamConfig

/-- What is to be said about a line that is too long, that is no text, or that
    its format refuses. A line about which there is nothing to be said is not
    bad. -/
def complaint? (config : StreamConfig) (line : Bytes) : Option String :=
  if config.maxLineLength < line.length then
    some (ProcessingError.lineTooLong line.length config.maxLineLength).message
  else
    match Utf8.decode line with
    | .error fault => some ("invalid UTF-8: " ++ fault.message)
    | .ok text =>
      match config.inputFormat.read text with
      | .error fault => some fault.message
      | .ok _ => none

/-- The record that a line carries, if it is neither bad nor blank. -/
def record? (config : StreamConfig) (line : Bytes) : Option LogRecord :=
  if config.maxLineLength < line.length then none
  else
    match Utf8.decode line with
    | .error _ => none
    | .ok text => (config.inputFormat.read text).toOption.join

/-- The bad lines among some lines, the first of which has the given number. -/
def badLinesFrom (config : StreamConfig) (number : Nat) (lines : List Bytes) : List BadLine :=
  (lines.zipIdx number).filterMap fun entry =>
    (config.complaint? entry.1).map fun reason => ⟨entry.2, config.inputFormat.name, reason⟩

/-- A line is bad, or blank, or it carries a record, and a stream reads it as
    what it is. -/
theorem readLine_cases (config : StreamConfig) (line : Bytes) :
    (∃ problem, config.readLine line = .error problem ∧
      config.complaint? line = some problem.message ∧ config.record? line = none) ∨
    (config.readLine line = .ok none ∧ config.complaint? line = none ∧
      config.record? line = none) ∨
    (∃ record, config.readLine line = .ok (some record) ∧ config.complaint? line = none ∧
      config.record? line = some record) := by
  unfold readLine complaint? record?
  by_cases hlong : config.maxLineLength < line.length
  · simp only [if_pos hlong]
    exact Or.inl ⟨_, rfl, rfl, trivial⟩
  · simp only [if_neg hlong, LineFormat.readBytes]
    cases hdecode : Utf8.decode line with
    | error fault =>
        exact Or.inl ⟨_, rfl, rfl, rfl⟩
    | ok text =>
        simp only []
        cases hread : config.inputFormat.read text with
        | error fault =>
            exact Or.inl ⟨_, rfl, rfl, rfl⟩
        | ok carried =>
            cases carried with
            | none =>
                exact Or.inr (Or.inl ⟨rfl, rfl, rfl⟩)
            | some record =>
                exact Or.inr (Or.inr ⟨record, rfl, rfl, rfl⟩)

theorem record?_of_readLine {config : StreamConfig} {line : Bytes} {record : LogRecord}
    (h : config.readLine line = .ok (some record)) : config.record? line = some record := by
  rcases config.readLine_cases line with
    ⟨problem, hread, _, _⟩ | ⟨hread, _, _⟩ | ⟨other, hread, _, hrecord⟩
  · rw [h] at hread
    cases hread
  · rw [h] at hread
    cases hread
  · rw [h] at hread
    cases hread
    exact hrecord

/-! ### Numbering bad lines -/

theorem badLinesFrom_append (config : StreamConfig) (number : Nat) (xs ys : List Bytes) :
    config.badLinesFrom number (xs ++ ys) =
      config.badLinesFrom number xs ++ config.badLinesFrom (number + xs.length) ys := by
  unfold badLinesFrom
  rw [List.zipIdx_append, List.filterMap_append]

theorem badLinesFrom_singleton (config : StreamConfig) (number : Nat) (line : Bytes) :
    config.badLinesFrom number [line] =
      ((config.complaint? line).map fun reason =>
        (⟨number, config.inputFormat.name, reason⟩ : BadLine)).toList := by
  unfold badLinesFrom
  rw [List.zipIdx_singleton, List.filterMap_cons]
  cases config.complaint? line <;> rfl

theorem badLinesFrom_eq_nil {config : StreamConfig} {lines : List Bytes}
    (h : ∀ line ∈ lines, config.complaint? line = none) (number : Nat) :
    config.badLinesFrom number lines = [] := by
  unfold badLinesFrom
  rw [List.filterMap_eq_nil_iff]
  intro entry hentry
  rw [h entry.1 (List.fst_mem_of_mem_zipIdx hentry), Option.map_none]

/-- The first bad line among some is the first entry. -/
theorem badLinesFrom_first {config : StreamConfig} {before after : List Bytes} {bad : Bytes}
    {reason : String} (hbefore : ∀ line ∈ before, config.complaint? line = none)
    (hbad : config.complaint? bad = some reason) (number : Nat) :
    config.badLinesFrom number (before ++ bad :: after) =
      ⟨number + before.length, config.inputFormat.name, reason⟩ ::
        config.badLinesFrom (number + before.length + 1) after := by
  rw [badLinesFrom_append, badLinesFrom_eq_nil hbefore, List.nil_append,
    ← List.singleton_append, badLinesFrom_append, badLinesFrom_singleton, hbad]
  rfl

end StreamConfig

end LogQuery
