import LogQuery.Output
import LogQuery.Proofs.Text.Utf8
import Mathlib.Algebra.GroupWithZero.Nat

/-!
# Newlines in Lines of Text

How many newlines the text of an output record has. A value is quoted when it
holds a newline, and in quotes the newline is escaped, so values have none when
they are written. Names are written as they are. A color is a code of digits
and letters. What is left are the newlines of a record's own line, those of the
names of its fields, and the one that ends the line.

## Main definitions

* `newlines`: How many newlines a text has.
* `LogRecord.newlinesInNames`: How many newlines the names of the fields have.

## Theorems

* `newlines_pair`, `newlines_fields`: Only the names count.
* `OutputFormatter.newlines_write`: A line has its own newline and those of its
  record.
* `OutputFormatter.write_eq_row`: Whatever is written ends with a newline.
-/

namespace LogQuery

/-- How many newlines a text has. -/
def newlines (s : String) : Nat := s.toList.count '\n'

theorem newlines_append (a b : String) : newlines (a ++ b) = newlines a + newlines b := by
  rw [newlines, String.toList_append, List.count_append]
  rfl

theorem newlines_ofList (cs : List Char) : newlines (String.ofList cs) = cs.count '\n' := by
  rw [newlines, String.toList_ofList]

theorem count_ofString (s : String) : (Utf8.ofString s).count 0x0a = newlines s :=
  Utf8.count_encode s.toList

/-- Texts are joined by spaces, which add none. -/
theorem newlines_intercalate (parts : List String) :
    newlines (" ".intercalate parts) = (parts.map newlines).sum := by
  induction parts with
  | nil =>
      rw [String.intercalate_nil]
      rfl
  | cons part rest ih =>
      cases rest with
      | nil => rw [String.intercalate_singleton, List.map_singleton, List.sum_singleton]
      | cons next rest =>
          have hspace : newlines " " = 0 := by decide
          rw [String.intercalate_cons_cons, newlines_append, newlines_append, ih, hspace,
            Nat.add_zero]
          exact List.sum_cons.symm

namespace Logfmt

theorem newline_not_mem_escape (c : Char) : '\n' ∉ escape c := by
  unfold escape
  split
  · decide
  split
  · decide
  split
  · decide
  split
  · decide
  split
  · decide
  · next hnewline _ _ =>
    rw [List.mem_singleton]
    exact Ne.symm hnewline

/-- A newline in a value forces quotes, and in quotes it is escaped. -/
theorem newline_not_mem_valueChars (value : List Char) : '\n' ∉ valueChars value := by
  unfold valueChars
  split
  · -- In quotes, where every character is escaped.
    intro h
    simp only [List.mem_cons, List.mem_append, List.mem_flatMap, List.not_mem_nil, or_false,
      Char.reduceEq, false_or] at h
    rcases h with ⟨c, _, hc⟩
    exact newline_not_mem_escape c hc
  · -- Bare, so nothing in the value asks for quotes.
    next hbare =>
    intro h
    refine hbare ?_
    rw [Bool.or_eq_true, List.any_eq_true]
    exact .inr ⟨'\n', h, rfl⟩

theorem newlines_pair (key value : String) : newlines (pair key value) = newlines key := by
  have hvalue : (valueChars value.toList).count '\n' = 0 :=
    List.count_eq_zero.mpr (newline_not_mem_valueChars value.toList)
  rw [pair, newlines_ofList, List.count_append, List.count_cons, hvalue]
  rfl

end Logfmt

/-- How many newlines the names of the fields have. -/
def LogRecord.newlinesInNames (r : LogRecord) : Nat := (r.fields.keys.map newlines).sum

theorem Logfmt.newlines_fields (b : Bindings Value) :
    newlines (Logfmt.fields b) = (b.keys.map newlines).sum := by
  rw [Logfmt.fields, newlines_intercalate, List.map_map, Bindings.keys, List.map_map]
  refine congrArg List.sum (List.map_congr_left fun entry _ => ?_)
  exact Logfmt.newlines_pair entry.1 entry.2.text

/-! ### Colors -/

namespace Color

theorem newlines_escape (number : String) : newlines (escape number) = newlines number := by
  have hbefore : newlines "\x1b[" = 0 := by decide
  have hbehind : newlines "m" = 0 := by decide
  rw [escape, newlines_append, newlines_append, hbefore, hbehind, Nat.zero_add, Nat.add_zero]

theorem newlines_named {tag code : String} (h : named? tag = some code) : newlines code = 0 := by
  have hnames : ∀ entry ∈ names, newlines entry.2 = 0 := by decide
  rcases Option.map_eq_some_iff.mp h with ⟨number, hlookup, rfl⟩
  rw [newlines_escape]
  rcases List.lookup_eq_some_iff.mp hlookup with ⟨before, after, hsplit, _⟩
  exact hnames (_, number) (hsplit ▸ List.mem_append_right _ List.mem_cons_self)

theorem newlines_paletteCode (i : Nat) : newlines (paletteCode i) = 0 := by
  have hpalette : ∀ k < 6, newlines (palette.getD k "0") = 0 := by decide
  rw [paletteCode, newlines_escape]
  exact hpalette _ (Nat.mod_lt i (by decide))

end Color

theorem ColorAllocator.newlines_code {a : ColorAllocator} {tag code : String}
    (h : (a.code tag).1 = some code) : newlines code = 0 := by
  unfold ColorAllocator.code at h
  split at h
  · cases h
  split at h
  · next hnamed =>
    cases h
    exact Color.newlines_named hnamed
  split at h
  · cases h
    exact Color.newlines_paletteCode _
  · cases h
    exact Color.newlines_paletteCode _

namespace OutputFormatter

theorem newlines_code {f : OutputFormatter} {o : OutputRecord} {code : String}
    (h : (f.code o).1 = some code) : newlines code = 0 := by
  unfold OutputFormatter.code at h
  split at h
  · split at h
    · exact ColorAllocator.newlines_code h
    · cases h
  · cases h

/-- A line of text has its own newline and those of its record. -/
theorem newlines_write {f : OutputFormatter} (hf : f.format = .line) (o : OutputRecord) :
    newlines (f.write o).1 = newlines (Logfmt.record o.record) + 1 := by
  have hend : newlines "\n" = 1 := by decide
  have hreset : newlines Color.reset = 0 := by decide
  rw [write, hf]
  simp only [textLine]
  split
  · next code hcode =>
    rw [newlines_append, newlines_append, newlines_append, newlines_code hcode, hend, hreset,
      Nat.zero_add, Nat.add_zero]
  · rw [newlines_append, hend]

/-- Whatever is written for a record ends with a newline. -/
theorem write_eq_row (f : OutputFormatter) (o : OutputRecord) :
    ∃ row, (f.write o).1 = row ++ "\n" := by
  unfold write
  split
  · exact ⟨_, rfl⟩
  · simp only [textLine]
    split
    · exact ⟨_, rfl⟩
    · exact ⟨_, rfl⟩

/-- Writing a record does not change the form of the lines. -/
theorem format_write (f : OutputFormatter) (o : OutputRecord) :
    (f.write o).2.format = f.format := by
  unfold write
  split
  · rfl
  · simp only [code]
    split
    · split
      · rfl
      · rfl
    · rfl

end OutputFormatter

end LogQuery
