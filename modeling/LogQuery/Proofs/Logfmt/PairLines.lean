import LogQuery.Proofs.Logfmt.Grammar

/-!
# Lists of Pairs Read Back

What is written of a list of pairs is read as that list, if its keys are ones that
a line can have at all. Nothing is asked of the values: whatever the reader could
take for something else is in quotes, where every character is escaped that means
something there. Nor need the keys be distinct, since the reader of pairs finds
what is written and merges nothing; a record is made of it later.

This is about pairs and not about records of lines. A line is trimmed before its
pairs are read, by more blanks than separate pairs, and the value at its end can
lose characters in that. Between the writer of pairs and their reader nothing is
trimmed.

The condition on keys cannot be weakened, because the reader finds no other keys in
any line. So a list of pairs is read back exactly if its keys are such keys.

## Theorems

* `spells_lineText`: The line of some pairs spells them.
* `isKey_of_read`: Every key that is read is one that a line can have.
* `pair_lines_read_back`: Which lists of pairs are read back.
-/

namespace LogQuery

namespace Logfmt

theorem isKey_iff {key : String} :
    IsKey key ↔ key ≠ "" ∧ ∀ c ∈ key.toList, c ≠ '=' ∧ c ≠ ' ' ∧ c ≠ '\t' := by
  simp only [IsKey, isKeyChar_iff, IsBlank, not_or]

/-- The line of some pairs spells them, each value as it is written and each pair up
    to the space in front of the next. -/
theorem spells_lineText {pairs : List (String × String)} (hne : pairs ≠ [])
    (hkeys : ∀ p ∈ pairs, IsKey p.1) : Spells pairs (lineText pairs) := by
  induction pairs with
  | nil => exact absurd rfl hne
  | cons p rest ih =>
      rcases p with ⟨key, value⟩
      rw [List.forall_mem_cons] at hkeys
      have hvalue := written_valueChars value.toList
      cases rest with
      | nil =>
          rw [lineText_singleton]
          exact .last hkeys.1 hvalue
      | cons next rest =>
          rw [lineText_cons]
          exact .cons hkeys.1 hvalue (ih (List.cons_ne_nil next rest) hkeys.2)

theorem read_lineText {pairs : List (String × String)} (hkeys : ∀ p ∈ pairs, IsKey p.1) :
    read (lineText pairs) = .ok pairs := by
  cases pairs with
  | nil =>
      rw [read, readPairs]
      rfl
  | cons p rest => exact readPairs_spells (spells_lineText (List.cons_ne_nil p rest) hkeys) []

theorem PairForm.AllWellFormed.of_mem {forms : List PairForm} (h : AllWellFormed forms)
    {form : PairForm} (hform : form ∈ forms) : form.WellFormed := by
  induction forms with
  | nil => exact absurd hform List.not_mem_nil
  | cons first rest ih =>
      rcases List.mem_cons.mp hform with rfl | hrest
      · exact h.1
      · exact ih h.2.2 hrest

/-- Every key that is read is one that a line can have. -/
theorem isKey_of_read {line : List Char} {pairs : List (String × String)}
    (h : read line = .ok pairs) : ∀ p ∈ pairs, IsKey p.1 := by
  rcases forms_of_readPairs h with ⟨l, hl, _, rfl⟩
  intro p hp
  rcases List.mem_map.mp hp with ⟨form, hform, rfl⟩
  exact (hl.pairs.of_mem hform).isKey

/-- The written pairs, joined by single spaces, are read as exactly the list that was
    written, in its order and with its repetitions, if no key is empty or has an
    equals sign, a space or a tab, and only then. The values are arbitrary. -/
theorem pair_lines_read_back (pairs : List (String × String)) :
    read (" ".intercalate (pairs.map fun p => pair p.1 p.2)).toList = .ok pairs ↔
      ∀ p ∈ pairs, p.1 ≠ "" ∧ ∀ c ∈ p.1.toList, c ≠ '=' ∧ c ≠ ' ' ∧ c ≠ '\t' := by
  constructor
  · exact fun h p hp => isKey_iff.mp (isKey_of_read h p hp)
  · exact fun h => read_lineText fun p hp => isKey_iff.mpr (h p hp)

/-- A key that is repeated, one with a newline and a quotation mark, an empty value,
    and blanks at the ends of values. -/
example :
    read (" ".intercalate (List.map (fun p => pair p.1 p.2)
      [("a", "\u00a0"), ("b\n\"", ""), ("a", " \\\"\r=")])).toList =
      .ok [("a", "\u00a0"), ("b\n\"", ""), ("a", " \\\"\r=")] := by
  decide +kernel

end Logfmt

end LogQuery
