import LogQuery.Text.Blank
import Mathlib.Data.List.DropRight

/-!
# Trimming

What trimming leaves of a text. It works from the end inwards and stops at the
first character that is kept, so everything in front of such a character stays,
and a text is left alone exactly if it does not end with a character that is
dropped.

## Theorems

* `mem_of_mem_trimEnd`, `mem_of_mem_trim`: Nothing is added.
* `trimEnd_append_of_mem`: What stands in front of a kept character stays.
* `trimEnd_concat_of_drop`, `trim_concat_of_drop`: A dropped character at the end.
* `trimEnd_eq_self_iff`: When nothing is dropped.
* `trimEnd_isPrefix`, `trimEnd_trimEnd`: A front part is left, and it is left alone.
-/

namespace LogQuery

theorem mem_of_mem_trimEnd {drop : Char → Bool} {cs : List Char} {c : Char}
    (h : c ∈ trimEnd drop cs) : c ∈ cs :=
  List.mem_reverse.mp ((List.dropWhile_suffix drop).mem (List.mem_reverse.mp h))

theorem mem_of_mem_trim {drop : Char → Bool} {cs : List Char} {c : Char}
    (h : c ∈ trim drop cs) : c ∈ cs :=
  (List.dropWhile_suffix drop).mem (mem_of_mem_trimEnd h)

theorem trimEnd_append_of_mem {drop : Char → Bool} {c : Char} {cs : List Char} (hc : c ∈ cs)
    (hdrop : drop c = false) (front : List Char) :
    trimEnd drop (front ++ cs) = front ++ trimEnd drop cs := by
  have hkept : (cs.reverse.dropWhile drop).isEmpty = false := by
    rw [List.isEmpty_eq_false_iff, ne_eq, List.dropWhile_eq_nil_iff]
    intro hall
    exact Bool.false_ne_true (hdrop.symm.trans (hall c (List.mem_reverse.mpr hc)))
  rw [trimEnd, List.reverse_append, List.dropWhile_append, hkept, if_neg Bool.false_ne_true,
    List.reverse_append, List.reverse_reverse, trimEnd]

theorem trimEnd_cons_of_not {drop : Char → Bool} {c : Char} (hdrop : drop c = false)
    (cs : List Char) : trimEnd drop (c :: cs) = c :: trimEnd drop cs := by
  rw [trimEnd, List.reverse_cons, List.dropWhile_append]
  split
  · next hempty =>
    rw [List.isEmpty_iff] at hempty
    rw [List.dropWhile_cons_of_neg (by rw [hdrop]; exact Bool.false_ne_true), trimEnd, hempty]
    rfl
  · rw [List.reverse_append, trimEnd]
    rfl

theorem trimEnd_concat_of_not {drop : Char → Bool} {c : Char} (hdrop : drop c = false)
    (cs : List Char) : trimEnd drop (cs ++ [c]) = cs ++ [c] := by
  rw [trimEnd_append_of_mem (List.mem_singleton_self c) hdrop, trimEnd_cons_of_not hdrop]
  rfl

/-- A character at the end that is dropped makes no difference. -/
theorem trimEnd_concat_of_drop {drop : Char → Bool} {c : Char} (hdrop : drop c = true)
    (cs : List Char) : trimEnd drop (cs ++ [c]) = trimEnd drop cs := by
  rw [trimEnd, List.reverse_append, List.reverse_singleton, List.singleton_append,
    List.dropWhile_cons_of_pos hdrop, trimEnd]

theorem trim_concat_of_drop {drop : Char → Bool} {c : Char} (hdrop : drop c = true)
    (cs : List Char) : trim drop (cs ++ [c]) = trim drop cs := by
  rw [trim, List.dropWhile_append]
  split
  · next hempty =>
    rw [trim, List.isEmpty_iff.mp hempty, List.dropWhile_cons_of_pos hdrop]
    rfl
  · rw [trimEnd_concat_of_drop hdrop, trim]

/-- Only a blank at the end is ever dropped. -/
theorem trimEnd_eq_self_iff {drop : Char → Bool} (cs : List Char) :
    trimEnd drop cs = cs ↔ ∀ c ∈ cs.getLast?, drop c = false := by
  rcases List.eq_nil_or_concat cs with rfl | ⟨front, c, rfl⟩
  · exact ⟨fun _ _ hc => absurd hc (Option.not_mem_none _), fun _ => rfl⟩
  · rw [List.concat_eq_append, List.getLast?_concat]
    constructor
    · intro h d hd
      cases hd
      cases hdrop : drop c with
      | false => rfl
      | true =>
          -- The text would be longer than what is left of it.
          have hlength := congrArg List.length h
          have hfront := List.length_dropWhile_le drop front.reverse
          simp only [trimEnd, List.reverse_append, List.reverse_singleton, List.singleton_append,
            List.dropWhile_cons, hdrop, if_true, List.length_reverse, List.length_append,
            List.length_singleton] at hlength hfront
          omega
    · intro h
      exact trimEnd_concat_of_not (h c rfl) front

theorem trimEnd_isPrefix (drop : Char → Bool) (cs : List Char) : trimEnd drop cs <+: cs :=
  List.rdropWhile_prefix drop cs

theorem trimEnd_trimEnd (drop : Char → Bool) (cs : List Char) :
    trimEnd drop (trimEnd drop cs) = trimEnd drop cs :=
  List.rdropWhile_idempotent drop cs

end LogQuery
