import LogQuery.Proofs.Json.Numerals
import LogQuery.Query.Path

/-!
# Reading a Path Back

A path is written to be looked at, and what is written need not say which path
was meant: a key that holds a point reads like two keys. The keys of a query
are words, though, and for those the text can be followed. Cut at the points
it falls into pieces, a piece is cut again at the opening brackets, and then
it is a key, if it has one, and the indices after it.

The two cuts do not have to be undone together. Text that has been written so
far has no point of its own, or else it would be the end of an earlier piece,
so the argument keeps the piece at hand and goes along the steps that are still
to come: a key starts the next piece, and an index makes the piece longer.

## Main definitions

* `Path.PlainKey`, `Path.Plain`: A key that is a word, and a path with no other
  keys.
* `Path.ofText`: The path that a text says.

## Theorems

* `flatMap_piece_splitOn`: The pieces of a written path, with a piece at hand.
* `ofText_text`: A plain path is what its text says.
-/

namespace LogQuery

namespace Path

/-- A key that is not empty, does not read like the root, and has no point and no
    bracket in it. -/
def PlainKey (name : String) : Prop :=
  name ≠ "" ∧ name ≠ "query" ∧ '.' ∉ name.toList ∧ '[' ∉ name.toList

instance (name : String) : Decidable (PlainKey name) :=
  inferInstanceAs (Decidable (_ ∧ _))

/-- Every key on the path is plain. -/
def Plain (path : Path) : Prop := ∀ name, .key name ∈ path → PlainKey name

/-- The key and the indices in a text without points. -/
def piece (chars : List Char) : Path :=
  match chars.splitOn '[' with
  | [] => []
  | name :: indices =>
    (if name = [] then [] else [.key (String.ofList name)]) ++
      indices.map fun index => .index (Nat.ofDigitChars 10 index.dropLast 0)

/-- The path that a text says. -/
def ofText (text : String) : Path :=
  if text = "query" then [] else (text.toList.splitOn '.').flatMap piece

theorem Plain.head {name : String} {rest : Path} (h : Plain (.key name :: rest)) :
    PlainKey name :=
  h name List.mem_cons_self

theorem Plain.tail {step : Segment} {rest : Path} (h : Plain (step :: rest)) : Plain rest :=
  fun name hname => h name (List.mem_cons_of_mem _ hname)

theorem Plain.child {path : Path} (h : path.Plain) {name : String} (hname : PlainKey name) :
    (path.child name).Plain := by
  intro key hkey
  rcases List.mem_append.mp hkey with hkey | hkey
  · exact h key hkey
  · exact Segment.key.inj (List.mem_singleton.mp hkey) ▸ hname

theorem Plain.element {path : Path} (h : path.Plain) (i : Nat) : (path.element i).Plain := by
  intro key hkey
  rcases List.mem_append.mp hkey with hkey | hkey
  · exact h key hkey
  · cases List.mem_singleton.mp hkey

theorem toList_segmentText_key (name : String) :
    (segmentText (.key name)).toList = '.' :: name.toList := by
  rw [segmentText, String.toList_append]
  rfl

theorem toList_segmentText_index (i : Nat) :
    (segmentText (.index i)).toList = '[' :: decimalDigits i ++ [']'] := by
  simp only [segmentText, String.toList_append, String.toList_ofList]
  rfl

/-- A text is cut at a character before and after it alike. -/
theorem splitOn_append_cons (sep : Char) (xs ys : List Char) :
    (xs ++ sep :: ys).splitOn sep = xs.splitOn sep ++ ys.splitOn sep := by
  simp only [List.splitOn_eq_splitOnP]
  exact List.splitOnP_append_cons xs ys (beq_self_eq_true sep)

theorem piece_key {name : String} (h : PlainKey name) : piece name.toList = [.key name] := by
  rw [piece, List.splitOn_eq_singleton h.2.2.2]
  have hne : name.toList ≠ [] := fun hnil => h.1 (String.toList_eq_nil_iff.mp hnil)
  simp only [if_neg hne, List.map_nil, List.append_nil, String.ofList_toList]

/-- An index that is written after a piece is one more step of it. -/
theorem piece_index (chars : List Char) (i : Nat) :
    piece (chars ++ (segmentText (.index i)).toList) = piece chars ++ [.index i] := by
  have hdigits : '[' ∉ decimalDigits i ++ [']'] :=
    List.not_mem_append (not_mem_decimalDigits (by decide) i) (by decide)
  rw [toList_segmentText_index, List.cons_append, piece, piece, splitOn_append_cons,
    List.splitOn_eq_singleton hdigits]
  rcases hsplit : chars.splitOn '[' with _ | ⟨name, indices⟩
  · exact absurd hsplit (List.splitOn_ne_nil _ _)
  · simp only [List.cons_append, List.map_append, List.map_cons, List.map_nil,
      List.append_assoc, List.dropLast_concat, ofDigitChars_decimalDigits]

/-- What has been written since the last point is a piece of its own, and the steps
    to come are added to it or follow it. -/
theorem flatMap_piece_splitOn {rest : Path} (hrest : rest.Plain) {chars : List Char}
    (hchars : '.' ∉ chars) :
    ((chars ++ rest.flatMap fun step => (segmentText step).toList).splitOn '.').flatMap piece =
      piece chars ++ rest := by
  induction rest generalizing chars with
  | nil =>
      rw [List.flatMap_nil, List.append_nil, List.splitOn_eq_singleton hchars, List.flatMap_cons,
        List.flatMap_nil]
  | cons step rest ih =>
      cases step with
      | key name =>
          -- The point ends the piece at hand, and the key begins the next one.
          rw [List.flatMap_cons, toList_segmentText_key, List.cons_append, splitOn_append_cons,
            List.splitOn_eq_singleton hchars, List.flatMap_append,
            ih hrest.tail hrest.head.2.2.1, piece_key hrest.head, List.flatMap_singleton,
            List.singleton_append]
      | index i =>
          -- Nothing in an index is a point, so the piece at hand goes on.
          have hindex : '.' ∉ chars ++ (segmentText (.index i)).toList := by
            rw [toList_segmentText_index, List.cons_append, List.append_cons]
            have hbracket : '.' ∉ chars ++ ['['] := List.not_mem_append hchars (by decide)
            have hdigits : '.' ∉ decimalDigits i ++ [']'] :=
              List.not_mem_append (not_mem_decimalDigits (by decide) i) (by decide)
            exact List.not_mem_append hbracket hdigits
          rw [List.flatMap_cons, ← List.append_assoc, ih hrest.tail hindex, piece_index,
            List.append_assoc, List.singleton_append]

/-- A key that comes first is written without a point before it. -/
theorem toList_text_key (name : String) (rest : Path) :
    (text (.key name :: rest)).toList =
      name.toList ++ rest.flatMap fun step => (segmentText step).toList := by
  rw [text, String.toList_append, String.toList_join, List.flatMap_map]

theorem toList_text_index (i : Nat) (rest : Path) :
    (text (.index i :: rest)).toList =
      [] ++ (Segment.index i :: rest).flatMap fun step => (segmentText step).toList := by
  rw [text, String.toList_join, List.flatMap_map, List.nil_append]

/-- Only the root reads like the root. A longer path has a point or a bracket in its
    text, unless it is a single key, which is not that word. -/
theorem text_ne_query {step : Segment} {rest : Path} (h : Plain (step :: rest)) :
    text (step :: rest) ≠ "query" := by
  -- Every step after the first key brings a mark with it that the word does not have.
  have hmark : ∀ {front : List Char} {steps : Path}, steps ≠ [] →
      front ++ (steps.flatMap fun step => (segmentText step).toList) ≠ "query".toList := by
    intro front steps hne heq
    rcases List.exists_cons_of_ne_nil hne with ⟨_ | _, more, rfl⟩
    · have hmem : '.' ∈ "query".toList := by
        rw [← heq, List.flatMap_cons, toList_segmentText_key]
        simp
      revert hmem
      decide
    · have hmem : '[' ∈ "query".toList := by
        rw [← heq, List.flatMap_cons, toList_segmentText_index]
        simp
      revert hmem
      decide
  intro heq
  have hchars := congrArg String.toList heq
  cases step with
  | index i =>
      rw [toList_text_index] at hchars
      exact hmark (List.cons_ne_nil _ _) hchars
  | key name =>
      rw [toList_text_key] at hchars
      cases rest with
      | nil =>
          rw [List.flatMap_nil, List.append_nil] at hchars
          exact h.head.2.1 (String.toList_injective hchars)
      | cons second rest => exact hmark (List.cons_ne_nil _ _) hchars

/-- A plain path is what its text says. -/
theorem ofText_text {path : Path} (h : path.Plain) : ofText path.text = path := by
  rcases path with _ | ⟨step, rest⟩
  · rfl
  rw [ofText, if_neg (text_ne_query h)]
  cases step with
  | key name =>
      rw [toList_text_key, flatMap_piece_splitOn h.tail h.head.2.2.1, piece_key h.head,
        List.singleton_append]
  | index i =>
      rw [toList_text_index, flatMap_piece_splitOn h List.not_mem_nil]
      rfl

end Path

end LogQuery
