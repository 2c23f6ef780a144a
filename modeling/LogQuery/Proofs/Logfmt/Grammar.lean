import LogQuery.Proofs.Logfmt.ReadBack

/-!
# The Grammar of Lines of Pairs

Which lines are made of pairs, said without a reader. A `LineForm` is the way in
which a line is put together: the blanks it begins with, and then its pairs, each
with its key, its value as it is spelled, and the blanks behind it. The text of a
form and the pairs that it means are read off it, and nothing is looked at in any
order.

A form is well-formed if its parts are, and one thing more: a value that stands
bare goes up to the next blank or to the end. That is a condition on what follows
it, and the only one of its kind. A value in quotes says itself where it ends, so
the next key may stand right behind it.

The main theorem holds the reader against this in three ways. What the reader finds
in a line is what some well-formed form of the line means; a line has no more than
one such form; and the reader refuses a line if it has none.

Reading a form and comparing two forms need the same fact about runs. Blanks, keys
and bare values are runs of characters of some kind, and a run is determined by its
text if what follows cannot go on with it (`run_append`).

## Main definitions

* `Logfmt.QuotedChar`: A character in quotes, as it is spelled.
* `Logfmt.ValueForm`, `Logfmt.PairForm`, `Logfmt.LineForm`: How values, pairs and
  lines are put together.
* `Logfmt.LineForm.WellFormed`: The rules of the format.

## Theorems

* `readQuoted_chars`, `readValue_chars`, `readPairs_chars`: The reader finds what a
  well-formed form means.
* `form_of_readQuoted`, `form_of_readValue`, `forms_of_readPairs`: What the reader
  finds is the meaning of a well-formed form.
* `quoted_unique`, `value_unique`, `pairs_unique`: No text has two well-formed forms.
* `logfmt_reads_grammar`: The reader accepts exactly its grammar.
-/

namespace LogQuery

namespace Logfmt

/-! ### Forms -/

/-- A character in quotes, as it is spelled. -/
inductive QuotedChar where
  | plain (c : Char)
  /-- A backslash and the character behind it. -/
  | escaped (c : Char)
deriving DecidableEq

namespace QuotedChar

def chars : QuotedChar → List Char
  | plain c => [c]
  | escaped c => ['\\', c]

/-- Three letters stand for control characters behind a backslash, and every other
    character for itself. -/
def meaning : QuotedChar → Char
  | plain c => c
  | escaped 'n' => '\n'
  | escaped 't' => '\t'
  | escaped 'r' => '\r'
  | escaped c => c

def WellFormed : QuotedChar → Prop
  | plain c => c ≠ '"' ∧ c ≠ '\\'
  | escaped _ => True

end QuotedChar

/-- A character that separates pairs. -/
def IsBlank (c : Char) : Prop := c = ' ' ∨ c = '\t'

/-- A value as it is spelled. -/
inductive ValueForm where
  | bare (cs : List Char)
  | quoted (items : List QuotedChar)
deriving DecidableEq

namespace ValueForm

def chars : ValueForm → List Char
  | bare cs => cs
  | quoted items => '"' :: (items.flatMap QuotedChar.chars ++ ['"'])

def meaning : ValueForm → List Char
  | bare cs => cs
  | quoted items => items.map QuotedChar.meaning

def WellFormed : ValueForm → Prop
  | bare cs => cs.head? ≠ some '"' ∧ ∀ c ∈ cs, ¬ IsBlank c
  | quoted items => ∀ item ∈ items, item.WellFormed

/-- A bare value ends at the next blank or at the end of the line, and nowhere
    else. -/
def EndsBefore (rest : List Char) : ValueForm → Prop
  | bare _ => ∀ c ∈ rest.head?, IsBlank c
  | quoted _ => True

end ValueForm

/-- A pair as it is spelled, with the blanks behind it. -/
@[ext]
structure PairForm where
  key : String
  value : ValueForm
  blanks : List Char
deriving DecidableEq

namespace PairForm

def chars (p : PairForm) : List Char :=
  p.key.toList ++ '=' :: (p.value.chars ++ p.blanks)

/-- The key and the value, without their spelling. -/
def meaning (p : PairForm) : String × String := (p.key, String.ofList p.value.meaning)

structure WellFormed (p : PairForm) : Prop where
  key_ne : p.key ≠ ""
  key : ∀ c ∈ p.key.toList, c ≠ '=' ∧ ¬ IsBlank c
  value : p.value.WellFormed
  blanks : ∀ c ∈ p.blanks, IsBlank c

/-- Every pair is well-formed, and its value ends in front of what follows. -/
def AllWellFormed : List PairForm → Prop
  | [] => True
  | p :: rest =>
    p.WellFormed ∧ p.value.EndsBefore (p.blanks ++ rest.flatMap chars) ∧ AllWellFormed rest

end PairForm

/-- A line as it is put together: the blanks at its start, and its pairs. -/
@[ext]
structure LineForm where
  blanks : List Char
  pairs : List PairForm
deriving DecidableEq

namespace LineForm

def chars (l : LineForm) : List Char := l.blanks ++ l.pairs.flatMap PairForm.chars

def meaning (l : LineForm) : List (String × String) := l.pairs.map PairForm.meaning

structure WellFormed (l : LineForm) : Prop where
  blanks : ∀ c ∈ l.blanks, IsBlank c
  pairs : PairForm.AllWellFormed l.pairs

end LineForm

/-! ### Runs -/

/-- A run is what can be taken from its text, if what follows does not go on with
    it. -/
theorem run_append {p : Char → Bool} {run rest : List Char} (hrun : ∀ c ∈ run, p c = true)
    (hrest : ∀ c ∈ rest.head?, p c = false) :
    (run ++ rest).takeWhile p = run ∧ (run ++ rest).dropWhile p = rest := by
  rw [List.takeWhile_append_of_pos hrun, List.dropWhile_append_of_pos hrun]
  cases rest with
  | nil => exact ⟨List.append_nil run, rfl⟩
  | cons c rest =>
      have hstop : ¬ p c = true := by
        rw [hrest c rfl]
        exact Bool.false_ne_true
      rw [List.takeWhile_cons_of_neg hstop, List.dropWhile_cons_of_neg hstop, List.append_nil]
      exact ⟨rfl, rfl⟩

/-- Two runs in front of the same text are the same. -/
theorem run_unique {p : Char → Bool} {run run' rest rest' : List Char}
    (hrun : ∀ c ∈ run, p c = true) (hrest : ∀ c ∈ rest.head?, p c = false)
    (hrun' : ∀ c ∈ run', p c = true) (hrest' : ∀ c ∈ rest'.head?, p c = false)
    (h : run ++ rest = run' ++ rest') : run = run' ∧ rest = rest' := by
  have hfirst := run_append hrun hrest
  have hsecond := run_append hrun' hrest'
  rw [h] at hfirst
  exact ⟨hfirst.1.symm.trans hsecond.1, hfirst.2.symm.trans hsecond.2⟩

theorem isSeparator_iff {c : Char} : isSeparator c = true ↔ IsBlank c := by
  simp only [isSeparator, IsBlank, Bool.or_eq_true, beq_iff_eq]

theorem isSeparator_eq_false_iff {c : Char} : isSeparator c = false ↔ ¬ IsBlank c := by
  rw [← isSeparator_iff, Bool.not_eq_true]

theorem isKeyChar_iff {c : Char} : isKeyChar c = true ↔ c ≠ '=' ∧ ¬ IsBlank c := by
  rw [isKeyChar, Bool.not_eq_true', Bool.or_eq_false_iff, isSeparator_eq_false_iff,
    beq_eq_false_iff_ne, and_comm]

theorem PairForm.WellFormed.isKey {p : PairForm} (h : p.WellFormed) : IsKey p.key :=
  ⟨h.key_ne, fun c hc => isKeyChar_iff.mpr (h.key c hc)⟩

/-- A pair begins with a character of its key. -/
theorem PairForm.WellFormed.head_chars {p : PairForm} (h : p.WellFormed) (rest : List Char) :
    ∀ c ∈ (p.chars ++ rest).head?, isSeparator c = false := by
  rcases List.exists_cons_of_ne_nil fun hnil => h.key_ne (String.toList_eq_nil_iff.mp hnil) with
    ⟨first, more, hkey⟩
  intro c hc
  rw [PairForm.chars, hkey, List.cons_append, List.cons_append, List.head?_cons] at hc
  cases hc
  have hfirst : first ∈ p.key.toList := hkey ▸ List.mem_cons_self
  exact isSeparator_eq_false_iff.mpr (h.key first hfirst).2

/-- Pairs do not begin with a blank. -/
theorem PairForm.AllWellFormed.head_chars {pairs : List PairForm} (h : AllWellFormed pairs) :
    ∀ c ∈ (pairs.flatMap PairForm.chars).head?, isSeparator c = false := by
  cases pairs with
  | nil => exact nofun
  | cons p rest => exact h.1.head_chars _

/-- No bare value, and nothing that a bare value ends in front of, begins with a
    quotation mark. -/
theorem ValueForm.WellFormed.bare_ne {cs rest more : List Char} (h : (bare cs).WellFormed)
    (hrest : (bare cs).EndsBefore rest) : cs ++ rest ≠ '"' :: more := by
  intro hmore
  cases cs with
  | nil =>
      rw [List.nil_append] at hmore
      rw [hmore] at hrest
      exact absurd (hrest '"' rfl) (by unfold IsBlank; decide)
  | cons c cs =>
      cases hmore
      exact h.1 rfl

/-- A bare value is the run of what is no blank. -/
theorem ValueForm.WellFormed.bare_run {cs rest : List Char} (h : (bare cs).WellFormed)
    (hrest : (bare cs).EndsBefore rest) :
    (∀ c ∈ cs, (!isSeparator c) = true) ∧ ∀ c ∈ rest.head?, (!isSeparator c) = false := by
  refine ⟨fun c hc => ?_, fun c hc => ?_⟩
  · rw [isSeparator_eq_false_iff.mpr (h.2 c hc)]
    rfl
  · rw [isSeparator_iff.mpr (hrest c hc)]
    rfl

/-! ### Forms are read -/

theorem meaning_escaped (c : Char) : (QuotedChar.escaped c).meaning = unescape c := by
  unfold unescape
  split
  · next hn => rw [hn]; rfl
  split
  · next ht => rw [ht]; rfl
  split
  · next hr => rw [hr]; rfl
  · next hn ht hr => exact QuotedChar.meaning.eq_5 c hn ht hr

theorem readQuoted_chars {items : List QuotedChar} (h : ∀ item ∈ items, item.WellFormed)
    (before rest : List Char) :
    readQuoted before (items.flatMap QuotedChar.chars ++ '"' :: rest) =
      some (before.reverse ++ items.map QuotedChar.meaning, rest) := by
  induction items generalizing before with
  | nil => rw [List.flatMap_nil, List.nil_append, readQuoted, List.map_nil, List.append_nil]
  | cons item items ih =>
      have hitems := ih fun other hother => h other (List.mem_cons_of_mem item hother)
      rw [List.flatMap_cons, List.append_assoc, List.map_cons]
      have hstep : readQuoted before
          (item.chars ++ (items.flatMap QuotedChar.chars ++ '"' :: rest)) =
          readQuoted (item.meaning :: before)
            (items.flatMap QuotedChar.chars ++ '"' :: rest) := by
        cases item with
        | plain c =>
            have hc : c ≠ '"' ∧ c ≠ '\\' := h _ List.mem_cons_self
            rw [QuotedChar.chars, List.singleton_append, readQuoted]
            · rfl
            · exact hc.1
            · exact fun hslash => absurd hslash hc.2
            · exact fun _ _ hslash => absurd hslash hc.2
        | escaped c =>
            rw [meaning_escaped]
            rfl
      rw [hstep, hitems, List.reverse_cons, List.append_assoc, List.singleton_append]

theorem readValue_chars {value : ValueForm} {rest : List Char} (h : value.WellFormed)
    (hrest : value.EndsBefore rest) :
    readValue (value.chars ++ rest) = some (value.meaning, rest) := by
  cases value with
  | quoted items =>
      have hread := readQuoted_chars h [] rest
      rw [ValueForm.chars, List.cons_append, List.append_assoc, List.singleton_append]
      exact hread
  | bare cs =>
      have hrun := h.bare_run hrest
      unfold readValue
      split
      · next heq => exact absurd heq (h.bare_ne hrest)
      · rw [ValueForm.chars, (run_append hrun.1 hrun.2).1, (run_append hrun.1 hrun.2).2]
        rfl

theorem readPair_chars {p : PairForm} {rest : List Char} (h : p.WellFormed)
    (hrest : p.value.EndsBefore (p.blanks ++ rest)) :
    readPair (p.chars ++ rest) = .ok (p.meaning, p.blanks ++ rest) := by
  have hchars : p.chars ++ rest =
      p.key.toList ++ '=' :: (p.value.chars ++ (p.blanks ++ rest)) := by
    rw [PairForm.chars, List.append_assoc, List.cons_append, List.append_assoc]
  rw [hchars, readPair, readKey_append h.isKey]
  simp only [readValue_chars h.value hrest]
  rfl

/-- Blanks in front of pairs are passed over. -/
theorem readPairs_blanks {blanks : List Char} (h : ∀ c ∈ blanks, IsBlank c)
    (before : List (String × String)) (cs : List Char) :
    readPairs before (blanks ++ cs) = readPairs before cs := by
  have hdrop : (blanks ++ cs).dropWhile isSeparator = cs.dropWhile isSeparator :=
    List.dropWhile_append_of_pos fun c hc => isSeparator_iff.mpr (h c hc)
  rw [readPairs, readPairs, hdrop]

/-- Pairs that are well-formed are read, one after the other. -/
theorem readPairs_chars {pairs : List PairForm} (h : PairForm.AllWellFormed pairs)
    (before : List (String × String)) :
    readPairs before (pairs.flatMap PairForm.chars) =
      .ok (before.reverse ++ pairs.map PairForm.meaning) := by
  induction pairs generalizing before with
  | nil =>
      rw [List.flatMap_nil, List.map_nil, List.append_nil, readPairs]
      rfl
  | cons p rest ih =>
      rcases h with ⟨hp, hends, hrest⟩
      have hread := readPair_chars hp hends
      have hchars : p.chars ++ rest.flatMap PairForm.chars = p.key.toList ++
          '=' :: (p.value.chars ++ p.blanks ++ rest.flatMap PairForm.chars) := by
        rw [PairForm.chars, List.append_assoc, List.cons_append]
      rw [List.flatMap_cons, List.map_cons]
      rw [hchars] at hread ⊢
      rw [readPairs_key hp.isKey hread, readPairs_blanks hp.blanks, ih hrest, List.reverse_cons,
        List.append_assoc, List.singleton_append]

/-! ### What is read has a form -/

theorem form_of_readQuoted {before cs value rest : List Char}
    (h : readQuoted before cs = some (value, rest)) :
    ∃ items : List QuotedChar, (∀ item ∈ items, item.WellFormed) ∧
      cs = items.flatMap QuotedChar.chars ++ '"' :: rest ∧
      value = before.reverse ++ items.map QuotedChar.meaning := by
  fun_induction readQuoted before cs with
  | case1 | case3 => cases h
  | case2 before tail =>
      cases h
      exact ⟨[], List.forall_mem_nil _, rfl, (List.append_nil _).symm⟩
  | case4 before c tail ih =>
      rcases ih h with ⟨items, hitems, rfl, rfl⟩
      refine ⟨.escaped c :: items, List.forall_mem_cons.mpr ⟨trivial, hitems⟩, rfl, ?_⟩
      rw [List.reverse_cons, List.append_assoc, List.map_cons, meaning_escaped]
      rfl
  | case5 before c tail hquote hlast hslash ih =>
      rcases ih h with ⟨items, hitems, rfl, rfl⟩
      -- A backslash would have a character behind it, if only the closing quote.
      have hc : c ≠ '\\' := by
        rintro rfl
        cases hnext : items.flatMap QuotedChar.chars ++ '"' :: rest with
        | nil => exact absurd hnext (List.append_ne_nil_of_right_ne_nil _ (List.cons_ne_nil _ _))
        | cons d more => exact hslash d more rfl hnext
      refine ⟨.plain c :: items, List.forall_mem_cons.mpr ⟨⟨?_, hc⟩, hitems⟩, rfl, ?_⟩
      · exact hquote
      · rw [List.reverse_cons, List.append_assoc, List.map_cons]
        rfl

theorem form_of_readValue {cs value rest : List Char} (h : readValue cs = some (value, rest)) :
    ∃ form : ValueForm, form.WellFormed ∧ form.EndsBefore rest ∧ cs = form.chars ++ rest ∧
      value = form.meaning := by
  unfold readValue at h
  split at h
  · rcases form_of_readQuoted h with ⟨items, hitems, rfl, rfl⟩
    refine ⟨.quoted items, hitems, trivial, ?_, rfl⟩
    rw [ValueForm.chars, List.cons_append, List.append_assoc]
    rfl
  · next hnoquote =>
    cases h
    refine ⟨.bare (cs.takeWhile fun c => !isSeparator c), ⟨?_, fun c hc => ?_⟩, fun c hc => ?_,
      List.takeWhile_append_dropWhile.symm, rfl⟩
    · intro hhead
      rcases List.head?_eq_some_iff.mp hhead with ⟨more, hmore⟩
      have hcs := List.takeWhile_append_dropWhile (p := fun c => !isSeparator c) (l := cs)
      rw [hmore, List.cons_append] at hcs
      exact hnoquote _ hcs.symm
    · have hkept := List.all_eq_true.mp List.all_takeWhile c hc
      rw [Bool.not_eq_true'] at hkept
      exact isSeparator_eq_false_iff.mp hkept
    · have hstop := List.head?_dropWhile_not (fun c => !isSeparator c) cs
      rw [Option.mem_def] at hc
      simp only [hc, Bool.not_eq_false'] at hstop
      exact isSeparator_iff.mp hstop

/-- A key that is read is one of the format, and an equals sign stands behind it. -/
theorem key_of_readKey {cs rest : List Char} {key : String} (h : readKey cs = .ok (key, rest)) :
    key ≠ "" ∧ (∀ c ∈ key.toList, c ≠ '=' ∧ ¬ IsBlank c) ∧ cs = key.toList ++ '=' :: rest := by
  simp only [readKey] at h
  split at h
  · next tail hdrop =>
    split at h
    · cases h
    · next hne =>
      cases h
      refine ⟨hne, ?_, ?_⟩
      · rw [String.toList_ofList]
        exact fun c hc => isKeyChar_iff.mp (List.mem_takeWhile_imp hc)
      · rw [String.toList_ofList, ← hdrop, List.takeWhile_append_dropWhile]
  · cases h
  · cases h

/-- What is read of a line is the meaning of well-formed pairs behind some blanks. -/
theorem forms_of_readPairs {before pairs : List (String × String)} {cs : List Char}
    (h : readPairs before cs = .ok pairs) :
    ∃ l : LineForm, l.WellFormed ∧ l.chars = cs ∧ pairs = before.reverse ++ l.meaning := by
  fun_induction readPairs before cs with
  | case1 before cs hblank =>
      cases h
      refine ⟨⟨cs, []⟩, ⟨?_, trivial⟩, List.append_nil cs, (List.append_nil _).symm⟩
      intro c hc
      exact isSeparator_iff.mp (List.dropWhile_eq_nil_iff.mp hblank c hc)
  | case2 before cs c rest hblank fault hfault => cases h
  | case3 before cs c rest hblank p left hp ih =>
      rcases ih h with ⟨l, hl, rfl, rfl⟩
      unfold readPair at hp
      split at hp
      · cases hp
      · next key tail hkey =>
        split at hp
        · cases hp
        · next value left' hvalue =>
          cases hp
          rcases key_of_readKey hkey with ⟨hne, hchars, htext⟩
          rcases form_of_readValue hvalue with ⟨form, hform, hends, rfl, rfl⟩
          -- The blanks that the line behind the pair begins with are those of the pair.
          refine ⟨⟨cs.takeWhile isSeparator, ⟨key, form, l.blanks⟩ :: l.pairs⟩, ⟨?_, ?_⟩, ?_, ?_⟩
          · exact fun c hc => isSeparator_iff.mp (List.mem_takeWhile_imp hc)
          · exact ⟨⟨hne, hchars, hform, hl.blanks⟩, hends, hl.pairs⟩
          · have hcs := List.takeWhile_append_dropWhile (p := isSeparator) (l := cs)
            rw [hblank, htext] at hcs
            refine Eq.trans ?_ hcs
            simp only [LineForm.chars, PairForm.chars, List.flatMap_cons, List.append_assoc,
              List.cons_append]
          · simp only [LineForm.meaning, PairForm.meaning, List.reverse_cons, List.append_assoc,
              List.singleton_append, List.map_cons]

/-! ### Forms are unique -/

/-- A quotation mark is not the beginning of a character in quotes. -/
theorem QuotedChar.WellFormed.chars_ne {item : QuotedChar} (h : item.WellFormed)
    (more rest : List Char) : item.chars ++ more ≠ '"' :: rest := by
  intro heq
  cases item with
  | plain c =>
      cases heq
      exact h.1 rfl
  | escaped c => cases heq

theorem quotedChar_unique {item item' : QuotedChar} {rest rest' : List Char}
    (h : item.WellFormed) (h' : item'.WellFormed)
    (heq : item.chars ++ rest = item'.chars ++ rest') :
    item = item' ∧ rest = rest' := by
  cases item with
  | plain c =>
      cases item' with
      | plain c' =>
          cases heq
          exact ⟨rfl, rfl⟩
      | escaped c' =>
          cases heq
          exact absurd rfl h.2
  | escaped c =>
      cases item' with
      | plain c' =>
          cases heq
          exact absurd rfl h'.2
      | escaped c' =>
          cases heq
          exact ⟨rfl, rfl⟩

theorem quoted_unique {items items' : List QuotedChar} {rest rest' : List Char}
    (h : ∀ item ∈ items, item.WellFormed) (h' : ∀ item ∈ items', item.WellFormed)
    (heq : items.flatMap QuotedChar.chars ++ '"' :: rest =
      items'.flatMap QuotedChar.chars ++ '"' :: rest') :
    items = items' ∧ rest = rest' := by
  induction items generalizing items' with
  | nil =>
      cases items' with
      | nil =>
          cases heq
          exact ⟨rfl, rfl⟩
      | cons item' items' =>
          rw [List.flatMap_cons, List.append_assoc] at heq
          exact absurd heq.symm ((h' item' List.mem_cons_self).chars_ne _ _)
  | cons item items ih =>
      rw [List.forall_mem_cons] at h
      cases items' with
      | nil =>
          rw [List.flatMap_cons, List.append_assoc] at heq
          exact absurd heq (h.1.chars_ne _ _)
      | cons item' items' =>
          rw [List.forall_mem_cons] at h'
          rw [List.flatMap_cons, List.flatMap_cons, List.append_assoc, List.append_assoc] at heq
          rcases quotedChar_unique h.1 h'.1 heq with ⟨rfl, hmore⟩
          rcases ih h.2 h'.2 hmore with ⟨rfl, rfl⟩
          exact ⟨rfl, rfl⟩

theorem value_unique {value value' : ValueForm} {rest rest' : List Char} (h : value.WellFormed)
    (hrest : value.EndsBefore rest) (h' : value'.WellFormed) (hrest' : value'.EndsBefore rest')
    (heq : value.chars ++ rest = value'.chars ++ rest') : value = value' ∧ rest = rest' := by
  cases value with
  | bare cs =>
      cases value' with
      | bare cs' =>
          have hrun := h.bare_run hrest
          have hrun' := h'.bare_run hrest'
          rcases run_unique hrun.1 hrun.2 hrun'.1 hrun'.2 heq with ⟨rfl, rfl⟩
          exact ⟨rfl, rfl⟩
      | quoted items' => exact absurd heq (h.bare_ne hrest)
  | quoted items =>
      cases value' with
      | bare cs' => exact absurd heq.symm (h'.bare_ne hrest')
      | quoted items' =>
          simp only [ValueForm.chars, List.cons_append, List.append_assoc, List.nil_append,
            List.cons.injEq, true_and] at heq
          rcases quoted_unique h h' heq with ⟨rfl, rfl⟩
          exact ⟨rfl, rfl⟩

/-- Two pairs at the start of the same text are the same, if only what is behind them
    does not begin with a blank. -/
theorem pair_unique {p p' : PairForm} {rest rest' : List Char} (h : p.WellFormed)
    (hends : p.value.EndsBefore (p.blanks ++ rest))
    (hrest : ∀ c ∈ rest.head?, isSeparator c = false) (h' : p'.WellFormed)
    (hends' : p'.value.EndsBefore (p'.blanks ++ rest'))
    (hrest' : ∀ c ∈ rest'.head?, isSeparator c = false)
    (heq : p.chars ++ rest = p'.chars ++ rest') : p = p' ∧ rest = rest' := by
  simp only [PairForm.chars, List.append_assoc, List.cons_append] at heq
  have hequals : ∀ more : List Char, ∀ c ∈ ('=' :: more).head?, isKeyChar c = false := by
    intro more c hc
    cases hc
    rfl
  rcases run_unique h.isKey.2 (hequals _) h'.isKey.2 (hequals _) heq with ⟨hkey, hvalues⟩
  rw [List.cons.injEq] at hvalues
  rcases value_unique h.value hends h'.value hends' hvalues.2 with ⟨hvalue, hbehind⟩
  rcases run_unique (fun c hc => isSeparator_iff.mpr (h.blanks c hc)) hrest
    (fun c hc => isSeparator_iff.mpr (h'.blanks c hc)) hrest' hbehind with ⟨hblanks, hmore⟩
  exact ⟨PairForm.ext (String.toList_inj.mp hkey) hvalue hblanks, hmore⟩

theorem pairs_unique {pairs pairs' : List PairForm} (h : PairForm.AllWellFormed pairs)
    (h' : PairForm.AllWellFormed pairs')
    (heq : pairs.flatMap PairForm.chars = pairs'.flatMap PairForm.chars) : pairs = pairs' := by
  have hne : ∀ (p : PairForm) (more : List PairForm), (p :: more).flatMap PairForm.chars ≠ [] := by
    intro p more
    rw [List.flatMap_cons, PairForm.chars, List.append_assoc]
    exact List.append_ne_nil_of_right_ne_nil _ (List.cons_ne_nil _ _)
  induction pairs generalizing pairs' with
  | nil =>
      cases pairs' with
      | nil => rfl
      | cons p' rest' => exact absurd heq.symm (hne p' rest')
  | cons p rest ih =>
      cases pairs' with
      | nil => exact absurd heq (hne p rest)
      | cons p' rest' =>
          rcases h with ⟨hp, hends, hrest⟩
          rcases h' with ⟨hp', hends', hrest'⟩
          rw [List.flatMap_cons, List.flatMap_cons] at heq
          rcases pair_unique hp hends hrest.head_chars hp' hends' hrest'.head_chars heq with
            ⟨rfl, hmore⟩
          rw [ih hrest hrest' hmore]

theorem line_unique {l l' : LineForm} (h : l.WellFormed) (h' : l'.WellFormed)
    (heq : l.chars = l'.chars) : l = l' := by
  rcases run_unique (fun c hc => isSeparator_iff.mpr (h.blanks c hc)) h.pairs.head_chars
    (fun c hc => isSeparator_iff.mpr (h'.blanks c hc)) h'.pairs.head_chars heq with
    ⟨hblanks, hpairs⟩
  exact LineForm.ext hblanks (pairs_unique h.pairs h'.pairs hpairs)

/-! ### The reader -/

theorem read_chars {l : LineForm} (h : l.WellFormed) : read l.chars = .ok l.meaning := by
  rw [read, LineForm.chars, readPairs_blanks h.blanks, readPairs_chars h.pairs]
  rfl

/-- The reader accepts exactly its grammar. It finds some pairs in a line if and only
    if they are the meaning of a well-formed form of the line; a line has at most one
    such form; and the reader refuses a line if and only if it has none. -/
theorem logfmt_reads_grammar (line : List Char) :
    (∀ pairs, read line = .ok pairs ↔
      ∃ l : LineForm, l.WellFormed ∧ l.chars = line ∧ l.meaning = pairs) ∧
    (∀ l l' : LineForm, l.WellFormed → l'.WellFormed → l.chars = line → l'.chars = line →
      l = l') ∧
    ((∃ fault, read line = .error fault) ↔
      ¬ ∃ l : LineForm, l.WellFormed ∧ l.chars = line) := by
  have hread : ∀ l : LineForm, l.WellFormed → l.chars = line → read line = .ok l.meaning := by
    rintro l hl rfl
    exact read_chars hl
  refine ⟨fun pairs => ⟨fun h => ?_, ?_⟩, fun l l' hl hl' hline hline' => ?_, ?_, fun hnone => ?_⟩
  · rcases forms_of_readPairs h with ⟨l, hl, hline, hmeaning⟩
    exact ⟨l, hl, hline, hmeaning.symm⟩
  · rintro ⟨l, hl, hline, rfl⟩
    exact hread l hl hline
  · exact line_unique hl hl' (hline.trans hline'.symm)
  · rintro ⟨fault, hfault⟩ ⟨l, hl, hline⟩
    cases hfault.symm.trans (hread l hl hline)
  · cases hresult : read line with
    | error fault => exact ⟨fault, rfl⟩
    | ok pairs =>
        rcases forms_of_readPairs hresult with ⟨l, hl, hline, _⟩
        exact absurd ⟨l, hl, hline⟩ hnone

/-- A quoted value ends itself, so the next key stands right behind it, and in a bare
    value neither an equals sign nor a quotation mark means anything. -/
example : read "k=\"a\\\"\\n\"l=b\"=\t".toList = .ok [("k", "a\"\n"), ("l", "b\"=")] := by
  decide +kernel

end Logfmt

end LogQuery
