import LogQuery.LineFormat
import LogQuery.Proofs.Bindings
import LogQuery.Proofs.Text.Trim

/-!
# Reading Back Lines of Pairs

The reader of pairs undoes the writer. A value that could be taken for
something else is quoted, and in quotes the reader turns every escape back
(`readQuoted_flatMap`); a bare value ends where the blank before the next pair
stands. So a line is read back pair by pair, whatever characters the values
have.

One thing comes between writer and reader. A line is trimmed before its pairs
are read, by all of `White_Space`, while the writer quotes for only some of it:
a no-break space or a form feed is written bare. Inside a line nothing comes of
that, but the value at its end loses such characters. `trimLast` says what is
left, and `Firm` says of a value that nothing is lost.

Values are spelled in two ways and the trimmed one in a third, so the relation
`Spells` between pairs and the text of a line leaves the spelling of each value
open. Reading is then one induction, and trimming is another that takes a
spelled line to a spelled line.

## Main definitions

* `Logfmt.IsKey`, `Logfmt.IsName`: Keys that pairs and whole lines can have.
* `Logfmt.Written`: A text that is read as a value.
* `Logfmt.Spells`: A text in which the reader finds some pairs.
* `Logfmt.trimLast`: Pairs as the trimming of their line leaves them.
* `Logfmt.Firm`: Values that trimming leaves alone.

## Theorems

* `readPairs_spells`: Spelled pairs are read.
* `spells_trimEnd`: A trimmed line spells the pairs with the last one trimmed.
* `logfmt_output_reads_back`: What is read from the line of a record.
* `logfmt_output_loses_blank`: A value that a line does not keep.
-/

namespace LogQuery

namespace Logfmt

/-! ### Values -/

/-- Nothing here goes on with a pair: the text ends or a blank stands first. -/
def EndsPair (rest : List Char) : Prop := ∀ c ∈ rest.head?, isSeparator c = true

/-- A text that is read as a value, in front of whatever ends a pair. -/
def Written (value cs : List Char) : Prop :=
  ∀ rest, EndsPair rest → readValue (cs ++ rest) = some (value, rest)

/-- Nothing in a value asks for quotes. -/
def Bare (value : List Char) : Prop := ∀ c ∈ value, needsQuotes c = false

/-- One step takes the whole of what stands for a character in quotes. -/
theorem readQuoted_escape (before : List Char) (c : Char) (rest : List Char) :
    readQuoted before (escape c ++ rest) = readQuoted (c :: before) rest := by
  unfold escape
  split
  · next hc => subst hc; rfl
  split
  · next hc => subst hc; rfl
  split
  · next hc => subst hc; rfl
  split
  · next hc => subst hc; rfl
  split
  · next hc => subst hc; rfl
  · next hquote hslash _ _ _ =>
    rw [List.singleton_append, readQuoted]
    · exact hquote
    · exact fun h => absurd h hslash
    · exact fun _ _ h => absurd h hslash

theorem readQuoted_flatMap (value rest before : List Char) :
    readQuoted before (value.flatMap escape ++ '"' :: rest) =
      some (before.reverse ++ value, rest) := by
  induction value generalizing before with
  | nil => rw [List.append_nil]; rfl
  | cons c cs ih =>
      rw [List.flatMap_cons, List.append_assoc, readQuoted_escape, ih, List.reverse_cons,
        List.append_assoc, List.singleton_append]

theorem written_quoted (value : List Char) :
    Written value ('"' :: (value.flatMap escape ++ ['"'])) := by
  intro rest _
  rw [List.cons_append, List.append_assoc, List.singleton_append]
  exact readQuoted_flatMap value rest []

/-- A value is bare up to the blank that ends its pair. -/
theorem written_bare {value : List Char} (hbare : Bare value) : Written value value := by
  intro rest hrest
  have hvalue : ∀ c ∈ value, (!isSeparator c) = true := by
    intro c hc
    have hquotes := hbare c hc
    simp only [needsQuotes, Bool.or_eq_false_iff] at hquotes
    rw [isSeparator, hquotes.1.1.1.1.1.1, hquotes.1.1.1.1.1.2]
    rfl
  have hstop : rest.takeWhile (fun c => !isSeparator c) = [] ∧
      rest.dropWhile (fun c => !isSeparator c) = rest := by
    cases rest with
    | nil => exact ⟨rfl, rfl⟩
    | cons c rest =>
        have hc : ¬ (!isSeparator c) = true := by
          rw [hrest c rfl]
          exact Bool.false_ne_true
        exact ⟨List.takeWhile_cons_of_neg hc, List.dropWhile_cons_of_neg hc⟩
  have hnoquote : ∀ more, value ++ rest ≠ '"' :: more := by
    cases value with
    | nil =>
        rintro more rfl
        exact absurd (hrest '"' rfl) (by decide)
    | cons c value =>
        intro more h
        cases h
        exact absurd (hbare '"' List.mem_cons_self) (by decide)
  unfold readValue
  split
  · next heq => exact absurd heq (hnoquote _)
  · rw [List.takeWhile_append_of_pos hvalue, List.dropWhile_append_of_pos hvalue, hstop.1, hstop.2,
      List.append_nil]

/-- Every value is read back, in whichever way it is written. -/
theorem written_valueChars (value : List Char) : Written value (valueChars value) := by
  unfold valueChars
  split
  · exact written_quoted value
  · next hbare =>
    rw [Bool.or_eq_true, not_or, List.any_eq_true, not_exists] at hbare
    exact written_bare fun c hc => Bool.eq_false_iff.mpr fun hquotes => hbare.2 c ⟨hc, hquotes⟩

/-! ### Pairs -/

/-- A key that a reader finds again: not empty, without blanks between pairs and
    without an equals sign. -/
def IsKey (key : String) : Prop := key ≠ "" ∧ ∀ c ∈ key.toList, isKeyChar c = true

theorem readKey_append {key : String} (hkey : IsKey key) (rest : List Char) :
    readKey (key.toList ++ '=' :: rest) = .ok (key, rest) := by
  have hequals : ¬ isKeyChar '=' = true := by decide
  have htake : (key.toList ++ '=' :: rest).takeWhile isKeyChar = key.toList := by
    rw [List.takeWhile_append_of_pos hkey.2, List.takeWhile_cons_of_neg hequals, List.append_nil]
  have hdrop : (key.toList ++ '=' :: rest).dropWhile isKeyChar = '=' :: rest := by
    rw [List.dropWhile_append_of_pos hkey.2, List.dropWhile_cons_of_neg hequals]
  simp only [readKey, htake, hdrop, String.ofList_toList, if_neg hkey.1]

theorem readPair_append {key value : String} {cs rest : List Char} (hkey : IsKey key)
    (hvalue : Written value.toList cs) (hrest : EndsPair rest) :
    readPair (key.toList ++ '=' :: (cs ++ rest)) = .ok ((key, value), rest) := by
  rw [readPair, readKey_append hkey]
  simp only [hvalue rest hrest, String.ofList_toList]

/-- The text of a line in which a reader finds the pairs. How their values are
    spelled is left open. -/
inductive Spells : List (String × String) → List Char → Prop where
  | last {key value : String} {cs : List Char} (hkey : IsKey key)
      (hvalue : Written value.toList cs) :
      Spells [(key, value)] (key.toList ++ '=' :: cs)
  | cons {key value : String} {cs text : List Char} {pairs : List (String × String)}
      (hkey : IsKey key) (hvalue : Written value.toList cs) (hrest : Spells pairs text) :
      Spells ((key, value) :: pairs) (key.toList ++ '=' :: (cs ++ ' ' :: text))

theorem Spells.ne_nil {pairs : List (String × String)} {text : List Char}
    (h : Spells pairs text) : text ≠ [] := by
  cases h with
  | last => exact List.append_ne_nil_of_right_ne_nil _ (List.cons_ne_nil _ _)
  | cons => exact List.append_ne_nil_of_right_ne_nil _ (List.cons_ne_nil _ _)

/-- One pair is read where its key starts. -/
theorem readPairs_key {key : String} {cs rest : List Char} {p : String × String}
    (hkey : IsKey key) (h : readPair (key.toList ++ cs) = .ok (p, rest))
    (before : List (String × String)) :
    readPairs before (key.toList ++ cs) = readPairs (p :: before) rest := by
  obtain ⟨c, more, hc⟩ : ∃ c more, key.toList = c :: more :=
    List.exists_cons_of_ne_nil fun hnil => hkey.1 (String.toList_eq_nil_iff.mp hnil)
  have hstart : ¬ isSeparator c = true := by
    have hkeyChar := hkey.2 c (hc ▸ List.mem_cons_self)
    intro hblank
    rw [isKeyChar, hblank] at hkeyChar
    cases hkeyChar
  rw [hc, List.cons_append] at h ⊢
  rw [readPairs]
  split
  · next hnil =>
    rw [List.dropWhile_cons_of_neg hstart] at hnil
    cases hnil
  · next d tail htail =>
    rw [List.dropWhile_cons_of_neg hstart] at htail
    cases htail
    split
    · next hfault => cases h.symm.trans hfault
    · next q left hq =>
      cases h.symm.trans hq
      rfl

theorem readPairs_space (before : List (String × String)) (cs : List Char) :
    readPairs before (' ' :: cs) = readPairs before cs := by
  rw [readPairs, readPairs]
  rfl

/-- Spelled pairs are read, one after the other. -/
theorem readPairs_spells {pairs : List (String × String)} {text : List Char}
    (h : Spells pairs text) (before : List (String × String)) :
    readPairs before text = .ok (before.reverse ++ pairs) := by
  induction h generalizing before with
  | @last key value cs hkey hvalue =>
      have hend : EndsPair [] := fun c hc => absurd hc (Option.not_mem_none c)
      have hread := readPair_append hkey hvalue hend
      rw [List.append_nil] at hread
      rw [readPairs_key hkey hread, readPairs]
      simp
  | @cons key value cs text pairs hkey hvalue _ ih =>
      have hend : EndsPair (' ' :: text) := fun c hc => by cases hc; rfl
      rw [readPairs_key hkey (readPair_append hkey hvalue hend), readPairs_space, ih,
        List.reverse_cons, List.append_assoc, List.singleton_append]

/-! ### Lines -/

/-- What a line keeps of a value at its end: all of it in quotes, and otherwise
    what the trimming of the line leaves. -/
def lastText (value : List Char) : List Char :=
  if value.any needsQuotes then value else trimEnd isBlank value

/-- Pairs with the last value as the trimming of their line leaves it. -/
def trimLast : List (String × String) → List (String × String)
  | [] => []
  | [(key, value)] => [(key, String.ofList (lastText value.toList))]
  | p :: next :: rest => p :: trimLast (next :: rest)

/-- A value that keeps all its characters at the end of a line: it is quoted or
    does not end with a blank. -/
def Firm (value : String) : Prop :=
  value.toList.any needsQuotes = true ∨ ∀ c ∈ value.toList.getLast?, isBlank c = false

instance (value : String) : Decidable (Firm value) :=
  inferInstanceAs (Decidable (_ ∨ _))

theorem written_lastText (value : List Char) :
    Written (lastText value) (trimEnd isBlank (valueChars value)) := by
  rw [valueChars]
  split
  · next hquoted =>
    have hkept : trimEnd isBlank ('"' :: (value.flatMap escape ++ ['"'])) =
        '"' :: (value.flatMap escape ++ ['"']) :=
      trimEnd_concat_of_not (by decide) ('"' :: value.flatMap escape)
    rw [hkept, lastText]
    split
    · exact written_quoted value
    · -- Only the empty value is quoted without a character that asks for it.
      next hany =>
      rw [Bool.or_eq_true] at hquoted
      rw [List.isEmpty_iff.mp (hquoted.resolve_right hany)]
      exact written_quoted []
  · next hplain =>
    rw [Bool.or_eq_true, not_or] at hplain
    rw [lastText, if_neg hplain.2]
    refine written_bare fun c hc => Bool.eq_false_iff.mpr fun hquotes => hplain.2 ?_
    exact List.any_eq_true.mpr ⟨c, mem_of_mem_trimEnd hc, hquotes⟩

theorem lastText_eq_self_iff (value : String) :
    String.ofList (lastText value.toList) = value ↔ Firm value := by
  have htext : String.ofList (lastText value.toList) = value ↔
      lastText value.toList = value.toList := by
    rw [← String.toList_inj, String.toList_ofList]
  rw [htext, lastText, Firm, ← trimEnd_eq_self_iff]
  split
  · next hany => exact ⟨fun _ => .inl hany, fun _ => rfl⟩
  · next hany => exact ⟨.inr, fun h => h.resolve_left hany⟩

/-- The text of a line with the given pairs. -/
def lineText (pairs : List (String × String)) : List Char :=
  (" ".intercalate (pairs.map fun p => pair p.1 p.2)).toList

theorem lineText_singleton (key value : String) :
    lineText [(key, value)] = key.toList ++ '=' :: valueChars value.toList := by
  rw [lineText, List.map_singleton, String.intercalate_singleton, pair, String.toList_ofList]

theorem lineText_cons (key value : String) (next : String × String)
    (rest : List (String × String)) :
    lineText ((key, value) :: next :: rest) =
      key.toList ++ '=' :: (valueChars value.toList ++ ' ' :: lineText (next :: rest)) := by
  rw [lineText, List.map_cons, List.map_cons, String.intercalate_cons_cons, String.toList_append,
    String.toList_append, pair, String.toList_ofList, lineText, List.map_cons]
  simp

theorem equals_mem_lineText {pairs : List (String × String)} (hne : pairs ≠ []) :
    '=' ∈ lineText pairs := by
  cases pairs with
  | nil => exact absurd rfl hne
  | cons p rest =>
      cases rest with
      | nil =>
          rw [lineText_singleton]
          exact List.mem_append_right _ List.mem_cons_self
      | cons next rest =>
          rw [lineText_cons]
          exact List.mem_append_right _ List.mem_cons_self

/-- A trimmed line spells its pairs with the last value trimmed. -/
theorem spells_trimEnd {pairs : List (String × String)} (hne : pairs ≠ [])
    (hkeys : ∀ p ∈ pairs, IsKey p.1) :
    Spells (trimLast pairs) (trimEnd isBlank (lineText pairs)) := by
  induction pairs with
  | nil => exact absurd rfl hne
  | cons p rest ih =>
      rcases p with ⟨key, value⟩
      have hkey : IsKey key := hkeys _ List.mem_cons_self
      cases rest with
      | nil =>
          have hequals : isBlank '=' = false := by decide
          rw [lineText_singleton, trimEnd_append_of_mem List.mem_cons_self hequals,
            trimEnd_cons_of_not hequals, trimLast]
          refine .last hkey ?_
          rw [String.toList_ofList]
          exact written_lastText value.toList
      | cons next rest =>
          -- What stands at the end of the line is in the pairs behind this one.
          have htrim : trimEnd isBlank (lineText ((key, value) :: next :: rest)) =
              key.toList ++ '=' :: (valueChars value.toList ++
                ' ' :: trimEnd isBlank (lineText (next :: rest))) := by
            have hmem := equals_mem_lineText (List.cons_ne_nil next rest)
            have hequals : isBlank '=' = false := by decide
            have hfront := trimEnd_append_of_mem hmem hequals
              (key.toList ++ '=' :: (valueChars value.toList ++ [' ']))
            rw [lineText_cons]
            simpa using hfront
          rw [htrim, trimLast]
          exact .cons hkey (written_valueChars value.toList)
            (ih (List.cons_ne_nil next rest) fun p hp => hkeys p (List.mem_cons_of_mem _ hp))

theorem keys_trimLast (pairs : List (String × String)) :
    (trimLast pairs).map Prod.fst = pairs.map Prod.fst := by
  fun_induction trimLast pairs with
  | case1 => rfl
  | case2 key value => rfl
  | case3 p next rest ih => exact congrArg (p.1 :: ·) ih

theorem trimLast_eq_self_iff (pairs : List (String × String)) :
    trimLast pairs = pairs ↔ ∀ p ∈ pairs.getLast?, Firm p.2 := by
  fun_induction trimLast pairs with
  | case1 => exact ⟨fun _ p hp => absurd hp (Option.not_mem_none p), fun _ => rfl⟩
  | case2 key value =>
      rw [List.cons_eq_cons, and_iff_left rfl, Prod.mk.injEq, and_iff_right rfl,
        lastText_eq_self_iff]
      exact ⟨fun h p hp => by cases hp; exact h, fun h => h _ rfl⟩
  | case3 p next rest ih =>
      rw [List.cons_eq_cons, and_iff_right rfl, ih, List.getLast?_cons_cons]

/-- A key that a reader of lines finds again: not empty, without an equals sign
    and without any character of `White_Space`. -/
def IsName (key : String) : Prop :=
  key ≠ "" ∧ ∀ c ∈ key.toList, isBlank c = false ∧ c ≠ '='

instance (key : String) : Decidable (IsName key) :=
  @instDecidableAnd _ _ inferInstance (List.decidableBAll _ _)

theorem IsName.isKey {key : String} (h : IsName key) : IsKey key := by
  refine ⟨h.1, fun c hc => ?_⟩
  rcases h.2 c hc with ⟨hblank, hequals⟩
  have hne : ∀ d, isBlank d = true → (c == d) = false := fun d hd => by
    rw [beq_eq_false_iff_ne]
    rintro rfl
    exact Bool.false_ne_true (hblank.symm.trans hd)
  rw [isKeyChar, isSeparator, hne ' ' (by decide), hne '\t' (by decide),
    beq_eq_false_iff_ne.mpr hequals]
  rfl

/-- A line starts with the first character of its first key. -/
theorem head_lineText {pairs : List (String × String)} (hne : pairs ≠ [])
    (hnames : ∀ p ∈ pairs, IsName p.1) :
    ∃ c rest, lineText pairs = c :: rest ∧ isBlank c = false := by
  rcases pairs with _ | ⟨⟨key, value⟩, rest⟩
  · exact absurd rfl hne
  rcases hnames _ List.mem_cons_self with ⟨hkey, hchars⟩
  obtain ⟨c, more, hc⟩ : ∃ c more, key.toList = c :: more :=
    List.exists_cons_of_ne_nil fun hnil => hkey (String.toList_eq_nil_iff.mp hnil)
  have hblank := (hchars c (hc ▸ List.mem_cons_self)).1
  cases rest with
  | nil => exact ⟨c, _, by rw [lineText_singleton, hc]; rfl, hblank⟩
  | cons next rest => exact ⟨c, _, by rw [lineText_cons, hc]; rfl, hblank⟩

end Logfmt

/-! ### Records -/

/-- The names and the texts of the fields, in their order. -/
def LogRecord.fieldTexts (r : LogRecord) : List (String × String) :=
  r.fields.entries.map fun field => (field.1, field.2.text)

namespace LineFormat

/-- The line of some pairs is trimmed at its end, and what is left is read. -/
theorem read_lineText {pairs : List (String × String)} (hne : pairs ≠ [])
    (hnames : ∀ p ∈ pairs, Logfmt.IsName p.1) :
    logfmt.read (Logfmt.lineText pairs) =
      .ok (some (.ofFields ((Logfmt.trimLast pairs).map fun p => (p.1, .string p.2)))) := by
  have hspells := Logfmt.spells_trimEnd hne fun p hp => (hnames p hp).isKey
  have htrim : trim isBlank (Logfmt.lineText pairs) =
      trimEnd isBlank (Logfmt.lineText pairs) := by
    rcases Logfmt.head_lineText hne hnames with ⟨c, rest, hline, hc⟩
    rw [trim, hline, List.dropWhile_cons_of_neg (by rw [hc]; exact Bool.false_ne_true)]
  rw [read, readStructured, htrim]
  split
  · next hnil => exact absurd hnil hspells.ne_nil
  · rw [readPairs, Logfmt.read, Logfmt.readPairs_spells hspells]
    rfl

end LineFormat

theorem LogRecord.record_eq_lineText {r : LogRecord} (htext : r.text = none) :
    (Logfmt.record r).toList = Logfmt.lineText r.fieldTexts := by
  rw [Logfmt.record, htext, Logfmt.lineText, LogRecord.fieldTexts, List.map_map]
  rfl

/-- The line of a record without text is read back with the same names in the
    same order and the text of each value, but for the blanks at the end of a last
    value that is not quoted. So all of the texts come back exactly if the last
    value is firm. -/
theorem logfmt_output_reads_back {r : LogRecord} (htext : r.text = none)
    (hfields : r.fields.entries ≠ []) (hnames : ∀ key ∈ r.fields.keys, Logfmt.IsName key) :
    ∃ back : LogRecord, LineFormat.logfmt.read (Logfmt.record r).toList = .ok (some back) ∧
      back.text = none ∧ back.fields.keys = r.fields.keys ∧
      back.fields.entries =
        (Logfmt.trimLast r.fieldTexts).map (fun p => (p.1, .string p.2)) ∧
      (back.fields.entries =
          r.fields.entries.map (fun field => (field.1, .string field.2.text)) ↔
        ∀ p ∈ r.fieldTexts.getLast?, Logfmt.Firm p.2) := by
  have hkeys : r.fieldTexts.map Prod.fst = r.fields.keys := by
    rw [LogRecord.fieldTexts, List.map_map]
    rfl
  have hback : ((Logfmt.trimLast r.fieldTexts).map
      fun p => (p.1, Value.string p.2)).map Prod.fst = r.fields.keys := by
    rw [← hkeys, ← Logfmt.keys_trimLast, List.map_map]
    rfl
  -- The names are distinct, so nothing is merged when they are made a record again.
  have hentries : (LogRecord.ofFields ((Logfmt.trimLast r.fieldTexts).map
      fun p => (p.1, .string p.2))).fields.entries =
        (Logfmt.trimLast r.fieldTexts).map fun p => (p.1, .string p.2) :=
    Bindings.entries_setAll_of_nodup .empty (hback ▸ r.fields.nodup)
  refine ⟨_, ?_, rfl, ?_, hentries, ?_⟩
  · rw [LogRecord.record_eq_lineText htext]
    refine LineFormat.read_lineText (fun hnil => hfields (List.map_eq_nil_iff.mp hnil)) ?_
    exact fun p hp => hnames p.1 (hkeys ▸ List.mem_map_of_mem hp)
  · rw [Bindings.keys, hentries, hback]
  · have hexpected : r.fields.entries.map (fun field => (field.1, Value.string field.2.text)) =
        r.fieldTexts.map fun p => (p.1, .string p.2) := by
      rw [LogRecord.fieldTexts, List.map_map]
      rfl
    have hinjective : Function.Injective fun p : String × String => (p.1, Value.string p.2) := by
      rintro ⟨k, v⟩ ⟨k', v'⟩ h
      cases h
      rfl
    rw [hentries, hexpected, List.map_inj_right fun _ _ h => hinjective h,
      Logfmt.trimLast_eq_self_iff]

/-- A record with every kind of value, in which quotes, an equals sign, a backslash
    and a newline have to be quoted and a no-break space stands inside a line. -/
def pairedRecord : LogRecord :=
  .ofFields [("level", .string "warn"), ("gone", .absent), ("x\"y", .string "a\u00a0"),
    ("count", .number (.integer (-12) (by decide))), ("ok", .boolean true),
    ("msg", .string "say \"a=b\"\\\n ")]

theorem logfmt_output_reads_back_pairedRecord :
    pairedRecord.text = none ∧ pairedRecord.fields.entries ≠ [] ∧
      (∀ key ∈ pairedRecord.fields.keys, Logfmt.IsName key) ∧
      ∃ back : LogRecord,
        LineFormat.logfmt.read (Logfmt.record pairedRecord).toList = .ok (some back) ∧
        back.fields.entries =
          pairedRecord.fields.entries.map fun field => (field.1, .string field.2.text) := by
  have hfields : pairedRecord.fields.entries ≠ [] := by decide +kernel
  have hnames : ∀ key ∈ pairedRecord.fields.keys, Logfmt.IsName key := by decide +kernel
  have hfirm : ∀ p ∈ pairedRecord.fieldTexts.getLast?, Logfmt.Firm p.2 := by decide +kernel
  rcases logfmt_output_reads_back rfl hfields hnames with ⟨back, hread, _, _, _, hsame⟩
  exact ⟨rfl, hfields, hnames, back, hread, hsame.mpr hfirm⟩

/-- A record whose only value ends with a no-break space. -/
def looseRecord : LogRecord := .ofFields [("a", .string "x\u00a0")]

/-- A no-break space is not quoted and is trimmed with the line, so the value that
    is read is not the one that was written. -/
theorem logfmt_output_loses_blank :
    looseRecord.text = none ∧ (∀ key ∈ looseRecord.fields.keys, Logfmt.IsName key) ∧
      ∃ back : LogRecord,
        LineFormat.logfmt.read (Logfmt.record looseRecord).toList = .ok (some back) ∧
        looseRecord.get "a" = .string "x\u00a0" ∧ back.get "a" = .string "x" := by
  refine ⟨rfl, by decide +kernel, .ofFields [("a", .string "x")], ?_, by decide +kernel,
    by decide +kernel⟩
  rw [LogRecord.record_eq_lineText rfl, LineFormat.read_lineText]
  · decide +kernel
  · decide +kernel
  · decide +kernel

end LogQuery
