import LogQuery.LineFormat
import LogQuery.Proofs.Bindings
import LogQuery.Proofs.Record.Newlines
import LogQuery.Proofs.Text.Trim

/-!
# Newlines in Records of Lines

A line of input has no newline, because that is where it was cut. This module
follows what becomes of that when the line is made a record. Read as plain text
the line is the record. Read as pairs its names are pieces of it, while its
values need not be, since a newline can be written there as an escape. Read as
JSON neither names nor values are pieces of the line, and both can have
newlines. Values are escaped again when they are written, so it is the names
that matter (`LineFormat.newlines_of_read`).

## Theorems

* `keys_of_readPairs`: The names of pairs are made of the characters of a line.
* `newlines_of_readPairs`: Names that are read off a line of pairs have no
  newline.
* `newlines_of_read`: The newlines of a record that is read off one line.
-/

namespace LogQuery

/-! ### Names read off a line -/

namespace Logfmt

theorem suffix_of_readQuoted {before cs value rest : List Char}
    (h : readQuoted before cs = some (value, rest)) : rest <:+ cs := by
  fun_induction readQuoted before cs with
  | case1 | case3 => cases h
  | case2 =>
      cases h
      exact List.suffix_cons _ _
  | case4 before c tail ih =>
      exact (ih h).trans ((List.suffix_cons _ _).trans (List.suffix_cons _ _))
  | case5 before c tail _ _ _ ih => exact (ih h).trans (List.suffix_cons _ _)

theorem suffix_of_readValue {cs value rest : List Char} (h : readValue cs = some (value, rest)) :
    rest <:+ cs := by
  unfold readValue at h
  split at h
  · exact (suffix_of_readQuoted h).trans (List.suffix_cons _ _)
  · cases h
    exact List.dropWhile_suffix _

/-- A key and what is left behind it are parts of the text. -/
theorem parts_of_readKey {cs rest : List Char} {key : String} (h : readKey cs = .ok (key, rest)) :
    key.toList ⊆ cs ∧ rest <:+ cs := by
  simp only [readKey] at h
  split at h
  · next tail hd =>
    split at h
    · cases h
    · cases h
      refine ⟨?_, ?_⟩
      · rw [String.toList_ofList]
        exact (List.takeWhile_prefix _).subset
      · have hsuffix := List.dropWhile_suffix isKeyChar (l := cs)
        rw [hd] at hsuffix
        exact (List.suffix_cons _ _).trans hsuffix
  · cases h
  · cases h

theorem parts_of_readPair {cs rest : List Char} {p : String × String}
    (h : readPair cs = .ok (p, rest)) : p.1.toList ⊆ cs ∧ rest <:+ cs := by
  unfold readPair at h
  split at h
  · cases h
  · next key tail hkey =>
    split at h
    · cases h
    · next value left hvalue =>
      cases h
      rcases parts_of_readKey hkey with ⟨hname, htail⟩
      exact ⟨hname, (suffix_of_readValue hvalue).trans htail⟩

/-- The names of pairs are made of the characters of the line. -/
theorem keys_of_readPairs {before pairs : List (String × String)} {cs : List Char}
    (h : readPairs before cs = .ok pairs) {p : String × String} (hp : p ∈ pairs) :
    p ∈ before ∨ p.1.toList ⊆ cs := by
  fun_induction readPairs before cs with
  | case1 before cs hblank =>
      cases h
      exact .inl (List.mem_reverse.mp hp)
  | case2 before cs c rest hblank fault hfault => cases h
  | case3 before cs c rest hblank q left hq ih =>
      rcases parts_of_readPair hq with ⟨hname, hleft⟩
      have hcs : c :: rest <:+ cs := hblank ▸ List.dropWhile_suffix _
      -- The name is that of this pair, or it was read behind it.
      rcases ih h with hmem | hsub
      · rcases List.mem_cons.mp hmem with rfl | hmem
        · exact .inr (List.Subset.trans hname hcs.subset)
        · exact .inl hmem
      · exact .inr (List.Subset.trans hsub (hleft.trans hcs).subset)

end Logfmt

/-! ### Records read off a line -/

theorem LogRecord.newlines_of_fields {r : LogRecord} (h : r.text = none) :
    newlines (Logfmt.record r) = r.newlinesInNames := by
  rw [Logfmt.record, h]
  exact Logfmt.newlines_fields r.fields

namespace LineFormat

theorem readStructured_eq_ok {readRecord : List Char → Except LineFault LogRecord}
    {text : List Char} {r : LogRecord} (h : readStructured readRecord text = .ok (some r)) :
    readRecord (trim isBlank text) = .ok r := by
  unfold readStructured at h
  split at h
  · cases h
  · cases hread : readRecord (trim isBlank text) with
    | error fault =>
        rw [hread] at h
        cases h
    | ok other =>
        rw [hread] at h
        cases h
        rfl

theorem text_of_readObject {text : List Char} {r : LogRecord} (h : readObject text = .ok r) :
    r.text = none := by
  unfold readObject at h
  split at h
  · cases h
    rfl
  · cases h
  · cases h

/-- A line of pairs gives names that have no newline if it has none itself. -/
theorem newlines_of_readPairs {text : List Char} {r : LogRecord} (htext : '\n' ∉ text)
    (h : readPairs text = .ok r) : r.text = none ∧ r.newlinesInNames = 0 := by
  unfold readPairs at h
  split at h
  · next pairs hpairs =>
    cases h
    refine ⟨rfl, ?_⟩
    rw [LogRecord.newlinesInNames, List.sum_eq_zero_iff_forall_eq_nat]
    intro n hn
    rcases List.mem_map.mp hn with ⟨name, hname, rfl⟩
    rw [LogRecord.ofFields, Bindings.keys_ofList, List.mem_eraseDups, List.map_map] at hname
    rcases List.mem_map.mp hname with ⟨p, hp, rfl⟩
    rcases Logfmt.keys_of_readPairs hpairs hp with hp | hsub
    · exact absurd hp List.not_mem_nil
    · exact List.count_eq_zero.mpr fun hmem => htext (hsub hmem)
  · cases h

/-- The newlines of a record that is read off one line are those of its names,
    and only a line of JSON gives names with newlines. -/
theorem newlines_of_read {format : LineFormat} {text : List Char} {r : LogRecord}
    (htext : '\n' ∉ text) (h : format.read text = .ok (some r)) :
    newlines (Logfmt.record r) = r.newlinesInNames ∧
      (format ≠ .jsonl → r.newlinesInNames = 0) := by
  cases format with
  | line =>
      cases h
      refine ⟨?_, fun _ => rfl⟩
      have hkept : '\n' ∉ trimEnd (· == '\r') text := fun hmem => htext (mem_of_mem_trimEnd hmem)
      have hcount : newlines (String.ofList (trimEnd (· == '\r') text)) = 0 := by
        rw [newlines_ofList]
        exact List.count_eq_zero.mpr hkept
      exact hcount
  | jsonl =>
      -- Escapes can put a newline into a name, so nothing is claimed of the names.
      have hread := readStructured_eq_ok h
      exact ⟨LogRecord.newlines_of_fields (text_of_readObject hread), fun hne => absurd rfl hne⟩
  | logfmt =>
      have hread := readStructured_eq_ok h
      rcases newlines_of_readPairs (fun hmem => htext (mem_of_mem_trim hmem)) hread with
        ⟨hnone, hnames⟩
      exact ⟨LogRecord.newlines_of_fields hnone, fun _ => hnames⟩

end LineFormat

end LogQuery
