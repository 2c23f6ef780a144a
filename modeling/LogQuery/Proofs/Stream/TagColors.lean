import LogQuery.Proofs.Stream.TextFilter

/-!
# The Colors of Tags

Line output in color is line output without color, with a code in front of the text of
a record and the code that switches back behind it. Which code that is depends on the
tag of the record and on the other tags of the output, and this module says how without
the allocator that finds it out.

A tag that names a color has the code of that color. Any other tag, unless it is empty,
is new once, at the first record that has it, and gets the next color of the palette
there. So its color is counted off by the tags that were new before it
(`Color.newBefore`), and it does not change later, since nothing that comes after the
first occurrence of a tag changes what came before it (`newBefore_append`).

`ColorAllocator.Remembers` ties the counter and the map of the allocator to the tags
that it has been asked for. It holds of an allocator that has not been asked, and it is
kept by every question, whatever the tag (`code_remembers`); so it holds all along an
output, and every record is written with the code of its tag (`texts_of_remembers`).

## Main definitions

* `Color.IsOther`: A tag has to get a color of the palette.
* `Color.newTags`, `Color.newBefore`: The tags that were new, in order, and how many of
  them were so before a given one.
* `Color.codeAmong`: The code of a tag among the tags of an output.
* `ColorAllocator.Remembers`: An allocator has been asked for some tags.
* `OutputFormatter.texts`: What a formatter writes for several records, one by one.

## Theorems

* `named?_eq_none_iff`, `named?_of_name`: What it is to name a color.
* `newTags_concat`: How a tag adds to those that were new.
* `newBefore_append`, `newBefore_of_getElem?`: Where a tag stands among the new ones.
* `codes_of_six`: Six tags that were new one after the other have six codes.
* `code_remembers`: An allocator answers with the code of a tag and remembers it.
* `texts_of_remembers`: The text of every record has the code of its tag.
* `colored_output_is_plain`: The colors of an output.
-/

namespace LogQuery

namespace Color

/-! ### Names of colors -/

/-- A tag has to get a color of the palette: it is not empty and names no color. -/
def IsOther (tag : String) : Prop :=
  tag ≠ "" ∧ ∀ entry ∈ names, tag.map Char.toLower ≠ entry.1

instance : DecidablePred IsOther := fun tag =>
  inferInstanceAs (Decidable (tag ≠ "" ∧ ∀ entry ∈ names, tag.map Char.toLower ≠ entry.1))

theorem named?_eq_none_iff (tag : String) :
    named? tag = none ↔ ∀ entry ∈ names, tag.map Char.toLower ≠ entry.1 := by
  rw [named?, Option.map_eq_none_iff, List.lookup_eq_none_iff]
  simp only [bne_iff_ne, ne_eq]

/-- The name of a color has its code, in letters of either case. -/
theorem named?_of_name {entry : String × String} (hentry : entry ∈ names) {tag : String}
    (htag : tag.map Char.toLower = entry.1) : named? tag = some (escape entry.2) := by
  have hall : ∀ entry ∈ names, names.lookup entry.1 = some entry.2 := by decide
  rw [named?, htag, hall entry hentry]
  rfl

/-! ### Tags that are new -/

/-- The tags that have to get a color of the palette, in the order in which they first
    occur. -/
def newTags (tags : List String) : List String :=
  (tags.filter fun tag => decide (IsOther tag)).eraseDups

/-- How many of these there are before a tag occurs for the first time. -/
def newBefore (tags : List String) (tag : String) : Nat :=
  (newTags (tags.takeWhile fun other => decide (other ≠ tag))).length

/-- The code of a tag among the tags of an output. -/
def codeAmong (tags : List String) (tag : String) : String :=
  (named? tag).getD (paletteCode (newBefore tags tag))

theorem mem_newTags_iff {tags : List String} {tag : String} :
    tag ∈ newTags tags ↔ tag ∈ tags ∧ IsOther tag := by
  rw [newTags, List.mem_eraseDups, List.mem_filter, decide_eq_true_eq]

/-- A tag is one more that is new if it has to get a color and has not been seen. -/
theorem newTags_concat (tags : List String) (tag : String) :
    newTags (tags ++ [tag]) =
      if IsOther tag ∧ tag ∉ tags then newTags tags ++ [tag] else newTags tags := by
  unfold newTags
  rw [List.filter_append, List.filter_cons, List.filter_nil]
  by_cases hother : IsOther tag
  · rw [if_pos (decide_eq_true hother)]
    by_cases hseen : tag ∈ tags
    · have hmem : tag ∈ tags.filter fun tag => decide (IsOther tag) :=
        List.mem_filter.mpr ⟨hseen, decide_eq_true hother⟩
      rw [if_neg fun h => h.2 hseen, eraseDups_append_cons_of_mem hmem, List.append_nil]
    · have hnew : tag ∉ tags.filter fun tag => decide (IsOther tag) :=
        fun h => hseen (List.mem_filter.mp h).1
      rw [if_pos ⟨hother, hseen⟩, eraseDups_concat_of_not_mem hnew]
  · rw [if_neg (by rw [decide_eq_true_eq]; exact hother), List.append_nil,
      if_neg fun h => hother h.1]

/-- What comes after a tag has been seen does not change what came before it. -/
theorem newBefore_append {tags : List String} {tag : String} (h : tag ∈ tags)
    (more : List String) : newBefore (tags ++ more) tag = newBefore tags tag := by
  rw [newBefore, List.takeWhile_append, if_neg, newBefore]
  -- The tag itself is where the search stops, and it stands in front of the rest.
  intro hlength
  have hself := (List.takeWhile_prefix fun other => decide (other ≠ tag)).eq_of_length hlength
  exact of_decide_eq_true (List.takeWhile_eq_self_iff.mp hself tag h) rfl

/-- Before a tag that has not been seen there is all that has been. -/
theorem newBefore_concat {tags : List String} {tag : String} (h : tag ∉ tags) :
    newBefore (tags ++ [tag]) tag = (newTags tags).length := by
  have hall : ∀ other ∈ tags, decide (other ≠ tag) = true :=
    fun other hother => decide_eq_true fun heq => h (heq ▸ hother)
  rw [newBefore, List.takeWhile_append_of_pos hall, List.takeWhile_cons_of_neg (by
    rw [decide_eq_true_eq]; exact fun hne => hne rfl), List.append_nil]

/-- A tag that was new stands behind those that were new before it. -/
theorem newBefore_of_getElem? {tags : List String} {i : Nat} {tag : String}
    (h : (newTags tags)[i]? = some tag) : newBefore tags tag = i := by
  -- Tags are added at the end, where they leave the places of the others alone.
  induction tags using List.reverseRecOn generalizing i with
  | nil => cases h
  | append_singleton tags last ih =>
      have hold : ∀ {i}, (newTags tags)[i]? = some tag → newBefore (tags ++ [last]) tag = i := by
        intro i hi
        rw [newBefore_append (mem_newTags_iff.mp (List.mem_of_getElem? hi)).1, ih hi]
      rw [newTags_concat] at h
      split at h
      · next hnew =>
        rcases Nat.lt_or_ge i (newTags tags).length with hi | hi
        · rw [List.getElem?_append_left hi] at h
          exact hold h
        · rw [List.getElem?_append_right hi, List.getElem?_singleton] at h
          split at h
          · next hlast =>
            cases h
            rw [newBefore_concat hnew.2]
            omega
          · cases h
      · exact hold h

theorem codeAmong_of_isOther {tag : String} (h : IsOther tag) (tags : List String) :
    codeAmong tags tag = paletteCode (newBefore tags tag) := by
  rw [codeAmong, (named?_eq_none_iff tag).mpr h.2, Option.getD_none]

theorem paletteCode_eq (i : Nat) : some (paletteCode i) = (palette[i % 6]?).map escape := by
  have hsome : ∀ k < 6, some (escape (palette.getD k "0")) = (palette[k]?).map escape := by
    decide
  exact hsome _ (Nat.mod_lt i (by decide))

/-- The code of a tag that has been seen is settled. -/
theorem codeAmong_append {tags : List String} {tag : String} (h : tag ∈ tags)
    (more : List String) : codeAmong (tags ++ more) tag = codeAmong tags tag := by
  rw [codeAmong, newBefore_append h, codeAmong]

/-- The palette does not repeat a color before it goes around. -/
theorem paletteCode_ne {i j : Nat} (hij : i < j) (hround : j < i + 6) :
    paletteCode i ≠ paletteCode j := by
  have hpalette : ∀ a < 6, ∀ b < 6,
      escape (palette.getD a "0") = escape (palette.getD b "0") → a = b := by
    decide
  intro heq
  have hsame : i % 6 = j % 6 :=
    hpalette _ (Nat.mod_lt i (by decide)) _ (Nat.mod_lt j (by decide)) heq
  omega

/-- Six tags that were new one after the other have six codes. -/
theorem codes_of_six (tags : List String) (k : Nat) :
    ((((newTags tags).drop k).take 6).map (codeAmong tags)).Nodup := by
  rw [List.Nodup, List.pairwise_map, List.pairwise_iff_getElem]
  intro i j hi hj hij
  have hcode : ∀ (i : Nat) (hi : i < (((newTags tags).drop k).take 6).length),
      codeAmong tags (((newTags tags).drop k).take 6)[i] = paletteCode (k + i) := by
    intro i hi
    have hget : (newTags tags)[k + i]? = some (((newTags tags).drop k).take 6)[i] := by
      rw [List.getElem_take, List.getElem_drop]
      exact List.getElem?_eq_getElem _
    rw [codeAmong_of_isOther (mem_newTags_iff.mp (List.mem_of_getElem? hget)).2,
      newBefore_of_getElem? hget]
  rw [hcode i hi, hcode j hj]
  rw [List.length_take] at hj
  exact paletteCode_ne (by omega) (by omega)

end Color

/-! ### What an allocator remembers -/

namespace ColorAllocator

/-- An allocator has been asked for some tags. The counter is at the number of those that
    were new, and the map has each of them with the number of those before it. -/
structure Remembers (a : ColorAllocator) (tags : List String) : Prop where
  next : a.next = (Color.newTags tags).length
  assigned : ∀ tag, a.assigned.get? tag =
    if tag ∈ Color.newTags tags then some (Color.newBefore tags tag) else none

theorem remembers_empty : empty.Remembers [] := ⟨rfl, fun _ => rfl⟩

variable {a : ColorAllocator} {tags : List String} {tag : String}

/-- A tag that is not new leaves everything as it is. -/
theorem Remembers.of_not_new (h : a.Remembers tags)
    (hold : ¬(Color.IsOther tag ∧ tag ∉ tags)) : a.Remembers (tags ++ [tag]) := by
  have hsame : Color.newTags (tags ++ [tag]) = Color.newTags tags := by
    rw [Color.newTags_concat, if_neg hold]
  refine ⟨by rw [hsame, h.next], fun other => ?_⟩
  rw [h.assigned, hsame]
  by_cases hother : other ∈ Color.newTags tags
  · rw [if_pos hother, if_pos hother,
      Color.newBefore_append (Color.mem_newTags_iff.mp hother).1]
  · rw [if_neg hother, if_neg hother]

/-- A new tag gets the color that is next. -/
theorem Remembers.of_new (h : a.Remembers tags) (hother : Color.IsOther tag)
    (hnew : tag ∉ tags) :
    Remembers ⟨a.assigned.set tag a.next, a.next + 1⟩ (tags ++ [tag]) := by
  have hmore : Color.newTags (tags ++ [tag]) = Color.newTags tags ++ [tag] := by
    rw [Color.newTags_concat, if_pos ⟨hother, hnew⟩]
  refine ⟨by rw [hmore, h.next, List.length_append, List.length_singleton], fun other => ?_⟩
  rw [Bindings.get?_set, hmore]
  by_cases heq : other = tag
  · rw [if_pos heq, heq, if_pos (List.mem_append_right _ (List.mem_singleton_self tag)),
      Color.newBefore_concat hnew, h.next]
  · rw [if_neg heq, h.assigned]
    by_cases hmem : other ∈ Color.newTags tags
    · rw [if_pos hmem, if_pos (List.mem_append_left _ hmem),
        Color.newBefore_append (Color.mem_newTags_iff.mp hmem).1]
    · rw [if_neg hmem, if_neg]
      rw [List.mem_append, List.mem_singleton, not_or]
      exact ⟨hmem, heq⟩

/-- An allocator answers with the code that a tag has among those asked for, and then it
    has been asked for this tag too. -/
theorem code_remembers (h : a.Remembers tags) (tag : String) :
    (a.code tag).1 = (if tag = "" then none else some (Color.codeAmong (tags ++ [tag]) tag)) ∧
      (a.code tag).2.Remembers (tags ++ [tag]) := by
  unfold code
  by_cases hempty : tag = ""
  · rw [if_pos hempty, if_pos hempty]
    exact ⟨rfl, h.of_not_new fun hnew => hnew.1.1 hempty⟩
  rw [if_neg hempty, if_neg hempty]
  cases hnamed : Color.named? tag with
  | some code =>
      have hnone : ¬Color.IsOther tag := by
        intro hother
        rw [(Color.named?_eq_none_iff tag).mpr hother.2] at hnamed
        cases hnamed
      refine ⟨?_, h.of_not_new fun hnew => hnone hnew.1⟩
      rw [Color.codeAmong, hnamed, Option.getD_some]
  | none =>
      have hother : Color.IsOther tag := ⟨hempty, (Color.named?_eq_none_iff tag).mp hnamed⟩
      simp only []
      rw [Color.codeAmong_of_isOther hother, h.assigned]
      by_cases hseen : tag ∈ tags
      · rw [if_pos (Color.mem_newTags_iff.mpr ⟨hseen, hother⟩), Color.newBefore_append hseen]
        exact ⟨rfl, h.of_not_new fun hnew => hnew.2 hseen⟩
      · rw [if_neg fun hmem => hseen (Color.mem_newTags_iff.mp hmem).1,
          Color.newBefore_concat hseen, ← h.next]
        exact ⟨rfl, h.of_new hother hseen⟩

end ColorAllocator

/-! ### What a formatter writes -/

/-- The code of a record among the tags of an output, if it has a tag that is not
    empty. -/
def OutputRecord.codeAmong? (tags : List String) (o : OutputRecord) : Option String :=
  o.color.bind fun tag => if tag = "" then none else some (Color.codeAmong tags tag)

namespace OutputFormatter

/-- What a formatter writes for some records, one by one. -/
def texts (f : OutputFormatter) : List OutputRecord → List String
  | [] => []
  | o :: rest => (f.write o).1 :: (f.write o).2.texts rest

theorem writeAll_eq_texts (f : OutputFormatter) (os : List OutputRecord) :
    (f.writeAll os).1 = (f.texts os).flatMap Utf8.ofString := by
  induction os generalizing f with
  | nil => rfl
  | cons o rest ih => rw [writeAll, texts, List.flatMap_cons, ih]

theorem write_of_line {f : OutputFormatter} (hf : f.format = .line) (o : OutputRecord) :
    f.write o = (textLine (f.code o).1 o.record, (f.code o).2) := by
  unfold write
  rw [hf]

theorem texts_of_plain {f : OutputFormatter} (hf : f.format = .line)
    (hcolors : f.useColors = false) (os : List OutputRecord) :
    f.texts os = os.map fun o => textLine none o.record := by
  induction os with
  | nil => rfl
  | cons o rest ih => rw [texts, write_of_plain hf hcolors, ih, List.map_cons]; rfl

/-- The text of every record has the code of its tag among all tags that the formatter
    has seen before or sees in these records. -/
theorem texts_of_remembers {f : OutputFormatter} (hf : f.format = .line)
    (hcolors : f.useColors = true) {tags : List String} (h : f.colors.Remembers tags)
    (os : List OutputRecord) :
    f.texts os = os.map fun o =>
      textLine (o.codeAmong? (tags ++ os.filterMap OutputRecord.color)) o.record := by
  induction os generalizing f tags with
  | nil => rfl
  | cons o rest ih =>
      rw [texts, List.map_cons, List.filterMap_cons]
      cases hcolor : o.color with
      | none =>
          have hwrite : f.write o = (textLine none o.record, f) := by
            have hcode : f.code o = (none, f) := by
              unfold OutputFormatter.code
              rw [hcolor]
            rw [write_of_line hf, hcode]
          have hcode : ∀ tags, o.codeAmong? tags = none := by
            intro tags
            rw [OutputRecord.codeAmong?, hcolor, Option.bind_none]
          rw [hwrite, ih hf hcolors h, hcode]
      | some tag =>
          rcases f.colors.code_remembers h tag with ⟨hanswer, hnext⟩
          have hcodes : f.code o =
              ((f.colors.code tag).1, { f with colors := (f.colors.code tag).2 }) := by
            unfold OutputFormatter.code
            rw [hcolor, hcolors]
            rfl
          have hwrite : f.write o = (textLine (f.colors.code tag).1 o.record,
              { f with colors := (f.colors.code tag).2 }) := by
            rw [write_of_line hf, hcodes]
          -- The tags of the rest come behind this one and do not change its code.
          have hcode : o.codeAmong? (tags ++ tag :: rest.filterMap OutputRecord.color) =
              (f.colors.code tag).1 := by
            rw [hanswer, OutputRecord.codeAmong?, hcolor, Option.bind_some, List.append_cons,
              Color.codeAmong_append (List.mem_append_right _ (List.mem_singleton_self tag))]
          have hrest := ih (f := { f with colors := (f.colors.code tag).2 }) hf hcolors hnext
          simp only [hwrite, hrest, hcode, List.append_assoc, List.singleton_append]

theorem texts_start (os : List OutputRecord) :
    (start .line true).texts os =
      os.map fun o => textLine (o.codeAmong? (os.filterMap OutputRecord.color)) o.record := by
  have h := texts_of_remembers (f := start .line true) rfl rfl ColorAllocator.remembers_empty os
  rw [List.nil_append] at h
  exact h

end OutputFormatter

/-- Output in color is output without color, and a stable color in addition. A record
    without a tag, or with an empty one, is written as it is without colors. Any other
    record has the code of its tag in front of its text and the code that switches back
    behind it. The name of a color, in letters of either case, has the code of that
    color, whatever came before. Any other tag has the color of the palette that is
    counted off, around and around, by the distinct tags of this kind that were seen
    before it was first seen. So a tag has the same code throughout, and six tags that
    were new one after the other have six codes. -/
theorem colored_output_is_plain (os : List OutputRecord) :
    let colored := (OutputFormatter.start .line true).texts os
    let plain := (OutputFormatter.start .line false).texts os
    let tags := os.filterMap OutputRecord.color
    ((OutputFormatter.start .line true).writeAll os).1 = colored.flatMap Utf8.ofString ∧
    ((OutputFormatter.start .line false).writeAll os).1 = plain.flatMap Utf8.ofString ∧
    colored.length = os.length ∧
    (∀ (i : Nat) (o : OutputRecord), os[i]? = some o →
      plain[i]? = some (Logfmt.record o.record ++ "\n") ∧
      (o.color = none ∨ o.color = some "" → colored[i]? = plain[i]?) ∧
      ∀ tag, o.color = some tag → tag ≠ "" →
        colored[i]? = some (Color.codeAmong tags tag ++ Logfmt.record o.record ++ Color.reset ++
          "\n")) ∧
    (∀ entry ∈ Color.names, ∀ tag : String, tag.map Char.toLower = entry.1 →
      Color.codeAmong tags tag = Color.escape entry.2) ∧
    (∀ tag, Color.IsOther tag → some (Color.codeAmong tags tag) =
      (Color.palette[Color.newBefore tags tag % 6]?).map Color.escape) ∧
    ∀ k, ((((Color.newTags tags).drop k).take 6).map (Color.codeAmong tags)).Nodup := by
  intro colored plain tags
  have hcolored : colored = os.map fun o =>
      OutputFormatter.textLine (o.codeAmong? tags) o.record :=
    OutputFormatter.texts_start os
  have hplain : plain = os.map fun o => OutputFormatter.textLine none o.record :=
    OutputFormatter.texts_of_plain rfl rfl os
  refine ⟨OutputFormatter.writeAll_eq_texts _ os, OutputFormatter.writeAll_eq_texts _ os, ?_⟩
  clear_value colored plain tags
  subst hcolored hplain
  refine ⟨List.length_map _, ?_, ?_, ?_, Color.codes_of_six tags⟩
  · intro i o hi
    rw [List.getElem?_map, List.getElem?_map, hi, Option.map_some, Option.map_some,
      OutputRecord.codeAmong?]
    refine ⟨rfl, ?_, ?_⟩
    · rintro (hnone | hempty)
      · rw [hnone, Option.bind_none]
      · rw [hempty, Option.bind_some, if_pos rfl]
    · intro tag htag hne
      rw [htag, Option.bind_some, if_neg hne]
      rfl
  · intro entry hentry tag htag
    rw [Color.codeAmong, Color.named?_of_name hentry htag, Option.getD_some]
  · intro tag hother
    rw [Color.codeAmong_of_isOther hother]
    exact Color.paletteCode_eq _

/-- Records of two services, one of an alarm and one without a tag. -/
def serviceRecords : List OutputRecord :=
  [⟨.ofText "a", some "api", .empty⟩, ⟨.ofText "b", some "Red", .empty⟩,
    ⟨.ofText "c", none, .empty⟩, ⟨.ofText "d", some "db", .empty⟩,
    ⟨.ofText "e", some "api", .empty⟩]

/-- The alarm uses up no color of the palette, and the first service has its color
    again when it comes back. -/
theorem colored_output_is_plain_serviceRecords :
    Color.IsOther "api" ∧ Color.IsOther "db" ∧ ("red", "31") ∈ Color.names ∧
    ((OutputFormatter.start .line true).texts serviceRecords)[1]? =
      some (Color.escape "31" ++ "b" ++ Color.reset ++ "\n") ∧
    ((OutputFormatter.start .line true).texts serviceRecords)[2]? = some "c\n" ∧
    ((OutputFormatter.start .line true).texts serviceRecords)[3]? =
      some (Color.escape "33" ++ "d" ++ Color.reset ++ "\n") ∧
    ((OutputFormatter.start .line true).texts serviceRecords)[4]? =
      some (Color.escape "36" ++ "e" ++ Color.reset ++ "\n") := by
  rcases colored_output_is_plain serviceRecords with ⟨_, _, _, hrecords, hnames, hothers, _⟩
  have hapi : Color.IsOther "api" := by decide +kernel
  have hdb : Color.IsOther "db" := by decide +kernel
  have hred : ("red", "31") ∈ Color.names := by decide
  have hplace : Color.newBefore (serviceRecords.filterMap OutputRecord.color) "db" = 1 ∧
      Color.newBefore (serviceRecords.filterMap OutputRecord.color) "api" = 0 := by
    decide +kernel
  have hcodeApi := hothers "api" hapi
  have hcodeDb := hothers "db" hdb
  rw [hplace.2] at hcodeApi
  rw [hplace.1] at hcodeDb
  refine ⟨hapi, hdb, hred, ?_, ?_, ?_, ?_⟩
  · rw [(hrecords 1 _ rfl).2.2 "Red" rfl (by decide), hnames _ hred "Red" (by decide +kernel)]
    rfl
  · rw [(hrecords 2 _ rfl).2.1 (.inl rfl), (hrecords 2 _ rfl).1]
    rfl
  · rw [(hrecords 3 _ rfl).2.2 "db" rfl (by decide), Option.some.inj hcodeDb]
    rfl
  · rw [(hrecords 4 _ rfl).2.2 "api" rfl (by decide), Option.some.inj hcodeApi]
    rfl

end LogQuery
