import LogQuery.Proofs.CommandLine.Delivery

/-!
# Redirection

Where a run takes its bytes from and where it puts them is no part of what it
does with them. With an output file, the bytes that would have been printed are
in the file, and the code and the messages are the same
(`CommandResult.Redirects`). A log can be named or be given on standard input,
where a hyphen stands for it or nothing at all, and the run is the same.

All of that rests on the run reading its log as it was. A run whose output is the
file of its log empties it before it reads a line, ends well and leaves an empty
file (`log_lost_in_place`). This is the one exception. A run that cannot open its
log, or cannot have its buffer, does not come as far as its output, so it leaves
the file alone instead of emptying it (`bytes_go_anywhere`).

A name stands for a file if a file can be made under it, or found, unless it is
the hyphen; the other names of standard streams look like those of directories
(`isStandard_of_file`).

## Main definitions

* `CommandResult.Redirects`: A run leaves in a file what another one prints.

## Theorems

* `isStandard_of_file`: The names of files are not those of standard streams.
* `placed_redirects`: A delivery to a file redirects the delivery to the output.
* `process_redirects`: A run that leaves its log alone can be redirected.
* `process_from_input`: A log may be given on standard input.
* `bytes_go_anywhere`: What redirecting the output and the log of a run does.
* `log_lost_in_place`: A run to the file of its own log.
-/

namespace LogQuery

/-! ### Names of files -/

namespace FileName

theorem eq_of_pieces {name piece : String} (h : pieces name = [piece]) : name = piece := by
  rcases List.map_eq_singleton_iff.mp h with ⟨cs, hcut, rfl⟩
  have hjoin : ['/'].intercalate [cs] = name.toList := by
    rw [← hcut]
    exact List.intercalate_splitOn '/'
  rw [List.intercalate_singleton] at hjoin
  rw [hjoin, String.ofList_toList]

/-- Besides the hyphen, only names that look like those of directories stand for a
    standard stream. -/
theorem isStandard_of_file {name : String} (hname : name ≠ "-")
    (hends : endsAsDirectory name = false) : isStandard name = false := by
  unfold isStandard
  cases hpieces : pieces name with
  | nil => rfl
  | cons first rest =>
      rcases List.eq_nil_or_concat rest with rfl | ⟨front, last, rfl⟩
      · have hfirst : first ≠ "-" := by
          rintro rfl
          exact hname (eq_of_pieces hpieces)
        simp only [beq_eq_false_iff_ne.mpr hfirst, Bool.false_and]
      · -- The last piece is not empty and no point, so there is more than the hyphen.
        rw [endsAsDirectory, hpieces, List.concat_eq_append, ← List.cons_append,
          List.getLast?_concat] at hends
        simp only [Bool.or_eq_false_iff] at hends
        simp only [List.concat_eq_append, List.all_append, List.all_cons, List.all_nil,
          hends.1.1, hends.1.2, Bool.or_self, Bool.and_false, Bool.false_and]

end FileName

namespace FileTree

variable {files made : FileTree} {name : String}

theorem endsAsDirectory_of_create (h : files.create name = .ok made) :
    FileName.endsAsDirectory name = false := by
  simp only [create] at h
  split at h
  · cases h
  split at h
  · cases h
  split at h
  · cases h
  split at h
  · cases h
  split at h
  · cases h
  · next hends =>
    rw [Bool.not_eq_true] at hends
    exact hends

end FileTree

/-- A run leaves in a file what another run prints, and is like it in everything
    else. -/
structure CommandResult.Redirects (name : String) (r plain : CommandResult) : Prop where
  code : r.code = plain.code
  errors : r.errors = plain.errors
  output : r.output = []
  file : r.files.get? name = some plain.output
  others : ∀ other, ¬ CommandLine.SameFile name other →
    r.files.get? other = plain.files.get? other

namespace CommandLine

theorem file?_of_file {name : String} (hname : name ≠ "-")
    (hends : FileName.endsAsDirectory name = false) : file? (some name) = some name := by
  have hfile := FileName.isStandard_of_file hname hends
  rw [file?, Option.filter_some, if_pos (by rw [hfile, Bool.not_false])]

/-! ### Output to a file -/

/-- A delivery to a file that has just been made redirects the delivery to standard
    output. -/
theorem placed_redirects (d : Delivery) (files : FileTree) (name : String) :
    (d.placed (some name) (files.write name [])).Redirects name (d.placed none files) where
  code := rfl
  errors := rfl
  output := rfl
  file := by
    simp only [Delivery.placed]
    exact FileTree.get?_write_self _ _ _
  others other hother := by
    simp only [Delivery.placed]
    rw [get?_write_of_other hother, get?_write_of_other hother]

section

variable {arguments : ProcessArguments} {around : Surrounding} {queries : Query × CompiledQuery}
  {source : Source} {name : String} {made : FileTree}

/-- The arguments with the output in a file. -/
def toFile (arguments : ProcessArguments) (name : String) : ProcessArguments :=
  { arguments with output := some name }

/-- The arguments with the output on standard output. -/
def toOutput (arguments : ProcessArguments) : ProcessArguments := { arguments with output := none }

/-- Without a terminal, colors do not depend on where the output goes. -/
theorem config_toFile (hterminal : around.terminal = false) :
    config (toFile arguments name) around = config (toOutput arguments) around := by
  simp only [config, toFile, toOutput, hterminal, Bool.and_false]
  rfl

/-- A run that does not overwrite its log can be redirected. -/
theorem process_redirects (hterminal : around.terminal = false)
    (hquery : arguments.query.compile around.files = .ok queries)
    (hlog : logSource around around.files (file? arguments.input) = .ok source)
    (hsize : arguments.bufferSize < impossibleSize) (hname : name ≠ "-")
    (hcreate : around.files.create name = .ok made)
    (hkeeps : ¬ OverwritesLog name arguments around.files) :
    (process (toFile arguments name) around).Redirects name
      (process (toOutput arguments) around) := by
  have houtput : file? (toFile arguments name).output = some name :=
    file?_of_file hname (FileTree.endsAsDirectory_of_create hcreate)
  have hsame : (toFile arguments name).query.compile around.files = .ok queries := hquery
  have hopened : logSource around around.files (file? (toFile arguments name).input) =
      .ok source := hlog
  have hagain : logSource around made (file? (toFile arguments name).input) = .ok source :=
    logSource_created hlog hcreate hkeeps
  -- Both runs deliver the same, because the colors do not depend on the place.
  have hplain : process (toOutput arguments) around =
      (deliver queries.2 (config (toOutput arguments) around) source).placed none around.files :=
    process_to_stdout hquery hlog hsize rfl
  have hmade : made = around.files.write name [] := create_eq_ok hcreate
  rw [process_to_file hsame hopened hsize houtput hcreate hagain, hplain, config_toFile hterminal,
    hmade]
  exact placed_redirects _ _ _

/-- A run that does not come as far as its output is the same with any output, and
    leaves the files alone. -/
theorem process_before_output (hquery : arguments.query.compile around.files = .ok queries)
    (h : (∀ source, logSource around around.files (file? arguments.input) ≠ .ok source) ∨
      impossibleSize ≤ arguments.bufferSize) :
    process (toFile arguments name) around = process (toOutput arguments) around ∧
      (process (toFile arguments name) around).files = around.files := by
  have hfile : (toFile arguments name).query.compile around.files = .ok queries := hquery
  have hplain : (toOutput arguments).query.compile around.files = .ok queries := hquery
  cases hlog : logSource around around.files (file? arguments.input) with
  | error error =>
      have hlogFile : logSource around around.files (file? (toFile arguments name).input) =
          .error error := hlog
      have hlogPlain : logSource around around.files (file? (toOutput arguments).input) =
          .error error := hlog
      rw [process_of_no_log hfile hlogFile, process_of_no_log hplain hlogPlain]
      exact ⟨rfl, rfl⟩
  | ok source =>
      have hsize : impossibleSize ≤ arguments.bufferSize := by
        rcases h with hnone | hsize
        · exact absurd hlog (hnone source)
        · exact hsize
      have hlogFile : logSource around around.files (file? (toFile arguments name).input) =
          .ok source := hlog
      have hlogPlain : logSource around around.files (file? (toOutput arguments).input) =
          .ok source := hlog
      rw [process_impossible hfile hlogFile hsize, process_impossible hplain hlogPlain hsize]
      exact ⟨rfl, rfl⟩

/-! ### The log on standard input -/

/-- The arguments with the log under another name, or on standard input. -/
def fromLog (arguments : ProcessArguments) (input : Option String) : ProcessArguments :=
  { arguments with input }

/-- Two runs that read the same log are the same, wherever it stands. -/
theorem process_fromLog {there : Surrounding} {input other : Option String}
    (hfiles : there.files = around.files) (hterminal : there.terminal = around.terminal)
    (hquery : arguments.query.compile around.files = .ok queries)
    (hreads : Reads (fromLog arguments input) around source)
    (hother : Reads (fromLog arguments other) there source) :
    process (fromLog arguments input) around = process (fromLog arguments other) there := by
  have hhere : (fromLog arguments input).query.compile around.files = .ok queries := hquery
  have hthere : (fromLog arguments other).query.compile there.files = .ok queries := by
    rw [hfiles]
    exact hquery
  by_cases hsize : arguments.bufferSize < impossibleSize
  · have hconfig : config (fromLog arguments input) around =
        config (fromLog arguments other) there := by
      simp only [config, fromLog, hterminal]
      rfl
    rw [process_of_reads hhere hreads hsize, process_of_reads hthere hother hsize, deliverTo,
      deliverTo, hconfig, hfiles]
    rfl
  · have himpossible : impossibleSize ≤ arguments.bufferSize := Nat.le_of_not_lt hsize
    rw [process_impossible hhere hreads.log himpossible,
      process_impossible hthere hother.log himpossible, hfiles]

theorem reads_input (arguments : ProcessArguments) (around : Surrounding) {input : Option String}
    (hinput : file? input = none) :
    Reads (fromLog arguments input) around (.ofBytes around.input) where
  log := by
    rw [fromLog, hinput]
    rfl
  again name made houtput hcreate := by
    rw [fromLog, hinput]
    rfl

/-- A log in a file may as well be given on standard input. -/
theorem process_from_input {log : String} {bytes : Bytes} {input : Option String}
    (hquery : arguments.query.compile around.files = .ok queries) (hlog : log ≠ "-")
    (hfind : around.files.find log = .ok (.file bytes))
    (hother : ∀ name, file? arguments.output = some name → ¬ SameFile name log)
    (hinput : file? input = none) :
    process (fromLog arguments (some log)) around =
      process (fromLog arguments input) { around with input := bytes } := by
  have hfile : file? (fromLog arguments (some log)).input = some log :=
    file?_of_file hlog (FileTree.find_eq_file_iff.mp hfind).2.2
  have hreads : Reads (fromLog arguments (some log)) around (.ofBytes bytes) := by
    refine .of_other (by rw [hfile]; exact logSource_file hfind) fun name houtput => ?_
    rintro ⟨other, found, hsome, _, hsame⟩
    cases hfile.symm.trans hsome
    exact hother name houtput hsame
  exact process_fromLog rfl rfl hquery hreads
    (reads_input arguments { around with input := bytes } hinput)

end

/-! ### Command lines -/

/-- Where the bytes of a run come from and go to does not matter. With an output file
    that can be made, the run does what it does without one, and the bytes that it
    would have printed are in the file, unless that is the file of the log: then the
    file is emptied, and the run ends well without having read a line. A run that
    cannot open its log, or cannot have its buffer, is the same with an output file as
    without one and leaves the file as it was. A hyphen in place of the log is the same
    as nothing, and a log that is given on standard input is the same as one that is
    named, if it is not the output. There is taken to be memory for every buffer below
    `impossibleSize`, and which names are those of one file is told by their spelling. -/
theorem bytes_go_anywhere (arguments : ProcessArguments) (around : Surrounding)
    {queries : Query × CompiledQuery} (hterminal : around.terminal = false)
    (hquery : arguments.query.compile around.files = .ok queries) :
    (∀ (words plain : List String) (name : String) (made : FileTree),
      Invocation.ofArguments words = .process (toFile arguments name) →
      Invocation.ofArguments plain = .process (toOutput arguments) →
      name ≠ "-" → around.files.create name = .ok made →
      (∀ source, logSource around around.files (file? arguments.input) = .ok source →
        arguments.bufferSize < impossibleSize →
        (¬ OverwritesLog name arguments around.files →
          (run words around).Redirects name (run plain around)) ∧
        (OverwritesLog name arguments around.files → run words around = .silent made 0)) ∧
      ((∀ source, logSource around around.files (file? arguments.input) ≠ .ok source) ∨
          impossibleSize ≤ arguments.bufferSize →
        run words around = run plain around ∧ (run words around).files = around.files)) ∧
    (∀ omitted hyphen : List String,
      Invocation.ofArguments omitted = .process (fromLog arguments none) →
      Invocation.ofArguments hyphen = .process (fromLog arguments (some "-")) →
      (∀ input, run hyphen { around with input } = run omitted { around with input }) ∧
      ∀ (named : List String) (log : String) (bytes : Bytes),
        Invocation.ofArguments named = .process (fromLog arguments (some log)) →
        log ≠ "-" → around.files.find log = .ok (.file bytes) →
        (∀ name, file? arguments.output = some name → ¬ SameFile name log) →
        run named around = run omitted { around with input := bytes }) := by
  have hrun : ∀ {words : List String} {asked : ProcessArguments},
      Invocation.ofArguments words = .process asked →
      ∀ there, run words there = process asked there := by
    intro words asked hwords there
    rw [run, hwords, execute]
  refine ⟨fun words plain name made hwords hplain hname hcreate => ⟨?_, ?_⟩,
    fun omitted hyphen homitted hhyphen => ⟨?_, ?_⟩⟩
  · intro source hlog hsize
    rw [hrun hwords, hrun hplain]
    refine ⟨process_redirects hterminal hquery hlog hsize hname hcreate, fun hoverwrites => ?_⟩
    have hsame : (toFile arguments name).query.compile around.files = .ok queries := hquery
    have hfile : file? (toFile arguments name).output = some name :=
      file?_of_file hname (FileTree.endsAsDirectory_of_create hcreate)
    exact process_of_overwrites hsame hsize hfile hcreate hoverwrites
  · intro h
    rw [hrun hwords, hrun hplain]
    exact process_before_output hquery h
  · intro input
    rw [hrun homitted, hrun hhyphen]
    exact process_fromLog rfl rfl hquery (reads_input arguments { around with input } rfl)
      (reads_input arguments { around with input } rfl)
  · intro named log bytes hnamed hlog hfind hother
    rw [hrun hnamed, hrun homitted]
    exact process_from_input hquery hlog hfind hother rfl

/-- A log of one line. -/
def oneLine : Surrounding := { input := [], files := .ofFiles [("log.txt", [0x61, 0x0a])] }

/-- The arguments of a run that lets the lines of its log through. -/
def copying : ProcessArguments where
  query := ⟨none, some everyRecord⟩
  input := some "log.txt"
  output := none
  inputFormat := .line
  outputFormat := .line
  color := .auto
  failFast := false
  progress := none
  maxLineLength := 1048576
  bufferSize := 65536

/-- Words for such a run, with others behind them. -/
def copyingWords (others : List String) : List String :=
  ["process", "--query-json", everyRecord, "--output-format", "line"] ++ others

/-- The line comes into another file, and it may come from standard input. -/
theorem bytes_go_anywhere_oneLine :
    (run (copyingWords ["log.txt", "-o", "out.txt"]) oneLine).Redirects "out.txt"
      (run (copyingWords ["log.txt"]) oneLine) ∧
    run (copyingWords ["log.txt"]) oneLine =
      run (copyingWords []) { oneLine with input := [0x61, 0x0a] } ∧
    run (copyingWords ["-"]) { oneLine with input := [0x61, 0x0a] } =
      run (copyingWords []) { oneLine with input := [0x61, 0x0a] } := by
  have hfile : Invocation.ofArguments (copyingWords ["log.txt", "-o", "out.txt"]) =
      .process (toFile copying "out.txt") := by
    decide +kernel
  have hnamed : Invocation.ofArguments (copyingWords ["log.txt"]) = .process copying := by
    decide +kernel
  have homitted : Invocation.ofArguments (copyingWords []) = .process (fromLog copying none) := by
    decide +kernel
  have hhyphen : Invocation.ofArguments (copyingWords ["-"]) =
      .process (fromLog copying (some "-")) := by
    decide +kernel
  have hother : ¬ OverwritesLog "out.txt" copying oneLine.files := by
    rintro ⟨log, bytes, hlog, _, hsame⟩
    cases hlog
    exact absurd hsame (by decide)
  rcases bytes_go_anywhere copying oneLine rfl (compile_everyRecord _) with ⟨houtput, hinput⟩
  rcases hinput (copyingWords []) (copyingWords ["-"]) homitted hhyphen with ⟨hsame, hlog⟩
  refine ⟨?_, ?_, hsame [0x61, 0x0a]⟩
  · exact ((houtput _ _ "out.txt" _ hfile hnamed (by decide) rfl).1 _ rfl (by decide)).1 hother
  · exact hlog _ "log.txt" [0x61, 0x0a] hnamed (by decide) rfl fun name hname => by cases hname

/-- With the log for its output, the same run ends as well as the one that prints the
    line, and the line is gone. -/
theorem log_lost_in_place :
    (run (copyingWords ["log.txt"]) oneLine).code = 0 ∧
    (run (copyingWords ["log.txt"]) oneLine).output = [0x61, 0x0a] ∧
    (run (copyingWords ["log.txt", "-o", "log.txt"]) oneLine).code = 0 ∧
    (run (copyingWords ["log.txt", "-o", "log.txt"]) oneLine).files.get? "log.txt" = some [] := by
  decide +kernel

end CommandLine

end LogQuery
