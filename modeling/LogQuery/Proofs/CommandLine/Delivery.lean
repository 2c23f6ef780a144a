import LogQuery.Proofs.Bindings
import LogQuery.Proofs.CommandLine.Setup
import LogQuery.Proofs.Stream.Turns

/-!
# What a Run Delivers

`process` opens a log, takes it through the query and puts what is written into
its place. The step in the middle knows nothing of places: it is given a source
and comes to an exit code, an error text and some bytes. `Delivery` is that
outcome, and the equations here take `process` apart at the two seams, so that
what is said of a log need not speak of files and the other way round.

One thing does cross a seam. The output is made before the log is read, and
making it empties a file that is there. Nothing else in the tree of files is
touched by it (`logSource_write`), but if the file is the log itself, the run
reads an empty log (`process_of_overwrites`).

## Main definitions

* `CommandLine.Delivery`: What a run comes to, wherever its bytes go.
* `CommandLine.deliver`: Takes a source through a compiled query.
* `CommandLine.Delivery.placed`: Puts the bytes into their place.
* `CommandLine.Reads`: A run opens its log and does not change it.
* `CommandLine.deliverTo`: Takes a source to the output that is asked for.
* `CommandLine.OverwritesLog`: The output is the file of the log.

## Theorems

* `find_write`, `find_write_self`: What stands under a name behind a write.
* `process_impossible`: A buffer that cannot be had ends a run.
* `process_to_stdout`, `process_to_file`: A run that is set up delivers.
* `process_of_reads`: A run that leaves its log alone delivers what is in it.
* `deliver_nothing`: An empty log delivers nothing.
* `process_of_overwrites`: A run that overwrites its log finds nothing in it.
-/

namespace LogQuery

/-! ### Files behind a write -/

namespace FileTree

variable {files : FileTree} {name other : String}

theorem get?_write_self (files : FileTree) (name : String) (bytes : Bytes) :
    (files.write name bytes).get? name = some bytes := by
  rw [get?, write, Bindings.get?_set, if_pos rfl]

theorem write_write (files : FileTree) (name : String) (bytes other : Bytes) :
    (files.write name bytes).write name other = files.write name other := by
  simp only [write, Bindings.set_set]

theorem find_eq_directory_iff :
    files.find name = .ok .directory ↔ files.isDirectory (FileName.parts name) = true := by
  unfold find
  by_cases hdirectory : files.isDirectory (FileName.parts name) = true
  · simp only [hdirectory, if_true]
  · simp only [hdirectory, Bool.false_eq_true, if_false, iff_false]
    split
    · split
      · nofun
      · nofun
    · nofun

/-- A file stands under a name that is not the name of a directory and does not look
    like one. -/
theorem find_eq_file_iff {bytes : Bytes} :
    files.find name = .ok (.file bytes) ↔
      files.isDirectory (FileName.parts name) = false ∧ files.get? name = some bytes ∧
        FileName.endsAsDirectory name = false := by
  unfold find get?
  by_cases hdirectory : files.isDirectory (FileName.parts name) = true
  · simp only [hdirectory, if_true, Bool.true_eq_false, false_and, iff_false]
    nofun
  · rw [Bool.not_eq_true] at hdirectory
    simp only [hdirectory, Bool.false_eq_true, if_false, true_and]
    cases hfile : files.files.get? (FileName.join (FileName.parts name)) with
    | none => simp
    | some found =>
        cases hends : FileName.endsAsDirectory name with
        | true => simp
        | false => simp

/-- A directory is one whatever is written. -/
theorem find_write_directory (hfind : files.find other = .ok .directory) (name : String)
    (bytes : Bytes) : (files.write name bytes).find other = .ok .directory := by
  have hdirectory : files.isDirectory (FileName.parts other) = true :=
    find_eq_directory_iff.mp hfind
  exact find_eq_directory_iff.mpr hdirectory

/-- Writing a file leaves the others alone. -/
theorem find_write {found : Bytes} (h : ¬ CommandLine.SameFile name other)
    (hfind : files.find other = .ok (.file found)) (bytes : Bytes) :
    (files.write name bytes).find other = .ok (.file found) := by
  rcases find_eq_file_iff.mp hfind with ⟨hdirectory, hfile, hends⟩
  refine find_eq_file_iff.mpr ⟨hdirectory, ?_, hends⟩
  rw [CommandLine.get?_write_of_other h, hfile]

/-- A file that is written under one of its names holds that under all of them. -/
theorem find_write_self {found : Bytes} (h : CommandLine.SameFile name other)
    (hfind : files.find other = .ok (.file found)) (bytes : Bytes) :
    (files.write name bytes).find other = .ok (.file bytes) := by
  rcases find_eq_file_iff.mp hfind with ⟨hdirectory, _, hends⟩
  refine find_eq_file_iff.mpr ⟨hdirectory, ?_, hends⟩
  rw [get?, write, Bindings.get?_set, if_pos (Eq.symm h)]

end FileTree

namespace CommandLine

variable {arguments : ProcessArguments} {around : Surrounding}

/-! ### Opening the log -/

/-- A log that can be opened is standard input, or a directory, or a file. -/
theorem logSource_cases {files : FileTree} {name : Option String} {source : Source}
    (h : logSource around files name = .ok source) :
    (name = none ∧ source = .ofBytes around.input) ∨
      (∃ log, name = some log ∧ files.find log = .ok .directory ∧ source.bytes = []) ∨
      ∃ log bytes, name = some log ∧ files.find log = .ok (.file bytes) ∧
        source = .ofBytes bytes := by
  cases name with
  | none =>
      cases h
      exact .inl ⟨rfl, rfl⟩
  | some log =>
      rw [logSource] at h
      cases hfind : files.find log with
      | error error =>
          simp only [hfind] at h
          cases h
      | ok entry =>
          cases entry with
          | directory =>
              simp only [hfind] at h
              cases h
              exact .inr (.inl ⟨log, rfl, hfind, rfl⟩)
          | file bytes =>
              simp only [hfind] at h
              cases h
              exact .inr (.inr ⟨log, bytes, rfl, hfind, rfl⟩)

theorem logSource_file {files : FileTree} {log : String} {bytes : Bytes}
    (h : files.find log = .ok (.file bytes)) :
    logSource around files (some log) = .ok (.ofBytes bytes) := by
  rw [logSource, h]

/-- A log is opened alike behind a write to another file. -/
theorem logSource_write {files : FileTree} {log : Option String} {source : Source} {name : String}
    (hlog : logSource around files log = .ok source)
    (hother : ∀ other found, log = some other → files.find other = .ok (.file found) →
      ¬ SameFile name other) (bytes : Bytes) :
    logSource around (files.write name bytes) log = .ok source := by
  rcases logSource_cases hlog with
    ⟨rfl, rfl⟩ | ⟨other, rfl, hfind, _⟩ | ⟨other, found, rfl, hfind, rfl⟩
  · rfl
  · rw [← hlog, logSource, logSource, FileTree.find_write_directory hfind, hfind]
  · exact logSource_file (FileTree.find_write (hother other found rfl hfind) hfind bytes)

/-- A log that is the file written to is opened with what is written. -/
theorem logSource_write_self {files : FileTree} {log name : String} {found : Bytes}
    (hfind : files.find log = .ok (.file found)) (h : SameFile name log) (bytes : Bytes) :
    logSource around (files.write name bytes) (some log) = .ok (.ofBytes bytes) :=
  logSource_file (FileTree.find_write_self h hfind bytes)

/-! ### Deliveries -/

/-- What a run comes to, wherever its bytes go. -/
structure Delivery where
  code : Nat
  /-- The command's own message on standard error, as in `CommandResult`. -/
  errors : String
  bytes : Bytes

/-- Takes a source through a compiled query. -/
def deliver (query : CompiledQuery) (config : StreamConfig) (source : Source) : Delivery :=
  match (StreamPipeline.start query config).runStream source .empty with
  | (.ok statistics, sink) => ⟨exitCode statistics, "", sink.written.toList⟩
  | (.error error, sink) =>
    ⟨1, "logview: " ++ streamMessage error ++ "\n", sink.written.toList⟩

/-- Puts the bytes into a file, or on standard output. -/
def Delivery.placed (d : Delivery) (output : Option String) (files : FileTree) : CommandResult :=
  match output with
  | some name => ⟨d.code, [], d.errors, files.write name d.bytes⟩
  | none => ⟨d.code, d.bytes, d.errors, files⟩

/-- A run with an open log and a place for its output delivers. -/
theorem stream_eq {files : FileTree} {source : Source} (query : CompiledQuery)
    (hlog : logSource around files (file? arguments.input) = .ok source) :
    stream query arguments around files =
      (deliver query (config arguments around) source).placed (file? arguments.output) files := by
  rw [stream, hlog]
  simp only [StreamPipeline.process_fst, deliver]
  rcases (StreamPipeline.start query (config arguments around)).runStream source .empty with
    ⟨_ | _, sink⟩
  · cases file? arguments.output with
    | none => rfl
    | some name => rfl
  · cases file? arguments.output with
    | none => rfl
    | some name => rfl

variable {queries : Query × CompiledQuery} {source : Source}

/-- A buffer that cannot be had ends a run before its output is touched. -/
theorem process_impossible (hquery : arguments.query.compile around.files = .ok queries)
    (hlog : logSource around around.files (file? arguments.input) = .ok source)
    (hsize : impossibleSize ≤ arguments.bufferSize) :
    process arguments around = .silent around.files 101 := by
  rw [process, hquery]
  simp only [hlog, if_pos hsize]

/-- A run that has its query, its log and its buffer goes on to its output. -/
theorem process_eq_openAndStream (hquery : arguments.query.compile around.files = .ok queries)
    (hlog : logSource around around.files (file? arguments.input) = .ok source)
    (hsize : arguments.bufferSize < impossibleSize) :
    process arguments around = openAndStream queries.2 arguments around := by
  rw [process, hquery]
  simp only [hlog, if_neg (Nat.not_le_of_lt hsize)]

theorem process_to_stdout (hquery : arguments.query.compile around.files = .ok queries)
    (hlog : logSource around around.files (file? arguments.input) = .ok source)
    (hsize : arguments.bufferSize < impossibleSize) (houtput : file? arguments.output = none) :
    process arguments around =
      (deliver queries.2 (config arguments around) source).placed none around.files := by
  rw [process_eq_openAndStream hquery hlog hsize, openAndStream, houtput,
    stream_eq queries.2 hlog, houtput]

/-- A run to a file makes it before it reads the log, which it then opens again. -/
theorem process_to_file {name : String} {made : FileTree} {again : Source}
    (hquery : arguments.query.compile around.files = .ok queries)
    (hlog : logSource around around.files (file? arguments.input) = .ok source)
    (hsize : arguments.bufferSize < impossibleSize)
    (houtput : file? arguments.output = some name) (hcreate : around.files.create name = .ok made)
    (hagain : logSource around made (file? arguments.input) = .ok again) :
    process arguments around =
      (deliver queries.2 (config arguments around) again).placed (some name) made := by
  rw [process_eq_openAndStream hquery hlog hsize, openAndStream, houtput]
  simp only [hcreate]
  rw [stream_eq queries.2 hagain, houtput]

/-- A run whose output cannot be made gives up. -/
theorem process_of_no_output {name : String} {error : FileError}
    (hquery : arguments.query.compile around.files = .ok queries)
    (hlog : logSource around around.files (file? arguments.input) = .ok source)
    (hsize : arguments.bufferSize < impossibleSize)
    (houtput : file? arguments.output = some name)
    (hcreate : around.files.create name = .error error) :
    process arguments around = .failure around.files
      ("Failed to create output file '" ++ name ++ "': " ++ error.message) := by
  rw [process_eq_openAndStream hquery hlog hsize, openAndStream, houtput]
  simp only [hcreate]

/-! ### Runs that leave their log alone -/

/-- A run opens its log, and making the output does not change what it reads. -/
structure Reads (arguments : ProcessArguments) (around : Surrounding) (source : Source) :
    Prop where
  log : logSource around around.files (file? arguments.input) = .ok source
  again : ∀ name made, file? arguments.output = some name → around.files.create name = .ok made →
    logSource around made (file? arguments.input) = .ok source

/-- Takes a source through a query to the output that is asked for. -/
def deliverTo (query : CompiledQuery) (arguments : ProcessArguments) (around : Surrounding)
    (source : Source) : CommandResult :=
  let delivery := deliver query (config arguments around) source
  match file? arguments.output with
  | none => delivery.placed none around.files
  | some name =>
    match around.files.create name with
    | .ok made => delivery.placed (some name) made
    | .error error =>
      .failure around.files ("Failed to create output file '" ++ name ++ "': " ++ error.message)

theorem process_of_reads (hquery : arguments.query.compile around.files = .ok queries)
    (h : Reads arguments around source) (hsize : arguments.bufferSize < impossibleSize) :
    process arguments around = deliverTo queries.2 arguments around source := by
  rw [deliverTo]
  cases houtput : file? arguments.output with
  | none => exact process_to_stdout hquery h.log hsize houtput
  | some name =>
      cases hcreate : around.files.create name with
      | ok made =>
          have hagain := h.again name made houtput hcreate
          simp only [hcreate]
          exact process_to_file hquery h.log hsize houtput hcreate hagain
      | error error =>
          simp only [hcreate]
          exact process_of_no_output hquery h.log hsize houtput hcreate

/-- The output is the very file that the log is read from. -/
def OverwritesLog (name : String) (arguments : ProcessArguments) (files : FileTree) : Prop :=
  ∃ log bytes, file? arguments.input = some log ∧ files.find log = .ok (.file bytes) ∧
    SameFile name log

/-- Making an output that is another file does not change the log. -/
theorem logSource_created {name : String} {made : FileTree}
    (hlog : logSource around around.files (file? arguments.input) = .ok source)
    (hcreate : around.files.create name = .ok made)
    (h : ¬ OverwritesLog name arguments around.files) :
    logSource around made (file? arguments.input) = .ok source := by
  rw [create_eq_ok hcreate]
  refine logSource_write hlog (fun log found hinput hfind hsame => ?_) []
  exact h ⟨log, found, hinput, hfind, hsame⟩

/-- A run that does not overwrite its log reads it as it is. -/
theorem Reads.of_other (hlog : logSource around around.files (file? arguments.input) = .ok source)
    (h : ∀ name, file? arguments.output = some name →
      ¬ OverwritesLog name arguments around.files) :
    Reads arguments around source where
  log := hlog
  again name _ houtput hcreate := logSource_created hlog hcreate (h name houtput)

/-- An empty log delivers nothing, whatever the buffer. -/
theorem deliver_nothing (query : CompiledQuery) (config : StreamConfig) :
    deliver query config (.ofBytes []) = ⟨0, "", []⟩ := by
  have hbuffered : (StreamPipeline.start query config).buffered (.ofBytes []) = .ofBytes [] := by
    simp only [StreamPipeline.buffered, Source.ofBytes, List.isEmpty_nil, Bool.not_true,
      Bool.and_false, Bool.false_eq_true, if_false]
  rw [deliver, StreamPipeline.runStream_eq, hbuffered]
  rfl

/-- A run that overwrites its log finds nothing in it. -/
theorem process_of_overwrites {name : String} {made : FileTree}
    (hquery : arguments.query.compile around.files = .ok queries)
    (hsize : arguments.bufferSize < impossibleSize)
    (houtput : file? arguments.output = some name) (hcreate : around.files.create name = .ok made)
    (h : OverwritesLog name arguments around.files) :
    process arguments around = .silent made 0 := by
  rcases h with ⟨log, found, hinput, hfind, hsame⟩
  have hmade : made = around.files.write name [] := create_eq_ok hcreate
  have hlog : logSource around around.files (file? arguments.input) = .ok (.ofBytes found) := by
    rw [hinput]
    exact logSource_file hfind
  have hagain : logSource around made (file? arguments.input) = .ok (.ofBytes []) := by
    rw [hinput, hmade]
    exact logSource_write_self hfind hsame []
  rw [process_to_file hquery hlog hsize houtput hcreate hagain, deliver_nothing, hmade]
  simp only [Delivery.placed, FileTree.write_write]
  rfl

/-- The text of the query without operations. -/
def everyRecord : String := "\x7b\"operations\":[]\x7d"

theorem compile_everyRecord (files : FileTree) :
    QueryArguments.compile ⟨none, some everyRecord⟩ files = .ok (⟨[]⟩, ⟨[]⟩) := rfl

end CommandLine

end LogQuery
