import LogQuery.CommandLine.Arguments
import LogQuery.CommandLine.FileTree
import LogQuery.Query.Reader
import LogQuery.Query.Writer
import LogQuery.Json.Printer

/-!
# Commands

What a command line does: `check` reads and compiles a query and prints it in
its full form, `process` runs a query over a log. Both start with the query,
and only when it has been accepted are the log and the output touched, in this
order, so an invocation that fails before it streams leaves all files alone.

The exit code of `process` tells how it went: 1 if something could not be
read, 2 if the query dropped every record, else 0.

Of what a command says on standard error only its own message is here, the line that
begins with the name of the program. The texts about misuse and help are those of the
library that reads the arguments, and the events of the log and what the runtime says
when it gives up are not part of the program's answer, so none of them is modelled.

## Main definitions

* `QueryArguments.load`: The query that the arguments ask for.
* `CommandLine.check`, `CommandLine.process`: The commands.
* `CommandLine.run`: What a command line does.
-/

namespace LogQuery

/-- What a command finds: its standard input, and files. Its standard output is
    no terminal unless the flag says so. -/
structure Surrounding where
  input : Bytes
  files : FileTree
  terminal : Bool := false
deriving Inhabited

/-- What a command leaves behind. -/
structure CommandResult where
  code : Nat
  output : Bytes
  /-- The command's own message on standard error, or nothing. Events of the log and
      the texts of misuse, help and an aborted run go there as well and are left out. -/
  errors : String
  files : FileTree
deriving Inhabited

namespace CommandResult

/-- A command that gives up with a message. -/
def failure (files : FileTree) (message : String) : CommandResult :=
  ⟨1, [], "logview: " ++ message ++ "\n", files⟩

/-- A command that only prints. -/
def printed (files : FileTree) (code : Nat) (text : String) : CommandResult :=
  ⟨code, Utf8.ofString text, "", files⟩

/-- A command that ends without a message of its own. What the library for arguments
    says about misuse and help, and the runtime about an aborted run, is not
    modelled. -/
def silent (files : FileTree) (code : Nat) : CommandResult := ⟨code, [], "", files⟩

end CommandResult

/-! ### Loading queries -/

/-- Why a query cannot be loaded. -/
inductive LoadError where
  /-- It is not said, or said twice, where it comes from. -/
  | arguments (message : String)
  | file (name : String) (error : FileError)
  | query (error : QueryError)
deriving DecidableEq

def LoadError.message : LoadError → String
  | arguments message => message
  | file name error => "Failed to read query file '" ++ name ++ "': " ++ error.message
  | query error => error.message

/-- Whether a file is written in YAML, by its name. -/
def isYamlName (name : String) : Bool :=
  FileName.extension? name == some "yaml" || FileName.extension? name == some "yml"

namespace QueryArguments

/-- Reads the query of a file. -/
def readFile (files : FileTree) (name : String) : Except LoadError Query :=
  match files.readText name with
  | .error error => .error (.file name error)
  | .ok text =>
    (if isYamlName name then Query.ofYamlText text else Query.ofJsonText text).mapError .query

/-- The query that the arguments ask for. -/
def load (arguments : QueryArguments) (files : FileTree) : Except LoadError Query :=
  match arguments.file, arguments.json with
  | some _, some _ => .error (.arguments "Cannot use both --query and --query-json")
  | none, none => .error (.arguments "Must provide either --query or --query-json")
  | none, some json => (Query.ofJsonText json).mapError .query
  | some name, none => readFile files name

/-- The query that the arguments ask for, and its compiled form. -/
def compile (arguments : QueryArguments) (files : FileTree) :
    Except LoadError (Query × CompiledQuery) := do
  let query ← arguments.load files
  let compiled ← query.compile.mapError .query
  .ok (query, compiled)

end QueryArguments

/-! ### Commands -/

namespace CommandLine

/-- The report about a query that is rejected. -/
def report (error : QueryError) : Json :=
  .object [("kind", .string error.kind), ("message", .string error.message)]

/-- Prints a query in its full form, or a report about it. -/
def check (arguments : QueryArguments) (around : Surrounding) : CommandResult :=
  match arguments.compile around.files with
  | .ok (query, _) => .printed around.files 0 (query.toJson.indented ++ "\n")
  | .error (.query error) => .printed around.files 1 ((report error).compact ++ "\n")
  | .error error => .failure around.files error.message

/-- A file name that does not stand for a standard stream. -/
def file? (name : Option String) : Option String :=
  name.filter fun name => !FileName.isStandard name

/-- Where a log is read from: standard input or something that is a file or a
    directory. A directory can be opened but not read. -/
def logSource (around : Surrounding) (files : FileTree) (name : Option String) :
    Except FileError Source :=
  match name with
  | none => .ok (.ofBytes around.input)
  | some name =>
    match files.find name with
    | .error error => .error error
    | .ok .directory => .ok ⟨[], some ⟨.other, FileError.isDirectory.message⟩⟩
    | .ok (.file bytes) => .ok (.ofBytes bytes)

/-- How the arguments configure a pipeline. -/
def config (arguments : ProcessArguments) (around : Surrounding) : StreamConfig where
  badLines := if arguments.failFast then .failFast else .skip
  bufferSize := arguments.bufferSize
  maxLineLength := arguments.maxLineLength
  progressInterval := arguments.progress.getD 0
  inputFormat := arguments.inputFormat
  outputFormat := arguments.outputFormat
  useColors :=
    arguments.color.resolve ((file? arguments.output).isNone && around.terminal)

/-- 1 if lines could not be read, 2 if no record was left over, else 0. -/
def exitCode (statistics : Statistics) : Nat :=
  if 0 < statistics.errors then 1
  else if 0 < statistics.processed ∧ statistics.output = 0 then 2
  else 0

/-- The message about a stream that failed: the error, and what is behind it. -/
def streamMessage (error : ProcessingError) : String :=
  let cause := match error with
    | .io failure => ": " ++ failure.message
    | _ => ""
  "Processing failed: " ++ error.message ++ cause

/-- Takes a log through a compiled query, to an output that is ready. The log
    is read only now, so it is empty if the output is the same file. -/
def stream (query : CompiledQuery) (arguments : ProcessArguments) (around : Surrounding)
    (files : FileTree) : CommandResult :=
  match logSource around files (file? arguments.input) with
  | .error error => .failure files error.message
  | .ok source =>
    let pipeline := StreamPipeline.start query (config arguments around)
    let ((result, sink), _) := pipeline.process source .empty
    let (code, errors) := match result with
      | .ok statistics => (exitCode statistics, "")
      | .error error => (1, "logview: " ++ streamMessage error ++ "\n")
    match file? arguments.output with
    | some name => ⟨code, [], errors, files.write name sink.written.toList⟩
    | none => ⟨code, sink.written.toList, errors, files⟩

/-- The size from which on a buffer cannot be had at all. Whether a smaller one can
    be had is up to the machine. Here there is always memory for it, which no machine
    has for the largest of them. -/
def impossibleSize : Nat := 0x8000000000000000

/-- Makes the output ready and streams. -/
def openAndStream (query : CompiledQuery) (arguments : ProcessArguments)
    (around : Surrounding) : CommandResult :=
  match file? arguments.output with
  | none => stream query arguments around around.files
  | some name =>
    match around.files.create name with
    | .ok files => stream query arguments around files
    | .error error =>
      .failure around.files ("Failed to create output file '" ++ name ++ "': " ++ error.message)

/-- Runs a query over a log. -/
def process (arguments : ProcessArguments) (around : Surrounding) : CommandResult :=
  match arguments.query.compile around.files with
  | .error error => .failure around.files error.message
  | .ok (_, query) =>
    match logSource around around.files (file? arguments.input) with
    | .error error =>
      .failure around.files ("Failed to open input file '" ++ arguments.input.getD "" ++ "': " ++
        error.message)
    | .ok _ =>
      if impossibleSize ≤ arguments.bufferSize then .silent around.files 101
      else openAndStream query arguments around

/-- The answer to a question for the version. -/
def version : String := "logview 0.1.0\n"

/-- What an invocation does. The texts of help and of misuse are not worded here. -/
def execute (invocation : Invocation) (around : Surrounding) : CommandResult :=
  match invocation with
  | .help => .silent around.files 0
  | .version => .printed around.files 0 version
  | .misuse => .silent around.files 2
  | .check arguments => check arguments around
  | .process arguments => process arguments around

/-- What a command line does. -/
def run (arguments : List String) (around : Surrounding) : CommandResult :=
  execute (Invocation.ofArguments arguments) around

end CommandLine

end LogQuery
