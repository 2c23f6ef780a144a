import LogQuery.Number.Literal
import LogQuery.Stream.Pipeline

/-!
# Arguments of the Command Line

A command line names a command and gives it options and names of files. An
option is written `--name value` or `--name=value`, the short ones also
`-n value`, `-nvalue` or `-n=value`; two hyphens alone say that no options
follow. Every option may be given once.

The arguments are read from the left. The first that is not acceptable ends
the reading, and so does the first that asks for help or for the version.

## Main definitions

* `Invocation`: What a command line asks for.
* `Invocation.ofArguments`: Reads the arguments.
-/

namespace LogQuery

/-- Where a query comes from, as far as the arguments say. -/
structure QueryArguments where
  file : Option String
  json : Option String
deriving DecidableEq

/-- The arguments of `process`. -/
structure ProcessArguments where
  query : QueryArguments
  /-- The log, or standard input. -/
  input : Option String
  /-- The output file, or standard output. -/
  output : Option String
  inputFormat : LineFormat
  outputFormat : OutputFormat
  color : ColorChoice
  failFast : Bool
  progress : Option Nat
  maxLineLength : Nat
  bufferSize : Nat
deriving DecidableEq

/-- What a command line asks for. -/
inductive Invocation where
  | help
  | version
  /-- The arguments are not acceptable. -/
  | misuse
  | check (query : QueryArguments)
  | process (arguments : ProcessArguments)
deriving DecidableEq

/-! ### Options -/

/-- What an option takes. -/
inductive OptionKind where
  | help
  | version
  /-- It takes no value. -/
  | flag
  /-- It takes a value of which the test holds. -/
  | valued (accepts : String → Bool)

/-- An option of a command. -/
structure CommandOption where
  long : String
  short : Option Char
  kind : OptionKind

/-- A command: its options, and the test for the file that it may be given. -/
structure CommandShape where
  options : List CommandOption
  /-- The test for the argument without a name, if there may be one. -/
  file : Option (String → Bool)

/-- The options given so far, by their long names. The file goes by the empty
    name. -/
abbrev Given := List (String × String)

/-- Why the reading of the arguments ends. -/
inductive Stop where
  | help
  | version
  | misuse

namespace CommandShape

/-- Adds an option, unless it has been given before or its value is not
    acceptable. -/
def add (given : Given) (name value : String) (accepts : String → Bool) : Except Stop Given :=
  if (given.lookup name).isSome || !accepts value then .error .misuse
  else .ok (given ++ [(name, value)])

/-- Adds an argument without a name. -/
def addFile (shape : CommandShape) (given : Given) (value : String) : Except Stop Given :=
  match shape.file with
  | some accepts => add given "" value accepts
  | none => .error .misuse

/-- Whether an argument has the look of an option and cannot be a value. -/
def looksLikeOption (argument : String) : Bool :=
  argument.toList.head? == some '-' && argument != "-"

/-- An option that an argument names, and the value attached to it. -/
structure Mention where
  option : CommandOption
  attached : Option String

/-- Reads an argument that starts with two hyphens. -/
def longMention? (shape : CommandShape) (cs : List Char) : Option Mention := do
  let name := String.ofList (cs.takeWhile (· != '='))
  let option ← shape.options.find? fun option => option.long == name
  match cs.dropWhile (· != '=') with
  | _ :: value => some ⟨option, some (String.ofList value)⟩
  | [] => some ⟨option, none⟩

/-- Reads an argument that starts with one hyphen. Only an option with a value
    may have something attached to it. -/
def shortMention? (shape : CommandShape) (c : Char) (cs : List Char) : Option Mention := do
  let option ← shape.options.find? fun option => option.short == some c
  match option.kind with
  | .valued _ =>
    match cs with
    | [] => some ⟨option, none⟩
    | '=' :: value => some ⟨option, some (String.ofList value)⟩
    | value => some ⟨option, some (String.ofList value)⟩
  | _ => some ⟨option, none⟩

/-- The option that an argument mentions, or nothing if it is none; inside, an
    option that the command does not have. -/
def mention? (shape : CommandShape) (argument : String) : Option (Option Mention) :=
  match argument.toList with
  | '-' :: '-' :: cs => some (shape.longMention? cs)
  | '-' :: c :: cs => some (shape.shortMention? c cs)
  | _ => none

/-- Reads arguments, the flag telling whether options may still follow. -/
def read (shape : CommandShape) (options : Bool) (given : Given) :
    List String → Except Stop Given
  | [] => .ok given
  | argument :: rest =>
    if !options then do shape.read false (← shape.addFile given argument) rest
    else if argument = "--" then shape.read false given rest
    else
      match shape.mention? argument with
      | none => do shape.read true (← shape.addFile given argument) rest
      | some none => .error .misuse
      | some (some mention) =>
        let name := mention.option.long
        match mention.option.kind, mention.attached with
        | .help, none => .error .help
        | .version, none => .error .version
        | .flag, none => do shape.read true (← add given name "" fun _ => true) rest
        | .valued accepts, some value => do
          shape.read true (← add given name value accepts) rest
        | .valued accepts, none =>
          match rest with
          | [] => .error .misuse
          | value :: rest =>
            if looksLikeOption value then .error .misuse
            else do shape.read true (← add given name value accepts) rest
        | _, some _ => .error .misuse

end CommandShape

/-! ### Values -/

/-- Reads a natural number of 64 bits. -/
def readSize? (text : String) : Option Nat :=
  let digits := match text.toList with
    | '+' :: rest => rest
    | rest => rest
  if digits.isEmpty || !digits.all Char.isDigit then none
  else
    let n := RealText.digitsValue digits
    if n < 0x10000000000000000 then some n else none

def LineFormat.ofName? (name : String) : Option LineFormat :=
  [LineFormat.line, .jsonl, .logfmt].find? fun format => format.name == name

def OutputFormat.ofName? (name : String) : Option OutputFormat :=
  [("jsonl", OutputFormat.jsonl), ("line", .line)].lookup name

def ColorChoice.ofName? (name : String) : Option ColorChoice :=
  [("auto", ColorChoice.auto), ("always", .always), ("never", .never)].lookup name

/-- Names of files are not empty. -/
def isFileName (value : String) : Bool := value != ""

/-! ### Commands -/

namespace CommandShape

def helpOption : CommandOption := ⟨"help", some 'h', .help⟩

def debugOption : CommandOption := ⟨"debug", none, .flag⟩

/-- The options that say where a query comes from. -/
def queryOptions : List CommandOption :=
  [⟨"query", some 'q', .valued isFileName⟩, ⟨"query-json", none, .valued fun _ => true⟩]

/-- What may stand before the command. -/
def top : CommandShape := ⟨[helpOption, ⟨"version", some 'V', .version⟩, debugOption], none⟩

def check : CommandShape := ⟨queryOptions ++ [helpOption, debugOption], none⟩

def process : CommandShape where
  options := queryOptions ++ [
    ⟨"output", some 'o', .valued isFileName⟩,
    ⟨"input-format", none, .valued fun name => (LineFormat.ofName? name).isSome⟩,
    ⟨"output-format", none, .valued fun name => (OutputFormat.ofName? name).isSome⟩,
    ⟨"color", none, .valued fun name => (ColorChoice.ofName? name).isSome⟩,
    ⟨"fail-fast", none, .flag⟩,
    ⟨"progress", none, .valued fun text => (readSize? text).isSome⟩,
    ⟨"max-line-length", none, .valued fun text => (readSize? text).isSome⟩,
    ⟨"buffer-size", none, .valued fun text => (readSize? text).isSome⟩,
    helpOption, debugOption]
  file := some isFileName

end CommandShape

namespace Invocation

def ofStop : Stop → Invocation
  | .help => help
  | .version => version
  | .misuse => misuse

def queryArguments (given : Given) : QueryArguments :=
  ⟨given.lookup "query", given.lookup "query-json"⟩

/-- The arguments of `process`; what is not given has its default. -/
def processArguments (given : Given) : ProcessArguments :=
  let config : StreamConfig := {}
  { query := queryArguments given
    input := given.lookup ""
    output := given.lookup "output"
    inputFormat := ((given.lookup "input-format").bind LineFormat.ofName?).getD config.inputFormat
    outputFormat :=
      ((given.lookup "output-format").bind OutputFormat.ofName?).getD config.outputFormat
    color := ((given.lookup "color").bind ColorChoice.ofName?).getD .auto
    failFast := (given.lookup "fail-fast").isSome
    progress := (given.lookup "progress").bind readSize?
    maxLineLength :=
      ((given.lookup "max-line-length").bind readSize?).getD config.maxLineLength
    bufferSize := ((given.lookup "buffer-size").bind readSize?).getD config.bufferSize }

/-- Help may be asked for about any command, and about help. -/
def ofHelp : List String → Invocation
  | [] | ["check"] | ["process"] | ["help"] => help
  | _ => misuse

/-- Reads the arguments of a command. -/
def ofCommand (name : String) (arguments : List String) : Invocation :=
  if name = "check" then
    match CommandShape.check.read true [] arguments with
    | .ok given => check (queryArguments given)
    | .error stop => ofStop stop
  else if name = "process" then
    match CommandShape.process.read true [] arguments with
    | .ok given => process (processArguments given)
    | .error stop => ofStop stop
  else if name = "help" then ofHelp arguments
  else misuse

/-- Reads the arguments: options that stand before the command, the command
    and its own arguments. -/
def ofArguments (arguments : List String) : Invocation :=
  let before := arguments.takeWhile CommandShape.looksLikeOption
  match CommandShape.top.read true [] before with
  | .error stop => ofStop stop
  | .ok _ =>
    if before.contains "--" then misuse
    else
      match arguments.drop before.length with
      | name :: rest => ofCommand name rest
      | [] => misuse

end Invocation

end LogQuery
