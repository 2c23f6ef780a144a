import LogQuery.CommandLine.Command

/-!
# The Program

Runs a command line on the real standard streams and files. Everything is
decided by `CommandLine.run`; this module only gathers what a command may look
at and puts into place what it leaves behind.

## Main definitions

* `main`: The program.
-/

namespace LogQuery

namespace Program

/-- The names of the files that an invocation speaks of. -/
def fileNames : Invocation → List String
  | .check query => query.file.toList
  | .process arguments =>
    arguments.query.file.toList ++ arguments.input.toList ++ arguments.output.toList
  | _ => []

/-- Whether standard input is the log. -/
def readsInput : Invocation → Bool
  | .process arguments => (CommandLine.file? arguments.input).isNone
  | _ => false

/-- What an open file holds. What can be opened but not read is taken for a
    directory. -/
def readEntry (handle : IO.FS.Handle) : IO FileEntry := do
  try
    let bytes ← handle.readBinToEnd
    pure (.file bytes.toList)
  catch _ => pure .directory

/-- What stands under a name, if anything does. -/
def entry? (name : String) : IO (Option FileEntry) := do
  try
    let handle ← IO.FS.Handle.mk name .read
    some <$> readEntry handle
  catch _ => pure none

/-- Adds what stands under a name. -/
def addEntry (tree : FileTree) (name : String) : IO FileTree := do
  match ← entry? name with
  | some (.file bytes) => pure (tree.write name bytes)
  | some .directory =>
    pure { tree with directories := FileName.parts name :: tree.directories }
  | none => pure tree

/-- The names of the directories above a file. -/
def parentNames (name : String) : List String :=
  let parents := FileTree.parents (FileName.parts name)
  (parents.filter fun parent => parent != [FileName.root]).map FileName.join

end Program

end LogQuery

open LogQuery in
/-- The program. -/
def main (arguments : List String) : IO UInt32 := do
  let invocation := Invocation.ofArguments arguments
  let names := Program.fileNames invocation
  let before ← (names.flatMap Program.parentNames ++ names).foldlM Program.addEntry ⟨.empty, []⟩
  let stdin ← IO.getStdin
  let input ← if Program.readsInput invocation then stdin.readBinToEnd else pure .empty
  let stdout ← IO.getStdout
  let result := CommandLine.execute invocation
    { input := input.toList, files := before, terminal := ← stdout.isTty }
  for name in names do
    match result.files.get? name with
    | some bytes =>
      if before.get? name != some bytes then
        IO.FS.writeBinFile name ⟨bytes.toArray⟩
    | none => pure ()
  stdout.write ⟨result.output.toArray⟩
  stdout.flush
  (← IO.getStderr).putStr result.errors
  pure result.code.toUInt32
