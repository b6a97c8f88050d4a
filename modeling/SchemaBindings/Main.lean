import SchemaBindings.CommandLine
import SchemaBindings.FileTree.Listing
import SchemaBindings.Json.Reader

/-!
# The program

The program performs the command on a file tree that standard input lists, as one line of JSON. It prints what the
command says, and then the files that it leaves, each on a line with its path and its text.
-/

open SchemaBindings

/-- The working directory of the program. -/
def workingDirectory : Location := ["work"]

/-- A file on a line. -/
def fileLine (names : List String) (content : ByteArray) : String :=
  "/".intercalate names ++ ": " ++ Text.quoted ((decodeText? content).getD "")

/-- Performs the command. -/
def main (arguments : List String) : IO UInt32 := do
  let line ← (← IO.getStdin).getLine
  let tree := FileTree.ofListing workingDirectory ((Json.ofText? line).getD .null)
  let (outcome, after) := CommandLine.run tree workingDirectory arguments
  IO.print outcome.output
  if let some failure := outcome.failure then IO.eprintln failure.message
  for (names, content) in after.filesBelow workingDirectory do
    IO.println (fileLine names content)
  return outcome.exitCode.toUInt32
