import SchemaBindings.CommandLine.Arguments
import SchemaBindings.Run

/-!
# The command line

The command reads its arguments, checks the paths among them, performs a run and says what came of it. Faults in the
arguments end it with code two, failures of the run with code one.
-/

namespace SchemaBindings.CommandLine

/-- What a command leaves behind besides the file tree. -/
structure Outcome where
  exitCode : Nat
  output : String
  /-- A failure that the run does not expect; it is not reported in the output. -/
  failure : Option RunError
  deriving Inhabited

/-- The name of the program. -/
def program : String := "main"

/-- The version of the program. -/
def version : String := "0.3.0"

/-- The name of the only command. -/
def generation : String := "generate"

/-- How a command is called: its name in full, and what goes after it. -/
structure Call where
  name : String
  parts : String
  deriving DecidableEq, Repr, Inhabited

/-- The call of the program. -/
def outerCall : Call := ⟨program, "[OPTIONS] COMMAND [ARGS]..."⟩

/-- The call of a generation. -/
def generationCall : Call := ⟨program ++ " " ++ generation, "[OPTIONS]"⟩

/-- The line that shows how to call a command. -/
def Call.usage (c : Call) : String := "Usage: " ++ c.name ++ " " ++ c.parts ++ "\n"

/-- The lines before a fault. -/
def Call.usageForFault (c : Call) : String := c.usage ++ "Try '" ++ c.name ++ " --help' for help.\n\n"

/-- The outcome of a call with a fault. -/
def faulty (c : Call) (fault : UsageFault) : Outcome :=
  { exitCode := 2
    output := (if fault.showsUsage then c.usageForFault else "") ++ "Error: " ++ fault.text ++ "\n"
    failure := none }

/-- The outcome of a call that only asks for a text. -/
def informed (text : String) : Outcome := { exitCode := 0, output := text, failure := none }

/-! ### Checking paths -/

/-- Why the arguments stop a command. -/
inductive Stop
  | usage (fault : UsageFault)
  | system (fault : FileFault)
  deriving Repr, Inhabited

/-- What stands at a path, if anything does. A path with a character that no path can hold stops the command. -/
def entryAt? (t : FileTree) (directory : Location) (path : String) : Except Stop (Option Entry) :=
  match t.look directory path with
  | .ok e => .ok (some e)
  | .error .zeroCharacter => .error (.system { cause := .zeroCharacter, path })
  | .error _ => .ok none

/-- Checks a path that an option takes: whether it must exist, and whether it can be a file or a directory. -/
def checkPath (t : FileTree) (directory : Location) (p : Parameter) (noun : String)
    (mustExist fileFits directoryFits : Bool) (path : String) : Except Stop Unit := do
  match ← entryAt? t directory path with
  | none => if mustExist then throw (.usage (.unfitPath p noun path .missing))
  | some (.file _) => if !fileFits then throw (.usage (.unfitPath p noun path .isFile))
  | some .directory => if !directoryFits then throw (.usage (.unfitPath p noun path .isDirectory))

/-- Checks what is given for a parameter. -/
def checkParameter (t : FileTree) (directory : Location) (given : List Given) (p : Parameter) : Except Stop Unit :=
  match p with
  | .schema =>
    match valuesOf given p with
    | [] => .error (.usage (.missingOption p))
    | paths => paths.forM (checkPath t directory p "Path" true true true)
  | .output =>
    match valueOf given p with
    | none => .error (.usage (.missingOption p))
    | some path => checkPath t directory p "Directory" false false true path
  | .config => (valueOf given p).forM (checkPath t directory p "File" true true false)
  | .templates => (valueOf given p).forM (checkPath t directory p "Directory" true false true)
  | _ => .ok ()

/-- Parameters in the order of their checks: those that are given, and then those that must be given. -/
def checkOrder (given : List Given) : List Parameter :=
  (given.map Given.parameter ++ [Parameter.schema, Parameter.output]).eraseDups

/-! ### Generating -/

/-- The options that arguments settle. -/
def optionsOf (given : List Given) (customTypes : Table String String) : Options where
  customTypes := customTypes
  requiredValue := valueOf given .requiredValue
  frozen := switchOf given .frozen
  printing := switchOf given .printing
  apis := switchOf given .apis
  package := valueOf given .package
  modelPackage := valueOf given .modelPackage
  apiPackage := valueOf given .apiPackage
  namePrefix := valueOf given .namePrefix
  nameSuffix := valueOf given .nameSuffix

/-- The run that arguments ask for, with an absolute output directory. -/
def request (directory : Location) (given : List Given) : Except MalformedCustomType RunRequest := do
  let customTypes ← customTypes (valuesOf given .customType)
  let output := Path.resolved ⟨"/", directory⟩ (.ofText ((valueOf given .output).getD ""))
  return { schemas := valuesOf given .schema
           output := output.text
           options := optionsOf given customTypes
           optionsFile := (valueOf given .config).filter (!·.isEmpty)
           templates := valueOf given .templates
           headers := (valuesOf given .header).getLast?.toList.filter (!·.isEmpty) }

/-- The lines about a run that are shown before it. -/
def announcement (r : RunRequest) : String :=
  "Schemas: " ++ ", ".intercalate r.schemas ++ "\nOutput: " ++ r.output ++ "\n"

/-- The lines about the result that are shown on demand. -/
def details (result : RunResult) : String :=
  "  Skipped definitions: " ++ toString result.skipped ++ "\n" ++
    String.join (result.definitionCounts.entries.map fun (path, count) =>
      "  " ++ path ++ ": " ++ toString count ++ " definitions\n")

/-- The line at the end of a run. -/
def conclusion (r : RunRequest) (result : RunResult) : String :=
  "Done! Generated " ++ toString result.files.length ++ " files in " ++ r.output ++ "\n"

/-- The text about an expected failure. The one about invalid options does not end its line, since what is wrong with
them would follow. -/
def failureText (e : RunError) : String :=
  "Error: " ++ e.message ++ match e with
    | .optionsInvalid .. => ""
    | _ => "\n"

/-- What came of a run. -/
def outcomeOf (r : RunRequest) (verbose : Bool) (result : Except RunError RunResult) : Outcome :=
  let before := if verbose then announcement r else ""
  match result with
  | .ok result =>
    informed (before ++ (if verbose then details result else "") ++ conclusion r result)
  | .error e =>
    if e.isExpected then { exitCode := 1, output := before ++ failureText e, failure := none }
    else { exitCode := 1, output := before, failure := some e }

/-- Performs a generation with the options that are given and the arguments left over. -/
def generate (t : FileTree) (directory : Location) (given : List Given) (left : List String) : Outcome × FileTree :=
  if (switchOf given .help).isSome then (informed generationCall.usage, t)
  else match (checkOrder given).forM (checkParameter t directory given) with
    | .error (.usage fault) => (faulty generationCall fault, t)
    | .error (.system fault) => ({ exitCode := 1, output := "", failure := some (.system fault) }, t)
    | .ok () =>
      if !left.isEmpty then (faulty generationCall (.leftOver left), t)
      else match request directory given with
        | .error fault => (faulty generationCall (.customType fault), t)
        | .ok r =>
          let (result, after) := r.run t directory
          (outcomeOf r (switchOf given .verbose).isSome result, after)

/-! ### Commands -/

/-- Performs the command with some name and arguments. -/
def command (t : FileTree) (directory : Location) (name : String) (arguments : List String) : Outcome × FileTree :=
  if name == generation then
    match readArguments generationOptions false arguments with
    | .error fault => (faulty generationCall fault, t)
    | .ok (given, left) => generate t directory given left
  else (faulty outerCall (.unknownCommand name), t)

/-- Performs a call of the program. -/
def run (t : FileTree) (directory : Location) (arguments : List String) : Outcome × FileTree :=
  match readArguments outerOptions true arguments with
  | .error fault => (faulty outerCall fault, t)
  | .ok (given, left) =>
    match given.head?.map Given.parameter, left with
    | some .version, _ => (informed (program ++ ", version " ++ version ++ "\n"), t)
    | some _, _ => (informed outerCall.usage, t)
    | none, [] => ({ informed outerCall.usage with exitCode := 2 }, t)
    | none, name :: arguments => command t directory name arguments

end SchemaBindings.CommandLine
