import SchemaBindings.CustomTypes
import SchemaBindings.FileTree

/-!
# Arguments of a command

Arguments that start with a hyphen spell options; other arguments are left over. An option may be a switch, or take a
value: the next argument, the rest of its own argument after an equals sign, or, after a hyphen and a letter, the rest
of its own argument. Several letters may share a hyphen.
-/

namespace SchemaBindings.CommandLine

/-- What an option is about. -/
inductive Parameter
  | schema | output | config | package | modelPackage | apiPackage | namePrefix | nameSuffix | customType
  | requiredValue | apis | frozen | printing | templates | header | verbose | version | help
  deriving DecidableEq, Repr, Inhabited

/-- What a spelling of an option does. -/
inductive Spelling
  | takes (p : Parameter)
  | switches (p : Parameter) (on : Bool)
  deriving DecidableEq, Repr, Inhabited

/-- The options of a command by their spellings. -/
abbrev Spellings := List (String × Spelling)

/-- The options before the name of a command. -/
def outerOptions : Spellings := [("--version", .switches .version true), ("--help", .switches .help true)]

/-- The options of a generation. -/
def generationOptions : Spellings :=
  [("--schema", .takes .schema), ("-s", .takes .schema), ("--output", .takes .output), ("-o", .takes .output),
    ("--config", .takes .config), ("-c", .takes .config), ("--package-name", .takes .package),
    ("--model-package-name", .takes .modelPackage), ("--api-package-name", .takes .apiPackage),
    ("--model-name-prefix", .takes .namePrefix), ("--model-name-suffix", .takes .nameSuffix),
    ("--custom-type", .takes .customType), ("--validation-annotation", .takes .requiredValue),
    ("--apis", .switches .apis true), ("--no-apis", .switches .apis false),
    ("--equals-and-hash", .switches .frozen true), ("--no-equals-and-hash", .switches .frozen false),
    ("--to-string", .switches .printing true), ("--no-to-string", .switches .printing false),
    ("--templates", .takes .templates), ("--header", .takes .header),
    ("--verbose", .switches .verbose true), ("-v", .switches .verbose true), ("--help", .switches .help true)]

/-- The spellings of a parameter, in quotes. -/
def hint (options : Spellings) (p : Parameter) : String :=
  " / ".intercalate (options.filterMap fun
    | (spelling, .takes q) => if p = q then some (Text.quoted spelling) else none
    | _ => none)

/-! ### Faults -/

/-- What is wrong with a path that an option takes. -/
inductive PathProblem
  | missing | isFile | isDirectory
  deriving DecidableEq, Repr, Inhabited

/-- Why arguments cannot be used. -/
inductive UsageFault
  | unknownCommand (name : String)
  | unknownOption (spelling : String)
  | needsValue (spelling : String)
  | takesNoValue (spelling : String)
  | missingOption (p : Parameter)
  | unfitPath (p : Parameter) (noun path : String) (problem : PathProblem)
  | leftOver (arguments : List String)
  | customType (fault : MalformedCustomType)
  deriving DecidableEq, Repr, Inhabited

/-- The end of a sentence about a path. -/
def PathProblem.text : PathProblem → String
  | missing => " does not exist."
  | isFile => " is a file."
  | isDirectory => " is a directory."

/-- The wording of a fault. -/
def UsageFault.text : UsageFault → String
  | unknownCommand name => "No such command " ++ Text.quoted name ++ "."
  | unknownOption spelling => "No such option " ++ Text.quoted spelling ++ "."
  | needsValue spelling => "Option " ++ Text.quoted spelling ++ " requires an argument."
  | takesNoValue spelling => "Option " ++ Text.quoted spelling ++ " does not take a value."
  | missingOption p => "Missing option " ++ hint generationOptions p ++ "."
  | unfitPath p noun path problem =>
    "Invalid value for " ++ hint generationOptions p ++ ": " ++ noun ++ " " ++ Text.quoted path ++ problem.text
  | leftOver arguments =>
    "Got unexpected extra argument" ++ (if arguments.length == 1 then "" else "s") ++ " (" ++
      " ".intercalate arguments ++ ")"
  | customType fault => fault.message

/-- Is the usage of the command shown before the fault? It is not where an option lacks or refuses a value. -/
def UsageFault.showsUsage : UsageFault → Bool
  | needsValue _ | takesNoValue _ => false
  | _ => true

/-! ### Reading arguments -/

/-- An option as it is given. -/
inductive Given
  | text (p : Parameter) (value : String)
  | switch (p : Parameter) (on : Bool)
  deriving DecidableEq, Repr, Inhabited

/-- What a given option is about. -/
def Given.parameter : Given → Parameter
  | text p _ => p
  | switch p _ => p

/-- Options that an argument gives, and whether the next argument is used up as the value of the last one. -/
structure Taken where
  given : List Given
  usesNext : Bool
  deriving DecidableEq, Repr, Inhabited

/-- Letters after a hyphen, of which the first that takes a value ends the row. -/
def readLetters (options : Spellings) (next : Option String) : List Char → Except UsageFault Taken
  | [] => .ok ⟨[], false⟩
  | letter :: letters =>
    let spelling := String.ofList ['-', letter]
    match options.lookup spelling with
    | none => .error (.unknownOption spelling)
    | some (.switches p on) => do
      let taken ← readLetters options next letters
      return { taken with given := .switch p on :: taken.given }
    | some (.takes p) =>
      if !letters.isEmpty then .ok ⟨[.text p (String.ofList letters)], false⟩
      else match next with
        | some value => .ok ⟨[.text p value], true⟩
        | none => .error (.needsValue spelling)

/-- The long spelling at the front of an argument, and the value after an equals sign. -/
def cutSpelling (argument : String) : String × Option String :=
  match Text.cutFirst? '=' argument.toList with
  | some (spelling, value) => (String.ofList spelling, some (String.ofList value))
  | none => (argument, none)

/-- Is this a long spelling? -/
def isLong (spelling : String) : Bool := ['-', '-'].isPrefixOf spelling.toList

/-- An argument that starts with a hyphen. -/
def readOption (options : Spellings) (argument : String) (next : Option String) : Except UsageFault Taken :=
  let (spelling, value) := cutSpelling argument
  if isLong argument then
    match options.lookup spelling, value, next with
    | none, _, _ => .error (.unknownOption spelling)
    | some (.switches _ _), some _, _ => .error (.takesNoValue spelling)
    | some (.switches p on), none, _ => .ok ⟨[.switch p on], false⟩
    | some (.takes p), some value, _ => .ok ⟨[.text p value], false⟩
    | some (.takes p), none, some value => .ok ⟨[.text p value], true⟩
    | some (.takes _), none, none => .error (.needsValue spelling)
  else readLetters options next (argument.toList.drop 1)

/-- Does the argument spell an option? -/
def isOption (argument : String) : Bool :=
  match argument.toList with
  | '-' :: _ :: _ => true
  | _ => false

/-- The options among arguments, and the arguments that are left over; `used` says that the first argument has been
used up as a value. -/
def readArgumentsFrom (options : Spellings) (stops : Bool) :
    Bool → List String → Except UsageFault (List Given × List String)
  | _, [] => .ok ([], [])
  | true, _ :: rest => readArgumentsFrom options stops false rest
  | false, argument :: rest =>
    if argument == "--" then .ok ([], rest)
    else if isOption argument then do
      let taken ← readOption options argument rest.head?
      let (given, left) ← readArgumentsFrom options stops taken.usesNext rest
      return (taken.given ++ given, left)
    else if stops then .ok ([], argument :: rest)
    else do
      let (given, left) ← readArgumentsFrom options stops false rest
      return (given, argument :: left)

/-- The options among arguments, and the arguments that are left over. Two hyphens end the options; so does the first
other argument if `stops` is set. -/
def readArguments (options : Spellings) (stops : Bool) (arguments : List String) :
    Except UsageFault (List Given × List String) :=
  readArgumentsFrom options stops false arguments

/-! ### What is given -/

/-- All values of a parameter. -/
def valuesOf (given : List Given) (p : Parameter) : List String :=
  given.filterMap fun
    | .text q value => if p = q then some value else none
    | .switch .. => none

/-- The value of a parameter that was given last. -/
def valueOf (given : List Given) (p : Parameter) : Option String := (valuesOf given p).getLast?

/-- The position of a switch that was given last. -/
def switchOf (given : List Given) (p : Parameter) : Option Bool :=
  (given.filterMap fun
    | .switch q on => if p = q then some on else none
    | .text .. => none).getLast?

end SchemaBindings.CommandLine
