import SchemaBindings.Header
import SchemaBindings.Mapping
import SchemaBindings.SchemaFiles
import SchemaBindings.Tools.Standard

/-!
# Runs

A run settles its options, prepares the output directory, reads all schema files, and then goes through the documents:
the modules of each definition are rendered and written before the next definition is mapped. The first failure ends
the run; what has been written until then stays. What a tool makes of its input is the same whenever it is asked.
-/

namespace SchemaBindings

/-! ### Failures -/

/-- Why a run fails. -/
inductive RunError
  | optionsUnreadable (path : String) (fault : FileFault)
  | optionsInvalid (path : String) (complaints : List Complaint)
  | schemaUnreadable (path : String) (fault : FileFault)
  | schemaInvalid (path : String) (fault : ToolFault)
  | unknownType (error : UnknownType) (path : String)
  | unrendered (fault : RenderFault)
  | unwritten (path : String) (fault : FileFault)
  /-- A file that should hold text does not. -/
  | undecodable
  /-- A fault of the file system that the run does not expect. -/
  | system (fault : FileFault)
  deriving Repr, Inhabited

namespace RunError

/-- Does the run expect such failures? It reports them with a message of its own. -/
def isExpected : RunError → Bool
  | schemaInvalid _ fault => fault.isExpected
  | unrendered fault => fault.cause.fault.isExpected
  | undecodable | system _ => false
  | _ => true

/-- The wording of the failure. -/
def message : RunError → String
  | optionsUnreadable path fault => "Cannot read mapping config " ++ path ++ ": " ++ fault.message
  | optionsInvalid path _ => "Invalid mapping config " ++ path
  | schemaUnreadable path fault => "Error parsing " ++ path ++ ": " ++ fault.message
  | schemaInvalid path fault => "Error parsing " ++ path ++ ": " ++ fault.message
  | unknownType error path => error.message (some path)
  | unrendered fault => fault.message
  | unwritten path fault => "Failed to write " ++ path ++ ": " ++ fault.message
  | undecodable => "undecodable text"
  | system fault => fault.message

end RunError

/-- Turns a fault into a failure, unless the path holds the character that no path can hold. -/
def expecting (wrap : FileFault → RunError) (fault : FileFault) : RunError :=
  if fault.cause == .zeroCharacter then .system fault else wrap fault

namespace FileTree

/-- The text of a file, with unified line ends. -/
def readLines (t : FileTree) (directory : Location) (path : String) (wrap : FileFault → RunError) :
    Except RunError String := do
  let content ← (t.read directory path).mapError fun cause => expecting wrap { cause, path }
  match decodeLines? content with
  | some text => return text
  | none => throw .undecodable

end FileTree

/-! ### Options of a run -/

/-- What a run is asked for. -/
structure RunRequest where
  /-- Schema files, and directories that hold them. -/
  schemas : List String
  output : String
  options : Options
  /-- A file with further options; those that are given directly come first. -/
  optionsFile : Option String
  /-- A directory with templates. -/
  templates : Option String
  /-- Texts that are put before the text of each module. -/
  headers : List String
  /-- What is done to the text of each module after that. -/
  hooks : List Hook := []
  tools : Tools := .standard
  deriving Inhabited

/-- The options in a file. -/
def Options.ofFile (t : FileTree) (directory : Location) (path : String) (tools : Tools := .standard) :
    Except RunError Options := do
  let path := (Path.ofText path).text
  let text ← t.readLines directory path (.optionsUnreadable path)
  (tools.readOptions text).mapError (.optionsInvalid path)

/-- A run whose options are settled. -/
structure Job where
  /-- The working directory. -/
  directory : Location
  schemas : List String
  output : Path
  targets : Targets
  /-- The directory with templates, if there is one. -/
  templates : Option Path
  hooks : List Hook
  tools : Tools
  deriving Inhabited

/-- Settles the options of a run. -/
def RunRequest.settle (r : RunRequest) (t : FileTree) (directory : Location) : Except RunError Job := do
  let options ← match r.optionsFile with
    | none => pure r.options
    | some path => pure (r.options.combine (← Options.ofFile t directory path r.tools))
  let templates := (r.templates.filter (!·.isEmpty)).map Path.ofText
  return { directory
           schemas := r.schemas
           output := Path.ofText r.output
           targets := .ofOptions options
           templates := templates.filter fun p => t.isDirectory directory p.text
           hooks := r.headers.map Hook.header ++ r.hooks
           tools := r.tools }

/-! ### Steps of a run -/

/-- A part of a run. -/
abbrev Running := Changing RunError

namespace Job

/-- The names that lead from a directory with templates to the template with some name. A name that leads up is none. -/
def templatePlace? (name : String) : Option (List String) :=
  let parts := Text.split '/' name
  let names := parts.filter fun part => !part.isEmpty && part != "."
  if parts.contains ".." || names.isEmpty then none else some names

/-- The text of the template with some name, if there is such a template. -/
def template? (j : Job) (t : FileTree) (name : String) : Except RunError (Option String) :=
  match j.templates, templatePlace? name with
  | some p, some names =>
    let path := joinedPath p.text names
    if t.isFile j.directory path then (t.readLines j.directory path .system).map some else .ok none
  | _, _ => .ok none

/-- The text of a module, after the hooks of the run. -/
def render (j : Job) (t : FileTree) (m : Module) : Except RunError String := do
  let drafted ← (m.draft j.tools j.targets.options).run (j.template? t)
  let text ← (m.checked j.tools drafted).mapError .unrendered
  return applyHooks j.hooks m.relativePath text

/-- The path of the file for a module. -/
def pathOf (j : Job) (m : Module) : Path := j.output.join (.ofText m.relativePath)

/-- Writes a file, after making its directories where they are missing. -/
def place (j : Job) (path : Path) (text : String) : Changing FileFault Unit := do
  FileTree.provideOnDemand j.directory path.root path.parent.names.reverse
  Changing.replacing fun t =>
    (t.write j.directory path.text text.toUTF8).mapError fun cause => { cause, path := path.text }

/-- Renders and writes a module. -/
def writeModule (j : Job) (m : Module) : Running String := do
  let text ← Changing.looking (j.render · m)
  let path := j.pathOf m
  (j.place path text).adapt (expecting (.unwritten path.text))
  return path.text

/-- What came of a document. -/
structure Generated where
  path : String
  files : List String
  skipped : Nat
  definitions : Nat
  deriving Inhabited

/-- Writes the modules of the definitions of a document, one definition after the other. -/
def writeSteps (j : Job) (path : String) :
    List (Option (Except UnknownType (List Module))) → Running (List String × Nat)
  | [] => return ([], 0)
  | none :: steps => do
    let (files, skipped) ← j.writeSteps path steps
    return (files, skipped + 1)
  | some (.error e) :: _ => throw (.unknownType e path)
  | some (.ok modules) :: steps => do
    let written ← modules.mapM j.writeModule
    let (files, skipped) ← j.writeSteps path steps
    return (written ++ files, skipped)

/-- Writes the modules of a document. -/
def writeDocument (j : Job) (s : Scope) (path : String) (document : Schema.Document) : Running Generated := do
  let (files, skipped) ← j.writeSteps path (s.steps document)
  return { path, files, skipped, definitions := document.length }

/-- The document in a schema file. -/
def readDocument (j : Job) (t : FileTree) (path : String) : Except RunError (String × Schema.Document) := do
  let text ← t.readLines j.directory path (.schemaUnreadable path)
  let document ← (j.tools.parse text).mapError (.schemaInvalid path)
  return (path, document)

/-- The documents in all schema files, with their paths. -/
def readDocuments (j : Job) (t : FileTree) : Except RunError (List (String × Schema.Document)) :=
  (t.schemaFiles j.directory j.schemas).mapM (j.readDocument t)

/-- The scope of a run over documents: their scalars have targets. -/
def scope (j : Job) (documents : List Schema.Document) : Scope :=
  .ofDocuments (j.targets.registerScalars documents.flatten).1 documents

end Job

/-! ### Whole runs -/

/-- What a run has done. -/
structure RunResult where
  /-- The written files, in order. -/
  files : List String
  /-- How many definitions yield no module. -/
  skipped : Nat
  /-- How many definitions each schema file holds. -/
  definitionCounts : Table String Nat
  /-- The targets at the end. -/
  targets : Table String String
  deriving Inhabited

/-- The result of a run that has gone through its documents. -/
def RunResult.ofGenerated (s : Scope) (generated : List Job.Generated) : RunResult where
  files := generated.flatMap (·.files)
  skipped := generated.foldl (fun count g => count + g.skipped) 0
  definitionCounts := Table.ofList (generated.map fun g => (g.path, g.definitions))
  targets := s.targets.table

/-- Makes the output directory where it is missing. -/
def Job.prepare (j : Job) : Running Unit :=
  (FileTree.provideFromTop j.directory j.output.root j.output.names.reverse).adapt .system

/-- Prepares the output directory, reads the schema files and writes the modules. -/
def Job.run (j : Job) : Running RunResult := do
  j.prepare
  let documents ← Changing.looking j.readDocuments
  let s := j.scope (documents.map (·.2))
  return .ofGenerated s (← documents.mapM fun (path, document) => j.writeDocument s path document)

/-- Performs a run on a file tree. -/
def RunRequest.run (r : RunRequest) (t : FileTree) (directory : Location) : Except RunError RunResult × FileTree :=
  match r.settle t directory with
  | .error e => (.error e, t)
  | .ok job => job.run.run t

end SchemaBindings
