import SchemaBindings.Proofs.Directories
import SchemaBindings.Proofs.Outcomes

/-!
# Stages of a run

A run settles its options (`RunRequest.settle_eq`), makes the output directory, reads the schema files and performs its
plan. Each stage is entered only if the one before it has succeeded (`Job.run_of_unprepared`, `Job.run_of_unread`,
`Job.run_of_read`).
-/

namespace SchemaBindings

open Schema

/-! ### Settling -/

namespace RunRequest

variable {r : RunRequest} {t : FileTree} {directory : Location} {j : Job}

/-- The options of a run, those in its file included. -/
def settledOptions (r : RunRequest) (t : FileTree) (directory : Location) : Except RunError Options :=
  match r.optionsFile with
  | none => .ok r.options
  | some path => (Options.ofFile t directory path r.tools).map r.options.combine

/-- The run with settled options. -/
def job (r : RunRequest) (t : FileTree) (directory : Location) (options : Options) : Job where
  directory := directory
  schemas := r.schemas
  output := Path.ofText r.output
  targets := .ofOptions options
  templates := ((r.templates.filter (!·.isEmpty)).map Path.ofText).filter fun p => t.isDirectory directory p.text
  hooks := r.headers.map Hook.header ++ r.hooks
  tools := r.tools

theorem settle_eq (r : RunRequest) (t : FileTree) (directory : Location) :
    r.settle t directory = (r.settledOptions t directory).map (r.job t directory) := by
  unfold settle settledOptions
  cases r.optionsFile with
  | none => rfl
  | some path =>
    dsimp only
    cases Options.ofFile t directory path r.tools <;> rfl

theorem settle_eq_ok_iff : r.settle t directory = .ok j ↔
    ∃ options, r.settledOptions t directory = .ok options ∧ r.job t directory options = j := by
  rw [settle_eq]
  cases r.settledOptions t directory <;> simp [Except.map]

theorem normal_output_of_settle (h : r.settle t directory = .ok j) : j.output.Normal := by
  obtain ⟨options, -, rfl⟩ := settle_eq_ok_iff.1 h
  exact Path.normal_ofText r.output

end RunRequest

/-! ### From the output directory to the plan -/

namespace Job

variable {j : Job} {t u : FileTree}

/-- Making the output directory adds directories, whether it succeeds or not. -/
theorem addsDirectories_of_prepare {result : Except RunError Unit} (h : j.prepare t = (result, u)) :
    t.AddsDirectories (FileTree.OnWay j.directory j.output) u := by
  have hadds : t.AddsDirectories (FileTree.OnWay j.directory j.output) (j.prepare t).2 :=
    FileTree.ensures_provideFromTop j.directory j.output t
  rwa [h] at hadds

/-- Writes the modules of documents, one after the other. -/
def writeDocuments (j : Job) (s : Scope) (documents : List (String × Document)) : Running (List Generated) :=
  documents.mapM fun (path, document) => j.writeDocument s path document

/-- What comes of documents that have been read. -/
def generate (j : Job) (documents : List (String × Document)) : Running RunResult :=
  RunResult.ofGenerated (j.scope (documents.map (·.2))) <$> j.writeDocuments (j.scope (documents.map (·.2))) documents

/-- A file is placed when the directory above it is there. -/
theorem place_eq_ok_iff {path : Path} {text : String} : j.place path text t = (.ok (), u) ↔ ∃ w,
    FileTree.provideOnDemand j.directory path.parent.root path.parent.names.reverse t = (.ok (), w) ∧
      w.write j.directory path.text text.toUTF8 = .ok u := by
  rw [place, Changing.bind_eq_ok_iff]
  simp only [Changing.replacing_eq_ok_iff, mapError_eq_ok_iff]
  exact ⟨fun ⟨_, w, hmade, hwrite⟩ => ⟨w, hmade, hwrite⟩, fun ⟨w, hmade, hwrite⟩ => ⟨(), w, hmade, hwrite⟩⟩

end Job

end SchemaBindings
