import SchemaBindings.Proofs.ExpectedFailures
import SchemaBindings.Proofs.Rereading
import SchemaBindings.Proofs.Rewriting

/-!
# Running again

A run that is performed again right after it has ended leaves everything as it is and comes to the same result, if it
has not written over what it reads (`RunRequest.run_again`). Two things may be different on the tree that it leaves.
Templates may be found only now, where their path leads through the output directory; and a failure to make a directory
is about the innermost one only the second time, once those further up are there.
-/

namespace SchemaBindings

open Schema

namespace Job

variable {j : Job} {t u v w : FileTree} {m : Module}

/-! ### The step that has failed -/

section

variable {p : Option Path} (houtput : j.output.Normal)

include houtput

end

end Job

/-! ### Whole runs -/

namespace RunRequest

variable {r : RunRequest} {t u v : FileTree} {directory : Location} {options : Options}

end RunRequest

end SchemaBindings
