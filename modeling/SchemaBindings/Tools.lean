import SchemaBindings.Module
import SchemaBindings.Options.Reading
import SchemaBindings.Schema.Document

/-!
# Tools

A run leaves four tasks to tools: reading a schema, reading options, filling in templates and compiling what comes of
that. What the tools make of their input is open; whatever it is, a tool may refuse its input with a message, or it
may break off.
-/

namespace SchemaBindings

/-- Why a tool gives no result. -/
inductive ToolFault
  /-- It refuses its input and says why. -/
  | refused (message : String)
  /-- It breaks off with a fault of this kind, for which nothing is prepared. -/
  | raised (kind : String)
  deriving DecidableEq, Repr, Inhabited

namespace ToolFault

/-- Is something prepared for faults like this one? -/
def isExpected : ToolFault → Bool
  | refused _ => true
  | raised _ => false

/-- The wording of the fault. -/
def message : ToolFault → String
  | refused message => message
  | raised kind => kind

/-- A text was needed and something else was there. -/
@[match_pattern] def notText : ToolFault := .raised "TypeError"

end ToolFault

/-! ### Filling in templates -/

/-- How a text is made from templates: they are looked up by name one after the other, and which one is next depends
on those that have been found. -/
inductive Filling
  | done (result : Except ToolFault String)
  | load (name : String) (next : Option String → Filling)

/-- The text that is made from the templates that a lookup finds. -/
def Filling.run {μ : Type → Type} [Monad μ] (find : String → μ (Option String)) : Filling → μ (Except ToolFault String)
  | done result => pure result
  | load name next => find name >>= fun found => (next found).run find

/-! ### What a run is given -/

/-- The tools of a run. -/
structure Tools where
  /-- The document that a text holds. -/
  parse : String → Except ToolFault Schema.Document
  /-- The options that a text holds. -/
  readOptions : String → Except (List Complaint) Options
  /-- How the text of a module is made from the templates of a user. -/
  fill : Options → Module → Filling
  /-- Checks that a text is a module of the output language. -/
  compile : String → Except ToolFault Unit

end SchemaBindings
