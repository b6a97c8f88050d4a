import SchemaBindings.Layout.Choice
import SchemaBindings.Layout.Methods
import SchemaBindings.Layout.Record

/-!
# Layouts of modules

The body of a module decides its layout.

Layouts are written as the lines of a module, not as templates with statements that an engine expands. What the
settings `trim_blocks` and `lstrip_blocks` of such an engine do has been applied in writing them down: a statement takes
the line break right after it along, and the blanks before a statement that begins a line go too. So a line that holds
statements only leaves no line behind, a value at the end of a line keeps its line break, and after a line of text that
ends in a statement a template has an empty line that makes up for the break.
-/

namespace SchemaBindings

/-- The lines of a module. -/
def Layout.lines (o : Options) (m : Module) : List String :=
  match m.body with
  | .record kind fields bases => recordLines o m kind fields bases
  | .enumeration values => enumerationLines m values
  | .union members => unionLines m members
  | .operations root whole methods => operationsLines m root whole methods
  | .resolvers entries => resolversLines m entries

/-- The text of a module. -/
def Module.text (o : Options) (m : Module) : String := Layout.text (Layout.lines o m)

end SchemaBindings
