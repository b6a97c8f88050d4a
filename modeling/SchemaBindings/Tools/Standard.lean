import SchemaBindings.Rendering
import SchemaBindings.Schema.Grammar
import SchemaBindings.Source.Statement
import SchemaBindings.Template

/-!
# The tools of the program

These tools read schemas and options whole, and tell modules of the output language from other texts. Of templates
they know text with holes (`Template.fill`) and refuse the statements and comments that a full engine knows. A template
in the place of the common parts is asked for the imports by each layout, and text with holes has none to give. These
tools never run out of stack or memory, and so only templates break off here; a run allows for that in all of its tools.
-/

namespace SchemaBindings

/-- What is wrong with a template ends a hole that needs a text, and is refused otherwise. -/
def TemplateFault.toToolFault : TemplateFault → ToolFault
  | notText => .notText
  | fault => .refused fault.message

namespace Tools

/-- The text from a template in the place of a layout. -/
def fillLayout (o : Options) (m : Module) (template : String) : Except ToolFault String :=
  (Template.fill o m template).mapError TemplateFault.toToolFault

/-- A layout asks a template in the place of the common parts for the imports, which it does not have. -/
def fillCommonParts (o : Options) (m : Module) (template : String) : Except ToolFault String := do
  let _ ← fillLayout o m template
  throw (.refused "'jinja2.environment.TemplateModule object' has no attribute 'imports'")

/-- Fills in a template with holes, or else the layout of the module. -/
def fillHoles (o : Options) (m : Module) : Filling :=
  .load (RenderFault.templateFile m.layoutName) fun
    | some template => .done (fillLayout o m template)
    | none =>
      if m.needsCommonParts then
        .load (RenderFault.templateFile Module.commonParts) fun
          | some template => .done (fillCommonParts o m template)
          | none => .done (.ok (m.text o))
      else .done (.ok (m.text o))

/-- The tools of the program. -/
def standard : Tools where
  parse text := (Schema.Document.ofText text).mapError fun fault => .refused fault.message
  readOptions := Options.ofText
  fill := fillHoles
  compile text := if Source.wellFormed text then .ok () else .error (.refused "")

instance : Inhabited Tools := ⟨standard⟩

end Tools

namespace Module

/-- No templates of a user. -/
def noTemplates : String → Option String := fun _ => none

/-- The text of a module, with the templates of a user by their names. -/
def render (o : Options) (templates : String → Option String) (m : Module) (tools : Tools := .standard) :
    Except RenderFault String :=
  m.checked tools (Id.run ((m.draft tools o).run fun name => pure (templates name)))

end Module

end SchemaBindings
