import SchemaBindings.Layout
import SchemaBindings.Tools

/-!
# Rendering of modules

The text of a module comes from its layout, unless a user has a template in the place of the layout, or of the parts
that some layouts have in common. The text must compile as one of the output language, under a path that does not hold
the character that ends texts for the system.
-/

namespace SchemaBindings

/-- Why a module cannot be rendered. -/
inductive RenderCause
  /-- Its text cannot be made from templates. -/
  | template (fault : ToolFault)
  /-- Its text does not compile. -/
  | source (fault : ToolFault)
  deriving DecidableEq, Repr, Inhabited

namespace RenderCause

/-- The fault of the tool. -/
def fault : RenderCause → ToolFault
  | template fault | source fault => fault

/-- The wording of the cause. -/
def message : RenderCause → String
  | template fault => fault.message
  | source fault => "generated invalid Python" ++ if fault.message.isEmpty then "" else ": " ++ fault.message

end RenderCause

/-- A module that cannot be rendered: the name of its layout, its path, and why. -/
structure RenderFault where
  layout : String
  path : String
  cause : RenderCause
  deriving DecidableEq, Repr, Inhabited

namespace RenderFault

/-- The file that holds a template. -/
def templateFile (layout : String) : String := layout ++ ".py.j2"

/-- The wording of the fault. -/
def message (f : RenderFault) : String :=
  "Failed to render " ++ f.path ++ ": " ++ f.cause.message ++ "\nTemplate: " ++ templateFile f.layout

end RenderFault

namespace Module

/-- The name of the template for the parts that layouts have in common. -/
def commonParts : String := "_macros"

/-- Does the layout need the common parts? -/
def needsCommonParts (m : Module) : Bool :=
  match m.body with
  | .enumeration _ | .union _ => false
  | _ => true

/-- How the text of a module is made, which may turn out not to compile. Templates of a user are filled in if one of
them takes the place of something that the layout consists of. -/
def draft (tools : Tools) (o : Options) (m : Module) : Filling :=
  .load (RenderFault.templateFile m.layoutName) fun
    | some _ => tools.fill o m
    | none =>
      if m.needsCommonParts then
        .load (RenderFault.templateFile commonParts) fun
          | some _ => tools.fill o m
          | none => .done (.ok (m.text o))
      else .done (.ok (m.text o))

/-- Compiles the text of a module. A path with the character that ends texts for the system is refused. -/
def compile (tools : Tools) (m : Module) (text : String) : Except ToolFault Unit :=
  if m.relativePath.toList.contains '\x00' then .error (.refused "") else tools.compile text

/-- The text that has been drafted for a module, if it compiles. -/
def checked (tools : Tools) (m : Module) (drafted : Except ToolFault String) : Except RenderFault String :=
  let checked : Except RenderCause String := do
    let text ← drafted.mapError .template
    (m.compile tools text).mapError .source
    return text
  checked.mapError fun cause => { layout := m.layoutName, path := m.relativePath, cause }

end Module

end SchemaBindings
