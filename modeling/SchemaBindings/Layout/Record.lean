import SchemaBindings.Layout.Lines
import SchemaBindings.Options
import SchemaBindings.Text.Quoted

/-!
# Layout of classes with fields

Object types, interfaces and input objects become classes that check their fields. Every field is a declaration on a
line of its own, with comments on the lines before it. As in all layouts, the lines are those that are left when the
statements of the template have been run with `trim_blocks` and `lstrip_blocks`.
-/

namespace SchemaBindings.Layout

/-! ### Fields -/

/-- The text of the arguments that a field takes in the schema. -/
def argumentsRemark (arguments : List Argument) : String :=
  "# Arguments: " ++ ", ".intercalate (arguments.map fun a => a.name ++ ": " ++ a.type.annotation)

/-- The comments before a field: its description and its arguments. -/
def fieldRemarks (f : Field) : List String :=
  ((nonempty? f.description).map fun d => indented ("# " ++ Naming.safeComment d)).toList ++
    if f.arguments.isEmpty then [] else [indented (argumentsRemark f.arguments)]

/-- A value that stands for one, which a required field lacks. -/
def missingValue (required : Bool) : String := if required then "..." else "None"

/-- What a field is set to. A renamed field keeps its name in the schema as an alias; a required one has the value
that the options give, if any. -/
def fieldValue (o : Options) (f : Field) : String :=
  if f.isRenamed then " = Field(" ++ missingValue f.type.required ++ ", alias=" ++ Text.quoted f.name ++ ")"
  else if f.type.required then
    match nonempty? o.requiredValue with
    | some value => " = " ++ value
    | none => ""
  else " = None"

/-- The declaration of a field. -/
def fieldDeclaration (o : Options) (f : Field) : String :=
  indented (f.identifier ++ ": " ++ f.type.annotation ++ fieldValue o f)

/-- The lines of a field. -/
def fieldLines (o : Options) (f : Field) : List String := fieldRemarks f ++ [fieldDeclaration o f]

/-! ### Printing -/

/-- A field with its value, as a printed record shows it. -/
def shownField (f : Field) : String := f.identifier ++ "=\x7bself." ++ f.identifier ++ "!r\x7d"

/-- The method that prints a record. -/
def printingLines (className : String) (fields : List Field) : List String :=
  ["", indented "def __str__(self) -> str:",
    inMethod ("return f\"" ++ className ++ "(" ++ ", ".intercalate (fields.map shownField) ++ ")\"")]

/-! ### Classes -/

/-- The body of a class with fields. -/
def recordBody (o : Options) (m : Module) (fields : List Field) : List String :=
  let doc := ((nonempty? m.description).map fun d => [indented (docstring d), ""]).getD []
  let frozen := if o.frozen.getD false then [indented "model_config = ConfigDict(frozen=True)", ""] else []
  let printing := if o.printing.getD false then printingLines m.className fields else []
  let lines := doc ++ frozen ++ fields.flatMap (fieldLines o) ++ printing
  if lines.isEmpty then emptyBody else lines

/-- The bases of a class; one that extends nothing extends the class of all records. -/
def recordBases (bases : List Reference) : List String :=
  if bases.isEmpty then ["BaseModel"] else baseNames bases

/-- The docstring of a module with a record. -/
def recordBanner (kind : RecordKind) (className : String) : List String :=
  match kind with
  | .object => [quotedDoc (banner (className ++ " model"))]
  | .input => [quotedDoc (banner (className ++ " input"))]
  | .interface =>
    ["\"\"\"" ++ banner (className ++ " interface"), "", "Types implementing the interface subclass this model.",
      "\"\"\""]

/-- The module of a class with fields. -/
def recordLines (o : Options) (m : Module) (kind : RecordKind) (fields : List Field) (bases : List Reference) :
    List String :=
  recordBanner kind m.className ++ [""] ++ futureImport ++
    (if m.typeImports.isEmpty then [] else ["from typing import " ++ typeCondition, ""]) ++
    ["from pydantic import BaseModel, ConfigDict, Field"] ++ importLines m ++ gap ++
    [classLine m.className (recordBases bases)] ++ recordBody o m fields

end SchemaBindings.Layout
