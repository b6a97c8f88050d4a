import SchemaBindings.Module

/-!
# Lines of a layout

A layout is a list of lines, those that a template leaves with `trim_blocks` and `lstrip_blocks`. This file has the
lines that several layouts share: docstrings, imports and the parameters of methods. Names that only annotations need
are imported under a condition that is false at run time.
-/

namespace SchemaBindings.Layout

/-- The text of lines, each of them ended. -/
def text (lines : List String) : String := String.join (lines.map (· ++ "\n"))

/-- A line inside a class. -/
def indented (line : String) : String := "    " ++ line

/-- A text between the quotes of a docstring. -/
def quotedDoc (escaped : String) : String := "\"\"\"" ++ escaped ++ "\"\"\""

/-- The docstring for a description. -/
def docstring (description : String) : String := quotedDoc (Naming.safeDocstring description)

/-- A description that says something. -/
def nonempty? (description : Option String) : Option String := description.filter (!·.isEmpty)

/-- The remark at the top of every module that is generated for a class. -/
def banner (title : String) : String := title ++ " generated from the GraphQL schema. Do not edit."

/-- The line that lets annotations mention what is defined later or imported for them only. -/
def futureImport : List String := ["from __future__ import annotations", ""]

/-- The name of the condition for imports that only annotations need. -/
def typeCondition : String := "TYPE_CHECKING"

/-- The imports of a module. -/
def importLines (m : Module) : List String :=
  m.imports.map Import.statement ++
    if m.typeImports.isEmpty then []
    else ["", "if " ++ typeCondition ++ ":"] ++ m.typeImports.map fun i => indented i.statement

/-- Two empty lines before a class. -/
def gap : List String := ["", ""]

/-- A class line with its bases. -/
def classLine (name : String) (bases : List String) : String :=
  "class " ++ name ++ "(" ++ ", ".intercalate bases ++ "):"

/-- The body of a class that has nothing to say. -/
def emptyBody : List String := [indented "pass"]

/-! ### Methods -/

/-- A parameter with its annotation. -/
def parameterText (a : Argument) : String := ", " ++ a.parameter ++ ": " ++ a.annotation

/-- A parameter that may be left out. -/
def optionalParameterText (a : Argument) : String := parameterText a ++ " = None"

/-- The parameters of a method after the fixed ones. Those that may be left out come last. -/
def signature (arguments : List Argument) : String :=
  String.join ((arguments.filter (!·.isOptional)).map parameterText) ++
    String.join ((arguments.filter Argument.isOptional).map optionalParameterText)

/-- The first line of a method. -/
def methodLine (name fixed : String) (arguments : List Argument) (result : Reference) : String :=
  indented ("def " ++ name ++ "(" ++ fixed ++ signature arguments ++ ") -> " ++ result.annotation ++ ":")

/-- A line inside a method. -/
def inMethod (line : String) : String := indented (indented line)

/-- The body of a method that is only declared. -/
def declaredOnly : String := inMethod "..."

end SchemaBindings.Layout
