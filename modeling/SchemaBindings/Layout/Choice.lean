import SchemaBindings.Layout.Lines
import SchemaBindings.Text.Quoted

/-!
# Layout of enumerations and unions

An enumeration becomes a class with a member for each value. A union becomes a class that its members extend and that
lists their names. Blanks and line breaks around statements are gone already, as in all layouts.
-/

namespace SchemaBindings.Layout

/-! ### Enumerations -/

/-- A member of an enumeration; its value is the name in the schema. -/
def memberLine (value : String) : String := indented (Naming.safeIdentifier value ++ " = " ++ Text.quoted value)

/-- The module of an enumeration. -/
def enumerationLines (m : Module) (values : List String) : List String :=
  let doc := ((nonempty? m.description).map fun d => [indented (docstring d), ""]).getD []
  let members := doc ++ values.map memberLine
  [quotedDoc (banner (m.className ++ " enum")), "", "from enum import Enum"] ++ gap ++
    [classLine m.className ["str", "Enum"]] ++ if members.isEmpty then emptyBody else members

/-! ### Unions -/

/-- A tuple of texts that is written out. -/
def tupleText (texts : List String) : String :=
  "(" ++ ", ".intercalate (texts.map Text.quoted) ++ (if texts.length == 1 then "," else "") ++ ")"

/-- The members of a union in words. -/
def memberList (members : List String) : String :=
  if members.isEmpty then "no types" else ", ".intercalate members

/-- The module of a union. -/
def unionLines (m : Module) (members : List String) : List String :=
  ["\"\"\"" ++ banner (m.className ++ " union"), "", "Member types subclass this model.", "\"\"\"", "",
      "from pydantic import BaseModel"] ++ gap ++
    [classLine m.className ["BaseModel"], indented ("\"\"\"Union of " ++ memberList members ++ ".")] ++
    ((nonempty? m.description).map fun d => ["", indented (Naming.safeDocstring d)]).getD [] ++
    [indented "\"\"\"", "", indented ("__union_members__ = " ++ tupleText members)]

end SchemaBindings.Layout
