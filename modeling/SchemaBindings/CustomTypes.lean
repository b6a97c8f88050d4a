import SchemaBindings.Table
import SchemaBindings.Text.Blank
import SchemaBindings.Text.Pieces
import SchemaBindings.Text.Quoted

/-!
# Custom types as texts

A custom type is written as a name, an equals sign and a target, with any blanks around the two. Further equals signs
belong to the target.
-/

namespace SchemaBindings

/-- A text that is no custom type. -/
structure MalformedCustomType where
  text : String
  deriving DecidableEq, Repr, Inhabited

/-- The wording of the error. -/
def MalformedCustomType.message (e : MalformedCustomType) : String :=
  "Invalid value for --custom-type: expected NAME=TARGET, got " ++ Text.quoted e.text

/-- The name and the target that a text gives. -/
def customType? (text : String) : Except MalformedCustomType (String × String) :=
  match Text.cutFirst? '=' text.toList with
  | none => .error ⟨text⟩
  | some (before, after) =>
    let name := Text.trim before
    let target := Text.trim after
    if name.isEmpty || target.isEmpty then .error ⟨text⟩
    else .ok (String.ofList name, String.ofList target)

/-- The table that texts give; of several targets for one name the last one counts. -/
def customTypes (texts : List String) : Except MalformedCustomType (Table String String) := do
  return Table.ofList (← texts.mapM customType?)

end SchemaBindings
