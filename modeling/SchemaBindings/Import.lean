import SchemaBindings.Ascending
import SchemaBindings.Text.Pieces

/-!
# Imports

An import brings a whole module or one name of a module into scope. Modules are named absolutely, or relative to the
package of the importing module by leading dots.
-/

namespace SchemaBindings

/-- An import of a name from a module, or of the module itself. -/
structure Import where
  module : String
  name : Option String
  deriving DecidableEq, Repr, Inhabited

namespace Import

/-- The statement that performs the import. -/
def statement (i : Import) : String :=
  match i.name with
  | none => "import " ++ i.module
  | some name => "from " ++ i.module ++ " import " ++ name

/-- Imports are ordered by module, then by name; a whole module comes before its names. -/
def less (i j : Import) : Bool :=
  decide (i.module < j.module) || (i.module == j.module && decide (i.name.getD "" < j.name.getD ""))

/-- Imports in order, each once. -/
def sorted (imports : List Import) : List Import := ascending less imports

/-- How a module of one package names a module of another: relative inside the package, absolute otherwise, and
relative from the top where the other package is the root. -/
def path (fromPackage toPackage module : String) : String :=
  if fromPackage == toPackage then "." ++ module
  else if !toPackage.isEmpty then toPackage ++ "." ++ module
  else String.ofList (List.replicate ((Text.split '.' fromPackage).length + 1) '.') ++ module

end Import

end SchemaBindings
