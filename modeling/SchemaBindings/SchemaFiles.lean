import SchemaBindings.Ascending
import SchemaBindings.FileTree

/-!
# Schema files

A run is given paths. One that leads to a directory stands for the schema files at any depth below it, in ascending
order; any other stands for itself.
-/

namespace SchemaBindings

/-- How the names of schema files end. -/
def schemaExtensions : List String := [".graphqls", ".graphql", ".gql"]

/-- Does the name end like that of a schema file? -/
def isSchemaName (name : String) : Bool :=
  schemaExtensions.any fun ending => ending.toList.isSuffixOf name.toList

/-- A path with names after it. -/
def joinedPath (path : String) (names : List String) : String :=
  path ++ (if path.toList.getLast? == some '/' then "" else "/") ++ "/".intercalate names

namespace FileTree

/-- The schema files below a location, which is reached by a path. -/
def schemaFilesBelow (t : FileTree) (l : Location) (path : String) : List String :=
  ascendingTexts ((t.filesBelow l).filterMap fun (names, _) =>
    if isSchemaName (names.getLastD "") then some (joinedPath path names) else none)

/-- The schema files that a path stands for. -/
def schemaFilesAt (t : FileTree) (directory : Location) (path : String) : List String :=
  match t.locate directory path with
  | .ok l =>
    match t.entry? l with
    | some .directory => t.schemaFilesBelow l path
    | _ => [path]
  | .error _ => [path]

/-- The schema files that paths stand for, in their order. -/
def schemaFiles (t : FileTree) (directory : Location) (paths : List String) : List String :=
  paths.flatMap (t.schemaFilesAt directory)

end FileTree

end SchemaBindings
