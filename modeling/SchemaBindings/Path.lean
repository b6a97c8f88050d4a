import SchemaBindings.Text.Pieces

/-!
# Paths

The text of a path in its normal form: empty parts and single dots are dropped, two dots stay, and of slashes at the
start one is kept, or exactly two.
-/

namespace SchemaBindings

/-- A path in normal form; `root` is empty for relative paths. -/
structure Path where
  root : String
  names : List String
  deriving DecidableEq, Repr, Inhabited

namespace Path

/-- The slashes that a path keeps at its start. -/
def rootOf : List Char → String
  | '/' :: '/' :: '/' :: _ => "/"
  | '/' :: '/' :: _ => "//"
  | '/' :: _ => "/"
  | _ => ""

/-- The normal form of a text. -/
def ofText (text : String) : Path :=
  { root := rootOf text.toList
    names := (Text.split '/' text).filter fun name => !name.isEmpty && name != "." }

/-- The text of a path; nothing at all is written as a dot. -/
def text (p : Path) : String :=
  let written := p.root ++ "/".intercalate p.names
  if written.isEmpty then "." else written

/-- A path below another; one that is not relative stands for itself. -/
def join (p q : Path) : Path := if q.root.isEmpty then { p with names := p.names ++ q.names } else q

/-- The path without its last name. -/
def parent (p : Path) : Path := { p with names := p.names.dropLast }

/-- The path without dots for directories further up, below a base that is absolute. -/
def resolved (base p : Path) : Path :=
  let full := base.join p
  let names := full.names.foldl (fun acc name => if name == ".." then acc.dropLast else acc ++ [name]) []
  { root := "/", names }

end Path

end SchemaBindings
