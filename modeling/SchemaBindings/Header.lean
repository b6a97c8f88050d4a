/-!
# Headers and hooks

Hooks change the text of a generated module before it is written, one after the other. One kind of hook puts a header
before the text, with one line feed after it if it ends with one itself, and with two otherwise. Of several headers
the last one ends up first.
-/

namespace SchemaBindings

/-- A text with a header before it. -/
def withHeader (header content : String) : String :=
  header ++ (if header.toList.getLast? == some '\n' then "\n" else "\n\n") ++ content

/-- A text with headers put before it one after the other. -/
def withHeaders (headers : List String) (content : String) : String :=
  headers.foldl (fun content header => withHeader header content) content

/-- What is made of the path of a module, below the output directory, and its text. -/
abbrev Hook := String → String → String

/-- Puts a header before the text. -/
def Hook.header (header : String) : Hook := fun _ content => withHeader header content

/-- A text after hooks, each of which takes what the one before it has made. -/
def applyHooks (hooks : List Hook) (path content : String) : String :=
  hooks.foldl (fun content hook => hook path content) content

end SchemaBindings
