import SchemaBindings.Text.Blank
import SchemaBindings.Text.Case

/-!
# Names and texts in generated modules

Schema names become names of classes, modules, methods and attributes; descriptions become the text of a docstring
or of a one-line comment.
-/

namespace SchemaBindings.Naming

/-! ### Snake case -/

/-- A low line goes before a capital that a small letter follows, unless the capital starts a line; `inRun` says
that the text goes on a run of small letters which a capital marked this way has started. -/
def markWords (inRun : Bool) : List Char → List Char
  | a :: b :: c :: cs =>
    if inRun && a.isLower then a :: markWords true (b :: c :: cs)
    else if a != '\n' && b.isUpper && c.isLower then a :: '_' :: b :: c :: markWords true cs
    else a :: markWords false (b :: c :: cs)
  | cs => cs

/-- A low line goes between a small letter or digit and the capital after it. -/
def markCapitals : List Char → List Char
  | a :: b :: cs =>
    if (a.isLower || a.isDigit) && b.isUpper then a :: '_' :: b :: markCapitals cs
    else a :: markCapitals (b :: cs)
  | cs => cs

/-- Words and capitals are set apart by low lines, and everything becomes lower case. -/
def snakeChars (cs : List Char) : List Char := Text.lower (markCapitals (markWords false cs))

/-- `EventByID` becomes `event_by_id`. -/
def snakeCase (name : String) : String := String.ofList (snakeChars name.toList)

/-- The name of the module that holds a class. -/
def moduleName (className : String) : String := snakeCase className

/-! ### Identifiers -/

/-- Words that the output language reserves. -/
def keywords : List String :=
  ["False", "None", "True", "and", "as", "assert", "async", "await", "break", "class", "continue", "def", "del",
    "elif", "else", "except", "finally", "for", "from", "global", "if", "import", "in", "is", "lambda", "nonlocal",
    "not", "or", "pass", "raise", "return", "try", "while", "with", "yield"]

/-- Is the word reserved? Case matters. -/
def isKeyword (name : String) : Bool := keywords.contains name

/-- Low lines at the start give way to one at the end. -/
def moveLowLines (cs : List Char) : List Char :=
  if cs.head? == some '_' then cs.dropWhile (· == '_') ++ ['_'] else cs

/-- A name that is public and not reserved: low lines move to the end, and a reserved word gets one. -/
def safeIdentifier (name : String) : String :=
  let moved := String.ofList (moveLowLines name.toList)
  if isKeyword moved then moved ++ "_" else moved

/-- The name of a method or parameter. -/
def methodName (name : String) : String := safeIdentifier (snakeCase name)

/-- The first character in upper case, the others kept. -/
def capitalize (name : String) : String :=
  match name.toList with
  | [] => ""
  | c :: cs => String.ofList (Text.upperOf c ++ cs)

/-! ### Descriptions -/

/-- Backslashes are doubled, and three quotes in a row are escaped. -/
def escapeDocstring : List Char → List Char
  | [] => []
  | '"' :: '"' :: '"' :: cs => '\\' :: '"' :: '\\' :: '"' :: '\\' :: '"' :: escapeDocstring cs
  | '\\' :: cs => '\\' :: '\\' :: escapeDocstring cs
  | c :: cs => c :: escapeDocstring cs

/-- The text of a docstring; a space keeps a last quote away from the closing ones. -/
def docstringChars (cs : List Char) : List Char :=
  let escaped := escapeDocstring cs
  if escaped.getLast? == some '"' then escaped ++ [' '] else escaped

/-- The text of a docstring. -/
def safeDocstring (text : String) : String := String.ofList (docstringChars text.toList)

/-- A comment has at most this many characters. -/
def commentWidth : Nat := 120

/-- A text over the width is cut, and three dots tell so. -/
def shorten (cs : List Char) : List Char :=
  if cs.length > commentWidth then cs.take (commentWidth - 3) ++ ['.', '.', '.'] else cs

/-- The text of a comment: blanks collapsed, shortened, then trimmed. -/
def commentChars (cs : List Char) : List Char := Text.trim (shorten (Text.collapse cs))

/-- The text of a comment on one line. -/
def safeComment (text : String) : String := String.ofList (commentChars text.toList)

/-! ### Operation roots -/

/-- Is this the name of the query, mutation or subscription type? -/
def isRoot (name : String) : Bool := ["Query", "Mutation", "Subscription"].contains name

end SchemaBindings.Naming
