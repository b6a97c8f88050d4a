import SchemaBindings.Schema.Document
import SchemaBindings.Schema.Token
import SchemaBindings.Schema.StringLiteral

/-!
# The text of a value

Values are written on one line as long as they fit into eighty columns; longer lists and objects put each part on a
line of its own, indented by two spaces. Inner lines, also those of block strings, are indented with the rest.
-/

namespace SchemaBindings.Schema

/-- The widest line of a list or object. -/
def lineWidth : Nat := 80

/-- Two spaces at the start and after each line feed. -/
def indentLines (text : String) : String :=
  String.ofList (' ' :: ' ' :: text.toList.flatMap fun c => if c == '\n' then ['\n', ' ', ' '] else [c])

/-! ### Strings -/

/-- One character of a quoted string: quote, backslash and control characters are escaped. -/
def stringChar (c : Char) : List Char :=
  match c with
  | '"' => ['\\', '"']
  | '\\' => ['\\', '\\']
  | '\x08' => ['\\', 'b']
  | '\t' => ['\\', 't']
  | '\n' => ['\\', 'n']
  | '\x0c' => ['\\', 'f']
  | '\r' => ['\\', 'r']
  | _ =>
    if c.toNat < 0x20 || (0x7F ≤ c.toNat && c.toNat < 0xA0) then '\\' :: 'u' :: (codePointText c.toNat).toList
    else [c]

/-- A string between quotes. -/
def stringText (value : String) : String :=
  String.ofList ('"' :: value.toList.flatMap stringChar ++ ['"'])

/-- Three quotes in a row, escaped. -/
def escapeTriple : List Char → List Char
  | [] => []
  | '"' :: '"' :: '"' :: cs => '\\' :: '"' :: '"' :: '"' :: escapeTriple cs
  | c :: cs => c :: escapeTriple cs

/-- A block string. Its quotes stand on lines of their own where the value is long, has several lines or ends with
a character that would merge with the closing quotes. -/
def blockText (value : String) : String :=
  let cs := value.toList
  let escaped := escapeTriple cs
  let lines := Text.wideLines escaped
  let single := lines.length ≤ 1
  let startsIndented := (cs.head?.map isIndent).getD false
  let forceLeading := !single && (lines.drop 1).all fun line => (line.head?.map isIndent).getD true
  let trailingTriple := ['"', '"', '"', '\\'].isPrefixOf escaped.reverse
  let forceTrailing := (cs.getLast? == some '"' && !trailingTriple) || cs.getLast? == some '\\'
  let multiple := !single || cs.length > 70 || forceTrailing || forceLeading || trailingTriple
  let skipLeading := single && startsIndented
  let leading := if (multiple && !skipLeading) || forceLeading then ['\n'] else []
  let trailing := if multiple || forceTrailing then ['\n'] else []
  let quotes := ['"', '"', '"']
  String.ofList (quotes ++ leading ++ escaped ++ trailing ++ quotes)

/-! ### Lists and objects -/

/-- Parts between brackets: on one line if `taken` columns and the parts fit, else one part per line. -/
def layout (opening inner close : String) (taken : Nat) (parts : List String) : String :=
  let line := ", ".intercalate parts
  if taken + line.length > lineWidth then opening ++ "\n" ++ indentLines ("\n".intercalate parts) ++ "\n" ++ close
  else opening ++ inner ++ line ++ inner ++ close

mutual

/-- The text of a value. -/
def Value.text : Value → String
  | .int text => text
  | .float text => text
  | .string value block => if block then blockText value else stringText value
  | .boolean value => if value then "true" else "false"
  | .null => "null"
  | .enumeration name => name
  | .list items => layout "[" "" "]" 2 (itemTexts items)
  | .object fields => if fields.isEmpty then "\x7b  \x7d" else layout "\x7b" " " "\x7d" 4 (fieldTexts fields)
  | .variable name => "$" ++ name

/-- The texts of the items of a list. -/
def itemTexts : List Value → List String
  | [] => []
  | item :: items => item.text :: itemTexts items

/-- The texts of the fields of an object. -/
def fieldTexts : List (String × Value) → List String
  | [] => []
  | (name, value) :: fields => (name ++ ": " ++ value.text) :: fieldTexts fields

end

end SchemaBindings.Schema
