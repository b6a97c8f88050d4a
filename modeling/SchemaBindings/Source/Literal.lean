import SchemaBindings.Source.Number

/-!
# String literals of generated source text

A string literal has letters for its kind, then single or double quotes, one or three. Three quotes let it span
lines. Unless it is raw, escapes must be complete. A literal may fill in expressions between braces.
-/

namespace SchemaBindings.Source

/-- What the letters before the quotes say. -/
structure LiteralKind where
  raw : Bool
  bytes : Bool
  filled : Bool
  deriving DecidableEq, Repr, Inhabited

/-- The kind that letters before the quotes stand for. -/
def kindOfLetters? (letters : List Char) : Option LiteralKind :=
  match letters.map Char.toLower with
  | [] | ['u'] => some ⟨false, false, false⟩
  | ['r'] => some ⟨true, false, false⟩
  | ['b'] => some ⟨false, true, false⟩
  | ['f'] => some ⟨false, false, true⟩
  | ['b', 'r'] | ['r', 'b'] => some ⟨true, true, false⟩
  | ['f', 'r'] | ['r', 'f'] => some ⟨true, false, true⟩
  | _ => none

/-! ### The end of a literal -/

/-- The characters before the closing quotes and the text after those. A backslash protects the next character. -/
def untilQuotes? (quote : Char) (triple : Bool) : List Char → Option (List Char × List Char)
  | [] => none
  | '\\' :: c :: cs => (untilQuotes? quote triple cs).map fun r => ('\\' :: c :: r.1, r.2)
  | c :: cs =>
    if c == quote then
      if !triple then some ([], cs)
      else match Text.after? [quote, quote] cs with
        | some rest => some ([], rest)
        | none => (untilQuotes? quote triple cs).map fun r => (c :: r.1, r.2)
    else if c == '\n' && !triple then none
    else (untilQuotes? quote triple cs).map fun r => (c :: r.1, r.2)

/-! ### Escapes -/

/-- How many hexadecimal digits an escape has after its letter. -/
def escapeDigits? (bytes : Bool) : Char → Option Nat
  | 'x' => some 2
  | 'u' => if bytes then none else some 4
  | 'U' => if bytes then none else some 8
  | _ => none

/-- Is a name in braces at the front? -/
def startsWithNamed : List Char → Bool
  | '\x7b' :: cs => let name := cs.takeWhile (· != '\x7d'); !name.isEmpty && name.length < cs.length
  | _ => false

/-- Are the escapes complete? -/
def escapesComplete (bytes : Bool) : List Char → Bool
  | [] => true
  | '\\' :: c :: cs =>
    (match escapeDigits? bytes c with
      | some count =>
        let digits := cs.take count
        digits.length == count && (Text.hexNumber? digits).any (· < 0x110000)
      | none => c != 'N' || bytes || startsWithNamed cs) && escapesComplete bytes cs
  | _ :: cs => escapesComplete bytes cs

/-! ### Expressions to be filled in -/

/-- How far a text has been followed that may hold brackets and quoted parts. -/
structure Nesting where
  /-- The brackets that must close, the innermost first. -/
  brackets : List Char
  /-- The quotes around the current part. -/
  quotes : List Char
  deriving DecidableEq, Repr, Inhabited

/-- Does a character end an expression that no bracket or quote encloses? A sign of comparison does not. -/
def endsExpression (c : Char) (next : Option Char) : Bool :=
  (c == '!' || c == '=') && next != some '=' || c == ':' || c == '\x7d'

/-- The expression at the front and the text after it. -/
def expressionAt? : Nat → Nesting → List Char → Option (List Char × List Char)
  | 0, _, _ => none
  | _, _, [] => none
  | fuel + 1, nesting, c :: cs =>
    let onward (taken : List Char) (nesting : Nesting) (rest : List Char) :=
      (expressionAt? fuel nesting rest).map fun r => (taken ++ r.1, r.2)
    if c == '\\' then none
    else match nesting.quotes with
      | q :: _ =>
        if c == q then
          match Text.after? nesting.quotes (c :: cs) with
          | some rest => onward nesting.quotes { nesting with quotes := [] } rest
          | none => onward [c] nesting cs
        else onward [c] nesting cs
      | [] =>
        if c == '\'' || c == '"' then
          match Text.after? [c, c] cs with
          | some rest => onward [c, c, c] { nesting with quotes := [c, c, c] } rest
          | none => onward [c] { nesting with quotes := [c] } cs
        else if c == '#' then none
        else match closing? c with
          | some close =>
            if nesting.brackets.length < maxBrackets then
              onward [c] { nesting with brackets := close :: nesting.brackets } cs
            else none
          | none =>
            match nesting.brackets with
            | [] =>
              if endsExpression c cs.head? then some ([], c :: cs)
              else if isClosing c then none
              else if (c == '!' || c == '=' || c == '<' || c == '>') && cs.head? == some '=' then
                onward [c, '='] nesting (cs.drop 1)
              else onward [c] nesting cs
            | close :: outer =>
              if isClosing c then
                if c == close then onward [c] { nesting with brackets := outer } cs else none
              else onward [c] nesting cs

/-- Blanks that may stand around an expression. -/
def isPlainBlank (c : Char) : Bool := c == ' ' || c == '\t' || c == '\n' || c == '\x0c' || c == '\r'

/-- The text after an equals sign that asks to show the expression itself, and after the blanks there. -/
def afterShown : List Char → List Char
  | '=' :: cs => cs.dropWhile fun c => isPlainBlank c || c == '\x0b'
  | cs => cs

/-- The text after the letter of a conversion, or all of it if there is none. -/
def afterConversion? : List Char → Option (List Char)
  | '!' :: c :: cs => if c == 's' || c == 'r' || c == 'a' then some cs else none
  | '!' :: [] => none
  | cs => some cs

/-- The expressions of a literal with a text after them. A format after an expression, which is read with `depth` one
higher, may fill in expressions too; it ends at the brace that closes its field. -/
def fieldsFrom : Nat → Bool → Nat → List Char → Option (List (List Char) × List Char)
  | 0, _, _, _ => none
  | _, _, _, [] => some ([], [])
  | fuel + 1, raw, depth, c :: cs =>
    if c == '\\' && !raw && cs.head? == some 'N' then
      match cs.drop 1 with
      | '\x7b' :: named => fieldsFrom fuel raw depth ((named.dropWhile (· != '\x7d')).drop 1)
      | rest => fieldsFrom fuel raw depth rest
    else if c == '\\' && !raw && cs.head? != some '\x7b' && cs.head? != some '\x7d' then
      fieldsFrom fuel raw depth (cs.drop 1)
    else if c == '\x7b' then
      if depth == 0 && cs.head? == some c then fieldsFrom fuel raw depth (cs.drop 1)
      else if depth ≥ 2 then none
      else do
        let (expression, afterExpression) ← expressionAt? (cs.length + 1) ⟨[], []⟩ cs
        if expression.all isPlainBlank then none
        else
          let afterKind ← afterConversion? (afterShown afterExpression)
          let (inner, rest) ←
            match afterKind with
            | ':' :: format => fieldsFrom fuel raw (depth + 1) format
            | _ => some ([], afterKind)
          match rest with
          | '\x7d' :: onward =>
            let (others, last) ← fieldsFrom fuel raw depth onward
            return (expression :: inner ++ others, last)
          | _ => none
    else if c == '\x7d' then
      if depth == 0 then
        if cs.head? == some c then fieldsFrom fuel raw depth (cs.drop 1) else none
      else some ([], c :: cs)
    else fieldsFrom fuel raw depth cs

/-- The expressions that a literal fills in. -/
def fields? (raw : Bool) (cs : List Char) : Option (List (List Char)) :=
  match fieldsFrom (cs.length + 1) raw 0 cs with
  | some (fields, []) => some fields
  | _ => none

/-! ### Literals -/

/-- The expressions of a literal, unless its characters are at fault. -/
def LiteralKind.fields? (kind : LiteralKind) (cs : List Char) : Option (List (List Char)) :=
  if kind.bytes && cs.any (fun c => c.toNat ≥ 0x80) then none
  else if !kind.raw && !escapesComplete kind.bytes cs then none
  else if kind.filled then Source.fields? kind.raw cs
  else some []

/-- The literal whose quotes are at the front, and the text after it. -/
def literal? (kind : LiteralKind) : List Char → Option (Token × List Char)
  | [] => none
  | quote :: cs => do
    let (triple, body) := match Text.after? [quote, quote] cs with
      | some rest => (true, rest)
      | none => (false, cs)
    let (characters, rest) ← untilQuotes? quote triple body
    let fields ← kind.fields? characters
    return (.literal kind.bytes fields, rest)

end SchemaBindings.Source
