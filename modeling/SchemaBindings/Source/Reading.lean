import SchemaBindings.Naming
import SchemaBindings.Source.Lexer

/-!
# Reading source tokens

A reader takes tokens from the front of a list, or refuses them. Readers carry a setting: what the enclosing text
allows, and a bound for every repetition.
-/

namespace SchemaBindings.Source

/-- What the enclosing text allows. -/
structure Setting where
  /-- No repetition runs more often. -/
  bound : Nat
  /-- Annotations are kept as they are written, and not evaluated. -/
  keepsAnnotations : Bool := false
  /-- A function can be left or yield values here. -/
  inFunction : Bool := false
  /-- The function can wait here. -/
  inWaiting : Bool := false
  /-- A loop can be left here. -/
  inLoop : Bool := false
  /-- The text is not evaluated in its place: it cannot wait, yield values or bind names. -/
  inAnnotation : Bool := false
  /-- The text is what a comprehension runs over: it cannot bind names. -/
  inIterable : Bool := false
  /-- The text is no part of a class or function. -/
  outermost : Bool := true
  deriving Repr, Inhabited

namespace Setting

/-- The setting of a function's body. -/
def body (s : Setting) (waiting : Bool) : Setting :=
  { s with inFunction := true, inWaiting := waiting, inLoop := false, inAnnotation := false, outermost := false }

/-- The setting of a class. -/
def members (s : Setting) : Setting :=
  { s with inFunction := false, inWaiting := false, inLoop := false, outermost := false }

/-- The setting of a loop. -/
def loop (s : Setting) : Setting := { s with inLoop := true }

/-- The setting of an annotation. -/
def annotation (s : Setting) : Setting := { s with inAnnotation := s.keepsAnnotations }

/-- The setting of what a comprehension runs over. -/
def iterable (s : Setting) : Setting := { s with inIterable := true }

end Setting

/-- A reader takes tokens from the front of a list, or refuses them. -/
abbrev Reader := StateT (List Token) Option

namespace Reader

/-- The token at the front. -/
def current : Reader (Option Token) := do return (← get).head?

/-- The token after the one at the front. -/
def ahead : Reader (Option Token) := do return ((← get).drop 1).head?

/-- Steps over the token at the front. -/
def advance : Reader Unit := modify (·.drop 1)

/-- Is this token at the front? -/
def sees (t : Token) : Reader Bool := do return (← current) == some t

/-- Steps over a token if it is at the front, and tells whether it was. -/
def skip (t : Token) : Reader Bool := do
  if ← sees t then advance; return true else return false

/-- Steps over a token that must be at the front. -/
def expect (t : Token) : Reader Unit := do
  unless ← skip t do failure

/-- Is this mark at the front? -/
def seesMark (m : String) : Reader Bool := sees (.mark m)

/-- Steps over a mark if it is at the front. -/
def skipMark (m : String) : Reader Bool := skip (.mark m)

/-- Steps over a mark that must be at the front. -/
def expectMark (m : String) : Reader Unit := expect (.mark m)

/-- Is this word at the front? -/
def seesWord (w : String) : Reader Bool := sees (.name w)

/-- Steps over a word if it is at the front. -/
def skipWord (w : String) : Reader Bool := skip (.name w)

/-- Steps over a word that must be at the front. -/
def expectWord (w : String) : Reader Unit := expect (.name w)

/-- Steps over one of some marks, and tells whether one was at the front. -/
def skipAnyMark (ms : List String) : Reader Bool := do
  match ← current with
  | some (.mark m) => if ms.contains m then advance; return true else return false
  | _ => return false

/-- Refuses unless something holds. -/
def require (b : Bool) : Reader Unit := if b then pure () else failure

/-- A name that is not reserved. -/
def identifier : Reader String := do
  match ← current with
  | some (.name text) => if Naming.isKeyword text then failure else advance; return text
  | _ => failure

/-- The one name that can be used but never be bound. -/
def unbindable : String := "__debug__"

/-- A name to be bound. -/
def binding : Reader String := do
  let text ← identifier
  require (text != unbindable)
  return text

/-! ### Repetition -/

/-- Repeats a step for as long as it returns something to go on with, at most `fuel` times. -/
def iterate {α : Type} (step : α → Reader (Option α)) : Nat → α → Reader α
  | 0, _ => failure
  | fuel + 1, a => do
    match ← step a with
    | none => return a
    | some b => iterate step fuel b

/-- Repeats a step for as long as it says that it has found something. -/
def repeated (s : Setting) (step : Reader Bool) : Reader Unit :=
  iterate (fun _ => do if ← step then return some () else return none) (s.bound + 1) ()

/-- Items that each follow a comma; `more` tells after a comma whether one does. The flag says that there was a
comma. -/
def commaTail {α : Type} (s : Setting) (more : Reader Bool) (item : Reader α) : Reader (List α × Bool) := do
  let step (found : List α × Bool × Bool) : Reader (Option (List α × Bool × Bool)) := do
    if found.2.2 then return none
    else if ← skipMark "," then
      if ← more then return some ((← item) :: found.1, true, false) else return some (found.1, true, true)
    else return none
  let found ← iterate step (s.bound + 2) ([], false, false)
  return (found.1.reverse, found.2.1)

/-- One item or more with commas between them, and maybe a comma at the end. -/
def commaSeparated {α : Type} (s : Setting) (more : Reader Bool) (item : Reader α) : Reader (List α × Bool) := do
  let first ← item
  let (others, comma) ← commaTail s more item
  return (first :: others, comma)

/-- One item or more with commas between them and no comma at the end. -/
def commaStrict {α : Type} (s : Setting) (item : Reader α) : Reader (List α) := do
  return (← commaSeparated s (pure true) item).1

end Reader

end SchemaBindings.Source
