import SchemaBindings.Ascending
import SchemaBindings.Text.Word

/-!
# Custom targets

A schema type may be given a custom target: either a dotted name, which is imported from the module before its last
dot, or any other type expression, which is used as it stands after importing the modules it mentions.

A component is an ASCII letter or low line and the word characters after it; a chain is made of components joined by
dots. A dotted name is a chain of at least two components that is the whole text. An expression mentions the module
part of each longest chain of at least two components that neither a word character nor a dot precedes.
-/

namespace SchemaBindings.Target

/-- The component at the front and the text after it. -/
def component? : List Char → Option (List Char × List Char)
  | [] => none
  | c :: cs => if Text.isNameStart c then some (c :: cs.takeWhile Text.isWord, cs.dropWhile Text.isWord) else none

/-- What follows a component is shorter than the text. -/
theorem length_lt_of_component? {cs component rest : List Char} (h : component? cs = some (component, rest)) :
    rest.length < cs.length := by
  match cs, h with
  | c :: cs, h =>
    simp only [component?] at h
    split at h
    · have e : cs.dropWhile Text.isWord = rest := by simpa using congrArg Prod.snd (Option.some.inj h)
      have := (List.dropWhile_sublist (l := cs) Text.isWord).length_le
      rw [← e, List.length_cons]
      omega
    · cases h

/-- The components that follow, each after a dot, and the text after them. -/
def moreComponents (cs : List Char) : List (List Char) × List Char :=
  match cs with
  | '.' :: afterDot =>
    match h : component? afterDot with
    | some (component, rest) =>
      have := length_lt_of_component? h
      let (components, last) := moreComponents rest
      (component :: components, last)
    | none => ([], '.' :: afterDot)
  | _ => ([], cs)
termination_by cs.length
decreasing_by simp only [List.length_cons]; omega

/-- The longest chain at the front and the text after it. -/
def chain? (cs : List Char) : Option (List (List Char) × List Char) :=
  (component? cs).map fun (component, rest) =>
    let (components, last) := moreComponents rest
    (component :: components, last)

/-- Components joined by dots. -/
def dotted (components : List (List Char)) : String := String.ofList (['.'].intercalate components)

/-- The module and the name of a dotted name. -/
def split? (target : String) : Option (String × String) :=
  match chain? target.toList with
  | some (components, []) =>
    if 2 ≤ components.length then some (dotted components.dropLast, String.ofList (components.getLastD []))
    else none
  | _ => none

/-- May a chain start after this character? -/
def startsChainAfter : Option Char → Bool
  | none => true
  | some c => !(Text.isWord c || c == '.')

/-- The modules that a text mentions, in order, where `before` is the character before it. The text has at most
`fuel` characters. -/
def mentionedFrom : Nat → Option Char → List Char → List String
  | 0, _, _ => []
  | _, _, [] => []
  | fuel + 1, before, c :: cs =>
    match if startsChainAfter before then chain? (c :: cs) else none with
    | some (components, rest) =>
      let onward := mentionedFrom fuel ((components.getLastD []).getLast?) rest
      if 2 ≤ components.length then dotted components.dropLast :: onward else onward
    | none => mentionedFrom fuel (some c) cs

/-- The modules that an expression mentions, each once, in ascending order. -/
def modules (target : String) : List String :=
  let cs := target.toList
  ascendingTexts (mentionedFrom (cs.length + 1) none cs)

end SchemaBindings.Target
