import SchemaBindings.Layout
import SchemaBindings.Proofs.SnakeCase
import SchemaBindings.Proofs.TextLines
import SchemaBindings.Source.Literal

/-!
# Docstrings read back

A text of the schema goes between three quotes with its backslashes doubled and its triple quotes escaped. Read as
source, such a docstring ends at the three quotes that have been put after it and nowhere before, and it denotes the
text, with a space after it if its last character is a quote. The same goes for the docstring of an operation, in
which remarks about defaults follow the description (`docstrings_read_back`).
-/

namespace SchemaBindings

/-! ### What a literal denotes -/

namespace Source

/-- What some characters stand for after a backslash; the end of a line stands for nothing. -/
def letterValue? : Char → Option (List Char)
  | '\n' => some []
  | '\\' => some ['\\']
  | '\'' => some ['\'']
  | '"' => some ['"']
  | 'a' => some ['\x07']
  | 'b' => some ['\x08']
  | 'f' => some ['\x0c']
  | 'n' => some ['\n']
  | 'r' => some ['\r']
  | 't' => some ['\t']
  | 'v' => some ['\x0b']
  | _ => none

/-- The number that digits of base eight denote. -/
def octalNumber (digits : List Char) : Nat := digits.foldl (fun n c => 8 * n + (c.toNat - '0'.toNat)) 0

/-- What an escape stands for, and how many characters it takes after its backslash. A backslash before a character
that means nothing there stands for itself. Escapes by the name of a character, and those of surrogates, are left
out. -/
def escape? : List Char → Option (List Char × Nat)
  | [] => none
  | c :: cs =>
    match letterValue? c with
    | some value => some (value, 1)
    | none =>
      if isOctalDigit c then
        let digits := c :: (cs.take 2).takeWhile isOctalDigit
        some ([Char.ofNat (octalNumber digits)], digits.length)
      else
        match escapeDigits? false c with
        | some count =>
          (Text.hexNumber? (cs.take count)).bind fun n =>
            if count ≤ cs.length && Text.isScalar n then some ([Char.ofNat n], count + 1) else none
        | none => if c == 'N' then none else some (['\\', c], 1)

/-- The text that the characters between the quotes of a literal denote. -/
def denoted? : List Char → Option (List Char)
  | [] => some []
  | c :: cs =>
    if c == '\\' then (escape? cs).bind fun e => (denoted? (cs.drop e.2)).map (e.1 ++ ·)
    else (denoted? cs).map (c :: ·)
termination_by cs => cs.length
decreasing_by all_goals simp only [List.length_cons, List.length_drop]; omega

/-- Three quotes. -/
def tripleQuotes : List Char := ['"', '"', '"']

/-- The text that the literal in three quotes at the front of source text denotes, and the text after it. -/
def docstringAt? (source : List Char) : Option (List Char × List Char) :=
  if source.contains '\x00' then none
  else do
    let body ← Text.after? tripleQuotes (Text.unifyLineEnds source)
    let (written, rest) ← untilQuotes? '"' true body
    return (← denoted? written, rest)

/-- Escapes by letter and by number, an end of a line that is left out, and a backslash that stands for itself. -/
example : docstringAt? "\"\"\"a\\x41\\\n\\101\\d\"\"\"\n".toList = some ("aAA\\d".toList, ['\n']) := by
  decide +kernel

/-! ### Steps of a reader -/

private theorem untilQuotes?_escaped (c : Char) (cs : List Char) :
    untilQuotes? '"' true ('\\' :: c :: cs) = (untilQuotes? '"' true cs).map fun r => ('\\' :: c :: r.1, r.2) := by
  rw [untilQuotes?]

private theorem untilQuotes?_cons {c : Char} (hback : c ≠ '\\') (hquote : c ≠ '"') (cs : List Char) :
    untilQuotes? '"' true (c :: cs) = (untilQuotes? '"' true cs).map fun r => (c :: r.1, r.2) := by
  rw [untilQuotes?]
  · simp [hquote]
  · exact fun _ _ h _ => hback h

private theorem untilQuotes?_quote {cs : List Char} (h : Text.after? ['"', '"'] cs = none) :
    untilQuotes? '"' true ('"' :: cs) = (untilQuotes? '"' true cs).map fun r => ('"' :: r.1, r.2) := by
  rw [untilQuotes?]
  · simp [h]
  · exact fun _ _ h _ => absurd h (by decide)

private theorem untilQuotes?_tripleQuotes (cs : List Char) :
    untilQuotes? '"' true (tripleQuotes ++ cs) = some ([], cs) := by
  rw [tripleQuotes, List.cons_append, untilQuotes?]
  · simp [Text.after?]
  · exact fun _ _ h _ => absurd h (by decide)

private theorem denoted?_cons {c : Char} (h : c ≠ '\\') (cs : List Char) :
    denoted? (c :: cs) = (denoted? cs).map (c :: ·) := by
  rw [denoted?, if_neg (by simpa using h)]

private theorem denoted?_escaped {c : Char} {value : List Char} (h : letterValue? c = some value) (cs : List Char) :
    denoted? ('\\' :: c :: cs) = (denoted? cs).map (value ++ ·) := by
  rw [denoted?, if_pos (by decide), escape?, h]
  rfl

/-! ### Texts that spell others -/

/-- Does the character stand for itself wherever it is in a literal? -/
def isPlain (c : Char) : Bool := c != '\\' && c != '"' && c != '\x00' && c != '\r'

/-- Does a reader go through the text, whatever follows, and find that it denotes the other one? -/
structure Spells (written value : List Char) : Prop where
  passes : ∀ tail, untilQuotes? '"' true (written ++ tail) =
    (untilQuotes? '"' true tail).map fun r => (written ++ r.1, r.2)
  denotes : ∀ tail, denoted? (written ++ tail) = (denoted? tail).map (value ++ ·)
  clean : '\x00' ∉ written ∧ '\r' ∉ written

namespace Spells

theorem nil : Spells [] [] where
  passes tail := by simp
  denotes tail := by simp
  clean := by simp

theorem append {written value written' value' : List Char} (h : Spells written value) (h' : Spells written' value') :
    Spells (written ++ written') (value ++ value') where
  passes tail := by
    rw [List.append_assoc, h.passes, h'.passes, Option.map_map]
    simp [Function.comp_def]
  denotes tail := by
    rw [List.append_assoc, h.denotes, h'.denotes, Option.map_map]
    simp [Function.comp_def]
  clean := by simp [h.clean, h'.clean]

/-- Characters that mean nothing special to a reader spell themselves. -/
theorem plain {cs : List Char} (h : cs.all isPlain = true) : Spells cs cs := by
  induction cs with
  | nil => exact nil
  | cons c cs ih =>
    rw [List.all_cons, Bool.and_eq_true] at h
    obtain ⟨hc, hcs⟩ := h
    obtain ⟨hback, hquote, hnull, hreturn⟩ : c ≠ '\\' ∧ c ≠ '"' ∧ c ≠ '\x00' ∧ c ≠ '\r' := by
      simpa [isPlain, and_assoc] using hc
    have hone : Spells [c] [c] :=
      { passes := fun tail => untilQuotes?_cons hback hquote tail
        denotes := fun tail => denoted?_cons hback tail
        clean := by simp [Ne.symm hnull, Ne.symm hreturn] }
    exact hone.append (ih hcs)

theorem flatten {α : Type} {written value : α → List Char} {l : List α} (h : ∀ a ∈ l, Spells (written a) (value a)) :
    Spells (l.flatMap written) (l.flatMap value) := by
  induction l with
  | nil => exact nil
  | cons a l ih =>
    obtain ⟨ha, hl⟩ := List.forall_mem_cons.1 h
    exact ha.append (ih hl)

end Spells

/-- A literal ends at the quotes after what spells a text, and denotes this text. -/
theorem docstringAt?_of_spells {written value rest : List Char} (h : Spells written value) (hrest : '\x00' ∉ rest) :
    docstringAt? (tripleQuotes ++ written ++ tripleQuotes ++ rest) = some (value, Text.unifyLineEnds rest) := by
  have hnull : (tripleQuotes ++ written ++ tripleQuotes ++ rest).contains '\x00' = false := by
    simp [tripleQuotes, h.clean.1, hrest]
  have hunified : Text.unifyLineEnds (tripleQuotes ++ written ++ tripleQuotes ++ rest) =
      tripleQuotes ++ (written ++ (tripleQuotes ++ Text.unifyLineEnds rest)) := by
    rw [Text.unifyLineEnds_append (by simp [tripleQuotes, h.clean.2])]
    simp
  have hbody (body : List Char) : Text.after? tripleQuotes (tripleQuotes ++ body) = some body := rfl
  have hvalue : denoted? written = some value := by simpa [denoted?] using h.denotes []
  rw [docstringAt?, hnull, hunified, hbody]
  simp [h.passes, untilQuotes?_tripleQuotes, hvalue]

end Source

/-! ### Escaped texts -/

namespace Naming

/-- A space keeps a last quote away from the quotes that close a docstring. -/
def spaceAfterQuote (cs : List Char) : List Char := if cs.getLast? == some '"' then [' '] else []

/-- What the docstring of a text denotes. -/
def spaced (text : String) : List Char := text.toList ++ spaceAfterQuote text.toList

/-- Can the text stand in source as it is? A zero character cannot, and a carriage return would become a line feed. -/
def IsReadable (text : String) : Prop := '\x00' ∉ text.toList ∧ '\r' ∉ text.toList

instance (text : String) : Decidable (IsReadable text) := inferInstanceAs (Decidable (_ ∧ _))

private theorem getLast?_escapeDocstring (cs : List Char) : (escapeDocstring cs).getLast? = cs.getLast? := by
  fun_induction escapeDocstring cs with
  | case1 => rfl
  | case2 cs ih => simp [List.getLast?_cons, ih]
  | case3 cs ih => simp [List.getLast?_cons, ih]
  | case4 c cs _ _ ih => simp [List.getLast?_cons, ih]

private theorem docstringChars_eq (cs : List Char) : docstringChars cs = escapeDocstring cs ++ spaceAfterQuote cs := by
  rw [docstringChars, getLast?_escapeDocstring, spaceAfterQuote]
  split <;> simp

private theorem mem_escapeDocstring {c : Char} {cs : List Char} (h : c ∈ escapeDocstring cs) : c = '\\' ∨ c ∈ cs := by
  fun_induction escapeDocstring cs with
  | case1 => cases h
  | case2 cs ih =>
    simp only [List.mem_cons] at h ⊢
    grind
  | case3 cs ih =>
    simp only [List.mem_cons] at h ⊢
    grind
  | case4 c' cs _ _ ih =>
    simp only [List.mem_cons] at h ⊢
    grind

/-- Escapes are undone. -/
private theorem denoted?_escapeDocstring (cs tail : List Char) :
    Source.denoted? (escapeDocstring cs ++ tail) = (Source.denoted? tail).map (cs ++ ·) := by
  have hback := @Source.denoted?_escaped '\\' _ rfl
  have hquote := @Source.denoted?_escaped '"' _ rfl
  fun_induction escapeDocstring cs with
  | case1 => simp
  | case2 cs ih =>
    simp only [List.cons_append, hquote, ih, Option.map_map]
    rfl
  | case3 cs ih =>
    simp only [List.cons_append, hback, ih, Option.map_map]
    rfl
  | case4 c cs _ hc ih =>
    rw [List.cons_append, Source.denoted?_cons hc, ih, Option.map_map]
    rfl

/-- Does a last quote of the text not meet another one after it? -/
def Apart (cs tail : List Char) : Prop := cs.getLast? = some '"' → tail.head? ≠ some '"'

private theorem Apart.of_append (before : List Char) {cs tail : List Char} (h : Apart (before ++ cs) tail) :
    Apart cs tail :=
  fun hlast => h (by rw [List.getLast?_append, hlast, Option.some_or])

/-- What does not start with a quote does not do so when it is escaped. -/
private theorem head?_escapeDocstring_append {cs tail : List Char} (h : cs.head? ≠ some '"')
    (htail : cs = [] → tail.head? ≠ some '"') : (escapeDocstring cs ++ tail).head? ≠ some '"' := by
  match cs with
  | [] => exact htail rfl
  | c :: cs =>
    have hc : c ≠ '"' := by simpa using h
    by_cases hback : c = '\\'
    · subst hback
      simp [escapeDocstring]
    · rw [escapeDocstring]
      · simpa using hc
      · exact fun _ h _ => hc h
      · exact hback

private theorem after?_quote_eq_none {quotes cs : List Char} (h : cs.head? ≠ some '"') :
    Text.after? ('"' :: quotes) cs = none := by
  cases cs with
  | nil => rfl
  | cons c cs =>
    have hc : ('"' == c) = false := by simpa using Ne.symm h
    rw [Text.after?, hc]
    rfl

/-- Two quotes do not come to stand after a quote that is no part of three in a row. -/
private theorem after?_escapeDocstring {cs tail : List Char} (h : ∀ cs', cs ≠ '"' :: '"' :: cs')
    (htail : Apart ('"' :: cs) tail) :
    Text.after? ['"', '"'] (escapeDocstring cs ++ tail) = none := by
  by_cases hfirst : cs.head? = some '"'
  · obtain ⟨rest, rfl⟩ := List.head?_eq_some_iff.1 hfirst
    have hrest : rest.head? ≠ some '"' := by
      intro hsecond
      obtain ⟨cs', rfl⟩ := List.head?_eq_some_iff.1 hsecond
      exact h cs' rfl
    have hstep : escapeDocstring ('"' :: rest) = '"' :: escapeDocstring rest := by
      rw [escapeDocstring]
      · exact fun cs' _ hcs' => h _ (congrArg ('"' :: ·) hcs')
      · decide
    rw [hstep, List.cons_append, Text.after?, if_pos (by decide)]
    refine after?_quote_eq_none (head?_escapeDocstring_append hrest fun he => htail ?_)
    rw [he]
    rfl
  · refine after?_quote_eq_none (head?_escapeDocstring_append hfirst fun he => htail ?_)
    rw [he]
    rfl

/-- A reader goes through an escaped text, unless a last quote meets others after it. -/
private theorem untilQuotes?_escapeDocstring {cs tail : List Char} (h : Apart cs tail) :
    Source.untilQuotes? '"' true (escapeDocstring cs ++ tail) =
      (Source.untilQuotes? '"' true tail).map fun r => (escapeDocstring cs ++ r.1, r.2) := by
  fun_induction escapeDocstring cs with
  | case1 => simp
  | case2 cs ih =>
    have hrest : Apart cs tail := .of_append ['"', '"', '"'] h
    simp only [List.cons_append, Source.untilQuotes?_escaped, ih hrest, Option.map_map]
    rfl
  | case3 cs ih =>
    have hrest : Apart cs tail := .of_append ['\\'] h
    simp only [List.cons_append, Source.untilQuotes?_escaped, ih hrest, Option.map_map]
    rfl
  | case4 c cs hthree hc ih =>
    have hrest : Apart cs tail := .of_append [c] h
    by_cases hquote : c = '"'
    -- A quote that has been left as it is has no two others after it, neither in the text nor where the text ends.
    · subst hquote
      have hnone := after?_escapeDocstring (fun cs' he => hthree cs' rfl he) h
      rw [List.cons_append, Source.untilQuotes?_quote hnone, ih hrest, Option.map_map]
      rfl
    · rw [List.cons_append, Source.untilQuotes?_cons hc hquote, ih hrest, Option.map_map]
      rfl

/-- The text of a docstring spells the text that it has been made of. -/
theorem spells_docstringChars {text : String} (h : IsReadable text) :
    Source.Spells (docstringChars text.toList) (spaced text) := by
  have hspace : Source.Spells (spaceAfterQuote text.toList) (spaceAfterQuote text.toList) := by
    rw [spaceAfterQuote]
    split
    · exact .plain (by decide)
    · exact .nil
  have hapart (tail : List Char) : Apart text.toList (spaceAfterQuote text.toList ++ tail) := by
    intro hlast
    simp [spaceAfterQuote, hlast]
  rw [docstringChars_eq, spaced]
  refine ⟨fun tail => ?_, fun tail => ?_, ?_⟩
  · rw [List.append_assoc, untilQuotes?_escapeDocstring (hapart tail), hspace.passes, Option.map_map]
    simp [Function.comp_def]
  · rw [List.append_assoc, denoted?_escapeDocstring, hspace.denotes, Option.map_map]
    simp [Function.comp_def]
  · have hescaped {c : Char} (hc : c ≠ '\\') (hmem : c ∉ text.toList) : c ∉ escapeDocstring text.toList :=
      fun hmem' => (mem_escapeDocstring hmem').elim hc hmem
    simp [hspace.clean, hescaped (by decide) h.1, hescaped (by decide) h.2]

end Naming

/-! ### Docstrings of operations -/

namespace Layout

/-- What a remark about a default denotes. -/
def defaultRemarkText (a : Argument) : List Char :=
  match nonempty? a.default with
  | some value => (" Default " ++ a.name ++ ": ").toList ++ Naming.spaced value ++ ['.']
  | none => []

/-- What the docstring of an operation denotes: its description or what it is, and its defaults. -/
def operationDocText (root : String) (o : Operation) : List Char :=
  (match nonempty? o.description with
    | some description => Naming.spaced description
    | none => ("GraphQL " ++ operationKind root ++ " `" ++ o.name ++ "`.").toList) ++
    o.arguments.flatMap defaultRemarkText

private theorem spells_of_isWord {name : String} (h : Naming.IsWord name) : Source.Spells name.toList name.toList := by
  refine .plain (List.all_eq_true.2 fun c hc => ?_)
  exact Naming.of_isNameChar (P := fun c => Source.isPlain c = true) (by decide +kernel) (h.2 c hc)

private theorem spells_safeDocstring {text : String} (h : Naming.IsReadable text) :
    Source.Spells (Naming.safeDocstring text).toList (Naming.spaced text) := by
  rw [Naming.safeDocstring, String.toList_ofList]
  exact Naming.spells_docstringChars h

private theorem eq_some_of_nonempty? {text : Option String} {value : String} (h : nonempty? text = some value) :
    value ∈ text := (Option.filter_eq_some_iff.1 h).1

private theorem spells_defaultRemark {a : Argument} (hname : Naming.IsWord a.name)
    (hdefault : ∀ value ∈ a.default, Naming.IsReadable value) :
    Source.Spells (defaultRemark a).toList (defaultRemarkText a) := by
  unfold defaultRemark defaultRemarkText
  cases hvalue : nonempty? a.default with
  | none => exact .nil
  | some value =>
    have hbefore : Source.Spells " Default ".toList " Default ".toList := .plain (by decide)
    have hcolon : Source.Spells ": ".toList ": ".toList := .plain (by decide)
    have hend : Source.Spells ".".toList ['.'] := .plain (by decide)
    have hescaped := spells_safeDocstring (hdefault value (eq_some_of_nonempty? hvalue))
    simp only [String.toList_append]
    exact (((hbefore.append (spells_of_isWord hname)).append hcolon).append hescaped).append hend

private theorem spells_operationKind {root : String} (h : Naming.isRoot root = true) :
    Source.Spells (operationKind root).toList (operationKind root).toList := by
  have hplain : ∀ root ∈ ["Query", "Mutation", "Subscription"],
      (operationKind root).toList.all Source.isPlain = true := by decide +kernel
  exact .plain (hplain root (by simpa [Naming.isRoot] using h))

private theorem spells_operationDoc {root : String} {o : Operation} (hroot : Naming.isRoot root = true)
    (hname : Naming.IsWord o.name) (hdescription : ∀ text ∈ o.description, Naming.IsReadable text)
    (harguments : ∀ a ∈ o.arguments, Naming.IsWord a.name ∧ ∀ value ∈ a.default, Naming.IsReadable value) :
    Source.Spells (operationDoc root o).toList (operationDocText root o) := by
  have hremarks : Source.Spells (String.join (o.arguments.map defaultRemark)).toList
      (o.arguments.flatMap defaultRemarkText) := by
    rw [String.toList_join, List.flatMap_map]
    exact .flatten fun a ha => spells_defaultRemark (harguments a ha).1 (harguments a ha).2
  unfold operationDoc operationDocText
  rw [String.toList_append]
  refine Source.Spells.append ?_ hremarks
  cases hsubject : nonempty? o.description with
  | none =>
    have hbefore : Source.Spells "GraphQL ".toList "GraphQL ".toList := .plain (by decide)
    have hmiddle : Source.Spells " `".toList " `".toList := .plain (by decide)
    have hend : Source.Spells "`.".toList "`.".toList := .plain (by decide)
    simp only [String.toList_append]
    exact (((hbefore.append (spells_operationKind hroot)).append hmiddle).append (spells_of_isWord hname)).append hend
  | some text => exact spells_safeDocstring (hdescription text (eq_some_of_nonempty? hsubject))

/-- A docstring ends at its last quotes, whatever source text follows, and denotes what it has been made of. For a text
this is the text, with a space after a last quote. For an operation it is the description, or the kind and the name of
the operation, and then the name and the value of each default. -/
theorem docstrings_read_back {rest : List Char} (hrest : '\x00' ∉ rest) :
    (∀ text, Naming.IsReadable text →
      Source.docstringAt? ((docstring text).toList ++ rest) = some (Naming.spaced text, Text.unifyLineEnds rest)) ∧
    ∀ root (o : Operation), Naming.isRoot root = true → Naming.IsWord o.name →
      (∀ text ∈ o.description, Naming.IsReadable text) →
      (∀ a ∈ o.arguments, Naming.IsWord a.name ∧ ∀ value ∈ a.default, Naming.IsReadable value) →
      Source.docstringAt? ((quotedDoc (operationDoc root o)).toList ++ rest) =
        some (operationDocText root o, Text.unifyLineEnds rest) := by
  have hquoted (escaped : String) : (quotedDoc escaped).toList =
      Source.tripleQuotes ++ escaped.toList ++ Source.tripleQuotes := by
    simp [quotedDoc, Source.tripleQuotes]
  refine ⟨fun text htext => ?_, fun root o hroot hname hdescription harguments => ?_⟩
  · rw [docstring, hquoted]
    exact Source.docstringAt?_of_spells (spells_safeDocstring htext) hrest
  · rw [hquoted]
    exact Source.docstringAt?_of_spells (spells_operationDoc hroot hname hdescription harguments) hrest

/-- Quotes in a row, quotes next to backslashes, and a description that ends with a quote before a default that does. -/
theorem docstrings_of_quotes :
    let string : Reference := .plain "String" "str" .builtin
    let parameter : Argument :=
      { name := "first", parameter := "first", type := string, default := some "\"a\"", description := none }
    let operation : Operation :=
      { name := "users", method := "users", returnType := string, arguments := [parameter],
        description := some "Say \"x\"" }
    Source.docstringAt? (docstring "\"\"\"\"\\\"\"\"").toList = some ("\"\"\"\"\\\"\"\" ".toList, []) ∧
      Source.docstringAt? (quotedDoc (operationDoc "Query" operation)).toList =
        some ("Say \"x\"  Default first: \"a\" .".toList, []) := by
  intro string parameter operation
  obtain ⟨htexts, hoperations⟩ := @docstrings_read_back [] (by decide)
  have htext := htexts "\"\"\"\"\\\"\"\"" (by decide +kernel)
  have hoperation :=
    hoperations "Query" operation (by decide) (by decide +kernel) (by decide +kernel) (by decide +kernel)
  rw [List.append_nil] at htext hoperation
  exact ⟨htext.trans (by decide +kernel), hoperation.trans (by decide +kernel)⟩

end Layout

end SchemaBindings
