import SchemaBindings.Proofs.Meaning
import SchemaBindings.Schema.Grammar

/-!
# Levels of types

A schema writes a type from the inside out: a name, put into lists and marked where null is refused. Reading keeps
for each level whether it is marked (`typeExprWithin_tokens`), and a resolved reference keeps these marks as flags, the
outermost first. Nothing gets lost: the flags and the name give the written type back, and the annotation is the
written type with each level translated in its place (`resolve_of_wellFormed`).
-/

namespace SchemaBindings

open Schema

/-! ### Written types -/

/-- A type as it is written: a name, a list, or a type with the mark that refuses null. -/
inductive Schema.WrittenType
  | named (name : String)
  | list (item : WrittenType)
  | marked (type : WrittenType)
  deriving DecidableEq, Repr

namespace Schema.WrittenType

/-- Is the outermost level marked? -/
def isMarked : WrittenType → Bool
  | marked _ => true
  | _ => false

/-- Is no level marked twice? -/
def WellFormed : WrittenType → Prop
  | named _ => True
  | list item => item.WellFormed
  | marked type => type.isMarked = false ∧ type.WellFormed

instance decidableWellFormed : (t : WrittenType) → Decidable t.WellFormed
  | named _ => inferInstanceAs (Decidable True)
  | list item => decidableWellFormed item
  | marked type =>
    have := decidableWellFormed type
    inferInstanceAs (Decidable (type.isMarked = false ∧ type.WellFormed))

/-- The name inside. -/
def name : WrittenType → String
  | named name => name
  | list item => item.name
  | marked type => type.name

/-- What is read from a written type, where `required` tells of a mark around it. -/
def readWith (required : Bool) : WrittenType → TypeExpr
  | named name => .named name required
  | list item => .list (item.readWith false) required
  | marked type => type.readWith true

/-- What is read from a written type. -/
def read (t : WrittenType) : TypeExpr := t.readWith false

/-- Puts the mark around a type, if it is asked for. -/
def markIf (required : Bool) (t : WrittenType) : WrittenType := if required then marked t else t

/-- The written type with a name inside and some flags, the outermost first. -/
def ofFlags (name : String) : Bool → List Bool → WrittenType
  | required, [] => markIf required (named name)
  | required, itemRequired :: items => markIf required (list (ofFlags name itemRequired items))

/-- The tokens that a type is written with. -/
def tokens : WrittenType → List Token
  | named name => [.name name]
  | list item => .mark .bracketL :: item.tokens ++ [.mark .bracketR]
  | marked type => type.tokens ++ [.mark .bang]

/-- How many lists the name stands in. -/
def depth : WrittenType → Nat
  | named _ => 0
  | list item => item.depth + 1
  | marked type => type.depth

/-- The text of a type apart from its own null: `target` for the name, and lists around the texts of their items. -/
def bareText (target : String) : WrittenType → String
  | named _ => target
  | list item => "list[" ++ (if item.isMarked then item.bareText target else item.bareText target ++ " | None") ++ "]"
  | marked type => type.bareText target

/-- The text of a type: one that is not marked may be null. -/
def text (target : String) (t : WrittenType) : String :=
  if t.isMarked then t.bareText target else t.bareText target ++ " | None"

end Schema.WrittenType

/-- The only well-formed way to write what has been read. -/
def Schema.TypeExpr.written : TypeExpr → WrittenType
  | named name required => .markIf required (.named name)
  | list item required => .markIf required (.list item.written)

/-! ### Reading tokens -/

namespace Schema.Reader

/-- Does no fault stand at the front? -/
def Readable (tokens : List Token) : Prop := ∀ fault, tokens.head? ≠ some (.malformed fault)

variable {α β : Type} {tokens rest : List Token}

theorem bind_of_ok {x : Reader α} {a : α} (h : x tokens = .ok (a, rest)) (f : α → Reader β) :
    (x >>= f) tokens = f a rest := by
  show (x tokens >>= fun read => f read.1 read.2) = _
  rw [h]
  rfl

theorem advance_cons (h : Readable tokens) (token : Token) : advance (token :: tokens) = .ok ((), tokens) := by
  cases tokens with
  | nil => rfl
  | cons next rest =>
    cases next with
    | malformed fault => exact absurd rfl (h fault)
    | _ => rfl

theorem name_cons (h : Readable tokens) (n : String) : name (.name n :: tokens) = .ok (n, tokens) :=
  bind_of_ok (advance_cons h (.name n)) fun _ => pure n

theorem skipMark_cons (h : Readable tokens) (m : Mark) : skipMark m (.mark m :: tokens) = .ok (true, tokens) := by
  have hat : atMark m (.mark m :: tokens) = .ok (true, .mark m :: tokens) := by
    show Except.ok ((Token.mark m == Token.mark m), Token.mark m :: tokens) = _
    rw [beq_self_eq_true]
  rw [skipMark, bind_of_ok hat]
  exact bind_of_ok (advance_cons h (.mark m)) fun _ => pure true

theorem skipMark_of_ne {m : Mark} (h : tokens.head? ≠ some (.mark m)) : skipMark m tokens = .ok (false, tokens) := by
  have hat : atMark m tokens = .ok (false, tokens) := by
    show Except.ok ((tokens.headD .finish == Token.mark m), tokens) = _
    have hne : (tokens.headD .finish == Token.mark m) = false := by
      cases tokens with
      | nil => rfl
      | cons token tokens => exact beq_eq_false_iff_ne.2 fun he => h (congrArg some he)
    rw [hne]
  rw [skipMark, bind_of_ok hat]
  rfl

end Schema.Reader

namespace Schema.WrittenType

open SchemaBindings.Schema.Reader (Readable bind_of_ok name_cons skipMark skipMark_cons skipMark_of_ne expectMark
  typeExprWithin)

theorem readable_tokens (t : WrittenType) (rest : List Token) : Readable (t.tokens ++ rest) := by
  induction t generalizing rest with
  | named name => exact nofun
  | list item => exact nofun
  | marked type ih =>
    rw [tokens, List.append_assoc]
    exact ih _

theorem tokens_markIf (required : Bool) (t : WrittenType) :
    (markIf required t).tokens = t.tokens ++ if required then [.mark .bang] else [] := by
  cases required
  · exact (List.append_nil _).symm
  · rfl

private theorem skipMark_bang {required : Bool} {rest : List Token} (hrest : Readable rest)
    (hbang : required = false → rest.head? ≠ some (.mark .bang)) :
    skipMark .bang ((if required then [.mark .bang] else []) ++ rest) = .ok (required, rest) := by
  cases required with
  | false => exact skipMark_of_ne (hbang rfl)
  | true => exact skipMark_cons hrest .bang

private theorem readable_bang {rest : List Token} (hrest : Readable rest) (required : Bool) :
    Readable ((if required then [.mark .bang] else []) ++ rest) := by
  cases required
  · exact hrest
  · exact nofun

/-- The reader of types reads a written type and nothing after it, if there is room for its lists. -/
theorem typeExprWithin_tokens {t : WrittenType} (ht : t.WellFormed) {required : Bool}
    (hmark : required = true → t.isMarked = false) {room : Nat} (hroom : t.depth ≤ room) {rest : List Token}
    (hrest : Readable rest) (hbang : required = false → rest.head? ≠ some (.mark .bang)) :
    typeExprWithin room ((markIf required t).tokens ++ rest) = .ok (t.readWith required, rest) := by
  induction t generalizing required room rest with
  | named typeName =>
    have hname : (do return .named (← Reader.name) (← skipMark .bang) : Reader TypeExpr)
        (.name typeName :: ((if required then [.mark .bang] else []) ++ rest)) =
          .ok (.named typeName required, rest) := by
      rw [bind_of_ok (name_cons (readable_bang hrest required) typeName)]
      exact bind_of_ok (skipMark_bang hrest hbang) fun required => pure (TypeExpr.named typeName required)
    rw [tokens_markIf, List.append_assoc]
    cases room <;> exact hname
  | list item ih =>
    obtain ⟨room, rfl⟩ : ∃ r, room = r + 1 := ⟨room - 1, by simp only [depth] at hroom; omega⟩
    have hitem := @ih ht false nofun room (Nat.le_of_succ_le_succ hroom)
      (.mark .bracketR :: ((if required then [.mark .bang] else []) ++ rest)) nofun nofun
    have hclose : expectMark .bracketR (.mark .bracketR :: ((if required then [.mark .bang] else []) ++ rest)) =
        .ok ((), (if required then [.mark .bang] else []) ++ rest) :=
      bind_of_ok (skipMark_cons (readable_bang hrest required) .bracketR) _
    rw [tokens_markIf, List.append_assoc, tokens, List.cons_append, List.cons_append, List.append_assoc, typeExprWithin,
      bind_of_ok (skipMark_cons (readable_tokens item _) .bracketL), if_pos rfl]
    refine (bind_of_ok hitem _).trans ((bind_of_ok hclose _).trans ?_)
    exact bind_of_ok (skipMark_bang hrest hbang) fun required => pure (TypeExpr.list (item.readWith false) required)
  | marked type ih =>
    cases required with
    | true => cases hmark rfl
    | false => exact @ih ht.2 true (fun _ => ht.1) room hroom rest hrest nofun

end Schema.WrittenType

/-! ### Reading and writing -/

namespace Schema.WrittenType

theorem name_readWith (required : Bool) (t : WrittenType) : (t.readWith required).name = t.name := by
  induction t generalizing required with
  | named name => rfl
  | list item ih => exact ih false
  | marked type ih => exact ih true

/-- Reading a well-formed type and writing it again changes nothing but the mark around it. -/
private theorem written_readWith {required : Bool} {t : WrittenType} (ht : t.WellFormed)
    (hmark : required = true → t.isMarked = false) : (t.readWith required).written = markIf required t := by
  induction t generalizing required with
  | named name => rfl
  | list item ih =>
    have hitem : (item.readWith false).written = item := ih ht (by simp)
    show markIf required (list (item.readWith false).written) = _
    rw [hitem]
  | marked type ih =>
    cases required with
    | true => cases hmark rfl
    | false => exact ih ht.2 fun _ => ht.1

theorem written_read {t : WrittenType} (ht : t.WellFormed) : t.read.written = t := written_readWith ht (by simp)

theorem isMarked_markIf {required : Bool} {t : WrittenType} (ht : t.isMarked = false) :
    (markIf required t).isMarked = required := by
  cases required
  · exact ht
  · rfl

theorem bareText_markIf (target : String) (required : Bool) (t : WrittenType) :
    (markIf required t).bareText target = t.bareText target := by
  cases required <;> rfl

theorem text_markIf (target : String) {required : Bool} {t : WrittenType} (ht : t.isMarked = false) :
    (markIf required t).text target = Reference.optionalText required (t.bareText target) := by
  rw [text, isMarked_markIf ht, bareText_markIf]
  rfl

end Schema.WrittenType

namespace Schema.TypeExpr

open WrittenType

/-- The flags and the name tell how the type has been written. -/
theorem ofFlags_eq_written (e : TypeExpr) : ofFlags e.name e.required e.itemsRequired = e.written := by
  induction e with
  | named name required => rfl
  | list item required ih => exact congrArg (fun t => markIf required (WrittenType.list t)) ih

/-- The text of the written type is made of the flags from the innermost list outwards. -/
theorem text_written (target : String) (e : TypeExpr) :
    e.written.text target = Reference.optionalText e.required (Reference.listText e.itemsRequired target) := by
  induction e with
  | named name required => exact text_markIf target rfl
  | list item required ih =>
    have hlist : (WrittenType.list item.written).bareText target = "list[" ++ item.written.text target ++ "]" := rfl
    rw [written, text_markIf target rfl, hlist, ih]
    rfl

end Schema.TypeExpr

/-! ### Resolved types -/

namespace Scope

open WrittenType

/-- A well-formed type whose name has a meaning gets a reference that tells how the type was written, and whose
annotation translates it level by level. -/
theorem resolve_of_wellFormed {s : Scope} {t : WrittenType} (ht : t.WellFormed) {context : Option String}
    {named : Reference} (hname : s.resolveName t.name context = .ok named) :
    ∃ r, s.resolve t.read context = .ok r ∧ ofFlags r.schemaName r.required r.itemsRequired = t ∧
      r.annotation = t.text named.target := by
  have hread : t.read.name = t.name := name_readWith false t
  refine ⟨named.around t.read, ?_, ?_, ?_⟩
  · rw [resolve, hread, hname]
    rfl
  · have hschemaName : named.schemaName = t.read.name := by rw [schemaName_of_resolveName hname, hread]
    show ofFlags named.schemaName t.read.required t.read.itemsRequired = t
    rw [hschemaName, TypeExpr.ofFlags_eq_written, written_read ht]
  · show Reference.optionalText t.read.required (Reference.listText t.read.itemsRequired named.target) = _
    rw [← TypeExpr.text_written, written_read ht]

/-- Lists of lists whose marks stand on every other level. -/
theorem resolve_of_wellFormed_nested :
    let t : WrittenType := .marked (.list (.list (.marked (.named "Int"))))
    t.WellFormed ∧ ∃ r, (ofRun .unset []).resolve t.read none = .ok r ∧
      ofFlags r.schemaName r.required r.itemsRequired = t ∧ r.annotation = "list[list[int] | None]" := by
  intro t
  have ht : t.WellFormed := by decide
  have hname : (ofRun .unset []).resolveName t.name none = .ok (.plain "Int" "int" .builtin) := rfl
  exact ⟨ht, resolve_of_wellFormed ht hname⟩

end Scope

end SchemaBindings
