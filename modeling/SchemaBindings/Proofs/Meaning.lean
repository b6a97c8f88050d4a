import SchemaBindings.Proofs.Lookup
import SchemaBindings.Proofs.Success

/-!
# What names mean in a run

The scope of a run is determined by its options and its documents. A name means a built-in scalar, a target or a
class of the run (`resolveName_eq_ok_iff`); the last is the case exactly if some document defines a type of this name,
other than a scalar, and neither of the first two applies (`generates_ofRun`).
-/

namespace SchemaBindings

open Schema

/-! ### The scope of a run -/

/-- The scope of a run with some options over some documents. -/
def Scope.ofRun (options : Options) (documents : List Document) : Scope :=
  .ofDocuments ((Targets.ofOptions options).registerScalars documents.flatten).1 documents

/-- The names of the types that documents define, in order and with repetitions. -/
def typeNames (documents : List Document) : List String := documents.flatten.filterMap Definition.typeName?

namespace Scope

theorem mem_known_ofDocuments {t : Targets} {documents : List Document} {n : String} :
    n ∈ (ofDocuments t documents).known ↔ n ∈ typeNames documents := mem_ascendingTexts

theorem find?_ofRun (o : Options) (documents : List Document) (n : String) :
    (ofRun o documents).targets.find? n = (o.customTypes.find? n).or
      (if n ∈ scalarNames documents.flatten then some Targets.scalarTarget else none) := by
  rw [ofRun, ofDocuments, Targets.find?_registerScalars, Targets.find?_ofOptions]

/-! ### Names of classes of the run -/

/-- Does the name mean a class of the run? -/
structure Generates (s : Scope) (n : String) : Prop where
  notBuiltin : builtinScalars.lookup n = none
  noTarget : s.targets.find? n = none
  known : n ∈ s.known

variable {s : Scope} {n : String} {context : Option String} {r : Reference}

/-- What a name means: a built-in scalar, a target that is a dotted name or an expression, or a class of the run. -/
inductive Means (s : Scope) (n : String) : Reference → Prop
  | builtin {target : String} (hbuiltin : builtinScalars.lookup n = some target) :
      Means s n (.plain n target .builtin)
  | imported {target module imported : String} (hbuiltin : builtinScalars.lookup n = none)
      (htarget : s.targets.find? n = some target) (hsplit : Target.split? target = some (module, imported)) :
      Means s n (.plain n imported (.imported module))
  | expression {target : String} (hbuiltin : builtinScalars.lookup n = none)
      (htarget : s.targets.find? n = some target) (hsplit : Target.split? target = none) :
      Means s n (.plain n target (.expression (Target.modules target)))
  | generated (h : s.Generates n) : Means s n (.plain n (s.className n) .generated)

theorem resolveName_eq_ok_iff : s.resolveName n context = .ok r ↔ s.Means n r := by
  unfold Scope.resolveName
  constructor
  · intro h
    split at h
    · next hbuiltin =>
      cases h
      exact .builtin hbuiltin
    · next hbuiltin =>
      split at h
      · next htarget =>
        split at h <;> cases h
        · next hsplit => exact .imported hbuiltin htarget hsplit
        · next hsplit => exact .expression hbuiltin htarget hsplit
      · next htarget =>
        split at h <;> cases h
        next hknown => exact .generated ⟨hbuiltin, htarget, by simpa using hknown⟩
  · rintro (hbuiltin | ⟨hbuiltin, htarget, hsplit⟩ | ⟨hbuiltin, htarget, hsplit⟩ | ⟨hbuiltin, htarget, hknown⟩)
    · simp only [hbuiltin]
    · simp only [hbuiltin, htarget, hsplit]
    · simp only [hbuiltin, htarget, hsplit]
    · simp [hbuiltin, htarget, hknown]

theorem Generates.resolveName (h : s.Generates n) (context : Option String) :
    s.resolveName n context = .ok (.plain n (s.className n) .generated) :=
  resolveName_eq_ok_iff.2 (.generated h)

/-- A reference by name is nullable, has no lists, and remembers the name. -/
theorem eq_plain_of_resolveName (h : s.resolveName n context = .ok r) : r = .plain n r.target r.origin := by
  cases resolveName_eq_ok_iff.1 h <;> rfl

theorem schemaName_of_resolveName (h : s.resolveName n context = .ok r) : r.schemaName = n := by
  rw [eq_plain_of_resolveName h]
  rfl

theorem generates_of_resolveName (h : s.resolveName n context = .ok r) (hr : r.isGenerated) : s.Generates n := by
  cases resolveName_eq_ok_iff.1 h with
  | generated hgenerates => exact hgenerates
  | builtin | imported | expression => cases hr

/-- A name means a class of the run if it is neither built in nor given a custom type, and some document defines a
type of this name but none a scalar. -/
theorem generates_ofRun {o : Options} {documents : List Document} {n : String} :
    (ofRun o documents).Generates n ↔ builtinScalars.lookup n = none ∧ o.customTypes.find? n = none ∧
      n ∉ scalarNames documents.flatten ∧ n ∈ typeNames documents := by
  have hf := find?_ofRun o documents n
  constructor
  · intro ⟨hb, ht, hk⟩
    rw [hf, Option.or_eq_none_iff] at ht
    exact ⟨hb, ht.1, by simpa using ht.2, mem_known_ofDocuments.1 hk⟩
  · intro ⟨hb, ho, hs, hk⟩
    exact ⟨hb, by simp [hf, ho, hs], mem_known_ofDocuments.2 hk⟩

end Scope

end SchemaBindings
