import SchemaBindings.Proofs.AscendingLists
import SchemaBindings.Proofs.Meaning
import SchemaBindings.Proofs.TargetPatterns

/-!
# What custom targets mean

A name with a custom target means what the text of the target says: a dotted name is imported by its last component, and
any other text is used as it stands, together with the modules of the longest chains in it, each once and in order
(`resolveName_customTarget`).
-/

namespace SchemaBindings.Target

/-- A target is split if and only if it is a dotted name. -/
theorem split?_eq_none_iff {target : String} : split? target = none ↔ ¬ IsDottedName target.toList := by
  constructor
  · rintro h ⟨components, hlength, hcomponents, htarget⟩
    have hsplit := split?_eq_some_iff.2 ⟨components, hlength, hcomponents, htarget, rfl, rfl⟩
    rw [h] at hsplit
    cases hsplit
  · intro h
    cases hsplit : split? target with
    | none => rfl
    | some read =>
      obtain ⟨components, hlength, hcomponents, htarget, -⟩ := split?_eq_some_iff.1 hsplit
      exact absurd ⟨components, hlength, hcomponents, htarget⟩ h

/-- The module and the name are what stands before and after the last dot. -/
theorem split?_parts {target module imported : String} (h : split? target = some (module, imported)) :
    module ++ "." ++ imported = target ∧ '.' ∉ imported.toList := by
  obtain ⟨components, hlength, hcomponents, htarget, rfl, rfl⟩ := split?_eq_some_iff.1 h
  have hne : components ≠ [] := List.ne_nil_of_length_pos (by omega)
  obtain ⟨init, last, rfl⟩ := (List.eq_nil_or_concat' components).resolve_left hne
  have hinit : init ≠ [] := by
    rintro rfl
    simp at hlength
  rw [List.dropLast_concat, List.getLastD_concat]
  constructor
  · rw [← String.toList_inj, htarget, chainText_concat hinit]
    simp [dotted, chainText]
  · rw [String.toList_ofList]
    exact (hcomponents last (by simp)).dot_not_mem

theorem pairwise_modules (target : String) : (modules target).Pairwise (· < ·) := pairwise_ascendingTexts _

end SchemaBindings.Target

namespace SchemaBindings

open Target

/-- The reference is imported from the module before the last dot of a text, by the name after it. -/
structure Reference.ImportsBy (r : Reference) (target : String) : Prop where
  module : ∃ module, r.importModule? = some module ∧ module ++ "." ++ r.target = target
  noDot : '.' ∉ r.target.toList
  noModules : r.mentionedModules = []

/-- The reference is a text as it stands, and brings along the modules that it mentions, each once and in order. -/
structure Reference.Quotes (r : Reference) (target : String) : Prop where
  target_eq : r.target = target
  noImport : r.importModule? = none
  ascending : r.mentionedModules.Pairwise (· < ·)
  mem_iff : ∀ module, module ∈ r.mentionedModules ↔ Mentions target.toList module

namespace Scope

/-- A name with a custom target means what the text of the target says: a dotted name is imported by its last component,
and any other text is used as it stands, with the modules of the longest chains in it. The two patterns tell the
same. -/
theorem resolveName_customTarget {s : Scope} {n target : String} (context : Option String)
    (hbuiltin : builtinScalars.lookup n = none) (htarget : s.targets.find? n = some target) :
    ∃ r, s.resolveName n context = .ok r ∧ r.schemaName = n ∧
      (IsDottedName target.toList → r.ImportsBy target) ∧ (¬ IsDottedName target.toList → r.Quotes target) ∧
      (dottedNamePattern.fits target.toList = true ↔ IsDottedName target.toList) ∧
      ∀ module, module ∈ moduleMatches target.toList ↔ Mentions target.toList module := by
  have hpatterns : (dottedNamePattern.fits target.toList = true ↔ IsDottedName target.toList) ∧
      ∀ module, module ∈ moduleMatches target.toList ↔ Mentions target.toList module :=
    ⟨fits_dottedNamePattern_iff target.toList, fun module => mem_moduleMatches_iff⟩
  cases hsplit : split? target with
  | none =>
    refine ⟨_, resolveName_eq_ok_iff.2 (.expression hbuiltin htarget hsplit), rfl, ?_, ?_, hpatterns⟩
    · intro h
      exact absurd h (split?_eq_none_iff.1 hsplit)
    · intro h
      exact ⟨rfl, rfl, pairwise_modules target, fun module => mem_modules_iff⟩
  | some read =>
    obtain ⟨module, imported⟩ := read
    obtain ⟨hjoined, hdot⟩ := split?_parts hsplit
    refine ⟨_, resolveName_eq_ok_iff.2 (.imported hbuiltin htarget hsplit), rfl, ?_, ?_, hpatterns⟩
    · intro h
      exact ⟨⟨module, rfl, hjoined⟩, hdot, rfl⟩
    · intro h
      rw [split?_eq_none_iff.2 h] at hsplit
      cases hsplit

/-- Two modules are mentioned, one of them with a dot; a number after a dot and a name after another are no chains. -/
theorem resolveName_customTarget_rows :
    let target := "dict[typing.Any, collections.abc.Set | typing.Any | 1.x | y.2]"
    let s := ofRun { Options.unset with customTypes := Table.ofList [("Rows", target)] } []
    builtinScalars.lookup "Rows" = none ∧ s.targets.find? "Rows" = some target ∧
      ∃ r, s.resolveName "Rows" none = .ok r ∧ r.Quotes target ∧ r.mentionedModules = ["collections.abc", "typing"] := by
  intro target s
  have hbuiltin : builtinScalars.lookup "Rows" = none := by decide
  have htarget : s.targets.find? "Rows" = some target := by decide +kernel
  have hsplit : split? target = none := by decide +kernel
  have hvalue : s.resolveName "Rows" none =
      .ok (.plain "Rows" target (.expression ["collections.abc", "typing"])) := by decide +kernel
  obtain ⟨r, hr, -, -, hquotes, -⟩ := resolveName_customTarget none hbuiltin htarget
  refine ⟨hbuiltin, htarget, r, hr, hquotes (split?_eq_none_iff.1 hsplit), ?_⟩
  rw [Except.ok.inj (hr.symm.trans hvalue)]
  rfl

end Scope

end SchemaBindings
