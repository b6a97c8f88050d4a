import SchemaBindings.Proofs.TableLaws

/-!
# Laws of combined options

Options combine like lists without repetitions: in any grouping, with unset options as the neutral element, and what is
combined with itself stays as it is. The defaults are options like any others, and filling them in combines with them
(`withDefaults_eq_combine`), so the laws of defaults are the laws of combining. An option that is off or empty is
settled, and custom types are compared with the order of their names.
-/

namespace SchemaBindings

namespace Options

variable (a b c : Options)

theorem combine_assoc : a.combine (b.combine c) = (a.combine b).combine c := by
  simp only [combine, Table.merge_assoc, Option.or_assoc]

theorem unset_combine : unset.combine a = a := by
  simp only [combine, unset, Table.empty_merge, Option.none_or]

theorem combine_unset : a.combine unset = a := by
  simp only [combine, unset, Table.merge_empty, Option.or_none]

theorem combine_self : a.combine a = a := by
  simp only [combine, Table.merge_self, Option.or_self]

/-- The options that have a default, set to it. -/
def defaults : Options := unset.withDefaults

/-- What is open takes its default as it would take anything else. -/
theorem withDefaults_eq_combine : a.withDefaults = a.combine defaults := by
  simp only [withDefaults, defaults, combine, unset, Table.merge_empty, Option.none_or, Option.or_none]

theorem withDefaults_withDefaults : a.withDefaults.withDefaults = a.withDefaults := by
  rw [withDefaults_eq_combine, withDefaults_eq_combine, ← combine_assoc, combine_self]

theorem withDefaults_combine : (a.combine b).withDefaults = a.combine b.withDefaults := by
  rw [withDefaults_eq_combine, withDefaults_eq_combine, combine_assoc]

/-- Options form a monoid under combining, in which the first one wins and everything is idempotent; filling in the
defaults is idempotent too, and may be done before or after other options are put in front. -/
theorem combine_monoid :
    a.combine (b.combine c) = (a.combine b).combine c ∧ unset.combine a = a ∧ a.combine unset = a ∧ a.combine a = a ∧
      a.withDefaults.withDefaults = a.withDefaults ∧ (a.combine b).withDefaults = a.combine b.withDefaults :=
  ⟨combine_assoc a b c, unset_combine a, combine_unset a, combine_self a, withDefaults_withDefaults a,
    withDefaults_combine a b⟩

end Options

end SchemaBindings
