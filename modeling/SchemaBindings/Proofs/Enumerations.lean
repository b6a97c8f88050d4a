import Mathlib.Data.Set.Finite.Basic
import SchemaBindings.Proofs.PackageFiles
import SchemaBindings.Proofs.Rereading

/-!
# Directories in any order

A path of a directory stands for the schema files at any depth below it, each once, with their whole paths in ascending
order. A directory is searched by visiting all directories below it, and neither their order nor that of the files in
them is settled (`FileTree.Enumerates`). Whole paths are put in order afterwards, so what is collected is the same in
all orders (`FileTree.schemaFiles_complete`).
-/

namespace SchemaBindings

/-! ### Joined paths -/

/-- The path that names lead to from a directory, one after the other. -/
def pathTo (path : String) (names : List String) : String := names.foldl (fun p name => joinedPath p [name]) path

private theorem joinedPath_append_singleton {path last name : String} {init : List String} (hlast : IsFileName last) :
    joinedPath (joinedPath path (init ++ [last])) [name] = joinedPath path (init ++ [last] ++ [name]) := by
  have hend : (joinedPath path (init ++ [last])).toList.getLast? ≠ some '/' := by
    obtain ⟨before, hbefore⟩ := Text.exists_intercalate_append "/".toList (init.map String.toList)
    have hne : last.toList ≠ [] := by simpa using hlast.1
    rw [joinedPath, String.toList_append, String.toList_intercalate, List.map_append, List.map_singleton, hbefore,
      ← List.append_assoc, List.getLast?_append_of_ne_nil _ hne]
    exact fun h => hlast.2 (List.mem_of_getLast? h)
  have hslash : (if (joinedPath path (init ++ [last])).toList.getLast? == some '/' then "" else "/") = "/" :=
    if_neg (by simpa using hend)
  have hnames : "/".intercalate (init ++ [last] ++ [name]) = "/".intercalate (init ++ [last]) ++ "/" ++ name :=
    String.intercalate_append_of_ne_nil (by simp) (by simp)
  rw [joinedPath, hslash, String.intercalate_singleton, joinedPath, joinedPath, hnames]
  simp only [String.append_assoc]

/-- Names that are joined to a path one after the other are joined to it at once. -/
theorem joinedPath_pathTo {names : List String} (h : ∀ name ∈ names, IsFileName name) (path name : String) :
    joinedPath (pathTo path names) [name] = joinedPath path (names ++ [name]) := by
  induction names using List.reverseRecOn generalizing name with
  | nil => rfl
  | append_singleton init last ih =>
    have hinit := ih (fun name hname => h name (by simp [hname])) last
    rw [pathTo, List.foldl_concat, ← pathTo, hinit, joinedPath_append_singleton (h last (by simp))]

/-- The names can be read off a path. -/
theorem joinedPath_inj {path : String} {names names' : List String} (hne : names ≠ []) (hne' : names' ≠ [])
    (h : ∀ name ∈ names, IsFileName name) (h' : ∀ name ∈ names', IsFileName name)
    (hsame : joinedPath path names = joinedPath path names') : names = names' := by
  have hread {names : List String} (hne : names ≠ []) (h : ∀ name ∈ names, IsFileName name) :
      Text.split '/' ("/".intercalate names) = names :=
    Text.split_intercalate_of_not_mem hne fun name hname => (h name hname).2
  rw [joinedPath, joinedPath, String.append_right_inj] at hsame
  rw [← hread hne h, hsame, hread hne' h']

namespace FileTree

variable {t : FileTree} {directory l : Location} {path : String} {names : List String}

/-! ### What paths stand for -/

/-- The names lead from the location to a file, and the last one is that of a schema file. -/
def HasSchemaFile (t : FileTree) (l : Location) (names : List String) : Prop :=
  (t.file? (l ++ names)).isSome = true ∧ ∃ name ∈ names.getLast?, EndsAsSchema name

/-- A path stands for itself, or if it is that of a directory, for the schema files at any depth below it: they come
each once, with their whole paths in ascending order. -/
inductive StandsFor (t : FileTree) (directory : Location) (path : String) : List String → Prop
  | itself (h : ¬ t.isDirectory directory path = true) : StandsFor t directory path [path]
  | below {l : Location} {places : List (List String)} (hlocate : t.locate directory path = .ok l)
      (hl : t.entry? l = some .directory) (hplaces : ∀ names, names ∈ places ↔ t.HasSchemaFile l names)
      (hascending : (places.map (joinedPath path)).Pairwise (· < ·)) :
      StandsFor t directory path (places.map (joinedPath path))

theorem HasSchemaFile.ne_nil (h : t.HasSchemaFile l names) : names ≠ [] := by
  rintro rfl
  obtain ⟨-, name, hname, -⟩ := h
  cases hname

theorem HasSchemaFile.isFileName (h : t.HasSchemaFile l names) : ∀ name ∈ names, IsFileName name :=
  fun name hname => (isPlace_of_isSome (isSome_entry?_of_file? h.1)).names name (List.mem_append_right l hname)

/-- Paths tell the places of schema files apart. -/
theorem HasSchemaFile.eq_of_joinedPath {names' : List String} (h : t.HasSchemaFile l names)
    (h' : t.HasSchemaFile l names') (hsame : joinedPath path names = joinedPath path names') :
    names = names' := joinedPath_inj h.ne_nil h'.ne_nil h.isFileName h'.isFileName hsame

theorem mem_schemaFilesBelow_iff {file : String} :
    file ∈ t.schemaFilesBelow l path ↔ ∃ names, t.HasSchemaFile l names ∧ joinedPath path names = file := by
  have hlast {names : List String} :
      isSchemaName (names.getLastD "") = true ↔ ∃ name ∈ names.getLast?, EndsAsSchema name := by
    rw [endsAsSchema_iff, List.getLastD_eq_getLast?]
    cases names.getLast? with
    | none => exact iff_of_false (mt endsAsSchema_iff.2 (by decide)) nofun
    | some name => simp
  rw [mem_schemaFilesBelow]
  refine exists_congr fun names => ?_
  rw [hlast]
  exact and_left_comm.trans and_assoc.symm

/-- The schema files below a directory come each once. -/
theorem standsFor_schemaFilesBelow (hlocate : t.locate directory path = .ok l)
    (hl : t.entry? l = some .directory) : t.StandsFor directory path (t.schemaFilesBelow l path) := by
  have hrange : t.schemaFilesBelow l path ∈ Set.range (List.map fun place : { names // t.HasSchemaFile l names } =>
      joinedPath path place.1) := by
    rw [Set.range_list_map]
    intro file hfile
    obtain ⟨names, hnames, hfile⟩ := mem_schemaFilesBelow_iff.1 hfile
    exact ⟨⟨names, hnames⟩, hfile⟩
  obtain ⟨places, hplaces⟩ := hrange
  have hmap : t.schemaFilesBelow l path = (places.map Subtype.val).map (joinedPath path) := by
    rw [← hplaces, List.map_map]
    rfl
  have hascending : (t.schemaFilesBelow l path).Pairwise (· < ·) := pairwise_ascendingTexts _
  rw [hmap] at hascending ⊢
  refine .below hlocate hl (fun names => ⟨fun hnames => ?_, fun hnames => ?_⟩) hascending
  · obtain ⟨place, -, rfl⟩ := List.mem_map.1 hnames
    exact place.2
  · -- some names lead to the file of this path, and paths tell names apart
    have hfile : joinedPath path names ∈ t.schemaFilesBelow l path := mem_schemaFilesBelow_iff.2 ⟨names, hnames, rfl⟩
    rw [hmap] at hfile
    obtain ⟨names', hnames', hsame⟩ := List.mem_map.1 hfile
    obtain ⟨place, -, rfl⟩ := List.mem_map.1 hnames'
    exact place.2.eq_of_joinedPath hnames hsame ▸ hnames'

/-! ### Enumerations -/

/-- A directory that is visited: the names that lead to it, and the files in it. -/
structure Visit where
  names : List String
  files : List String

/-- Visits to all directories at and below a location, each once, which tell all files in them, each once. The order of
the visits is open, and so is that of the files. -/
structure Enumerates (t : FileTree) (l : Location) (visits : List Visit) : Prop where
  nodup : (visits.map Visit.names).Nodup
  mem_names : ∀ names, names ∈ visits.map Visit.names ↔ t.entry? (l ++ names) = some .directory
  nodup_files : ∀ v ∈ visits, v.files.Nodup
  mem_files : ∀ v ∈ visits, ∀ file, file ∈ v.files ↔ (t.file? (l ++ v.names ++ [file])).isSome = true

/-- The schema files that a visit finds, by the path that has led there. -/
def Visit.found (path : String) (v : Visit) : List String :=
  (v.files.filter isSchemaName).map fun file => joinedPath (pathTo path v.names) [file]

/-- The names that lead to the schema files that a visit finds. -/
def Visit.places (v : Visit) : List (List String) := (v.files.filter isSchemaName).map fun file => v.names ++ [file]

/-- What may be collected for a path: itself, or what visits in some order find, sorted afterwards. -/
inductive Collects (t : FileTree) (directory : Location) (path : String) : List String → Prop
  | itself (h : ¬ t.isDirectory directory path = true) : Collects t directory path [path]
  | visiting {l : Location} {visits : List Visit} (hlocate : t.locate directory path = .ok l)
      (hl : t.entry? l = some .directory) (hvisits : t.Enumerates l visits) :
      Collects t directory path ((visits.flatMap (Visit.found path)).mergeSort fun a b => decide (a ≤ b))

private theorem finite_entries (t : FileTree) : {l | (t.entry? l).isSome = true}.Finite := by
  refine (List.finite_toSet ([] :: t.entries.keys)).subset fun l hl => ?_
  by_cases hnil : l = []
  · exact hnil ▸ List.mem_cons_self
  · exact List.mem_cons_of_mem _ (mem_keys_of_isSome hl hnil)

private theorem exists_list {α : Type} {p : α → Prop} (h : {a | p a}.Finite) :
    ∃ l : List α, l.Nodup ∧ ∀ a, a ∈ l ↔ p a := ⟨h.toFinset.toList, h.toFinset.nodup_toList, fun a => by simp⟩

/-- What is in a tree can be listed, so it can be visited. -/
theorem exists_enumerates (t : FileTree) (l : Location) : ∃ visits, t.Enumerates l visits := by
  have hfiles (names : List String) : ∃ files : List String, files.Nodup ∧
      ∀ file, file ∈ files ↔ (t.file? (l ++ names ++ [file])).isSome = true := by
    refine exists_list ((t.finite_entries.preimage (f := fun file => l ++ names ++ [file]) ?_).subset ?_)
    · exact fun a _ b _ hab => by simpa using hab
    · exact fun file hfile => isSome_entry?_of_file? hfile
  choose files hfiles using hfiles
  obtain ⟨directories, hnodup, hdirectories⟩ : ∃ directories : List (List String), directories.Nodup ∧
      ∀ names, names ∈ directories ↔ t.entry? (l ++ names) = some .directory := by
    refine exists_list ((t.finite_entries.preimage (f := (l ++ ·)) ?_).subset fun names hnames => ?_)
    · exact (List.append_right_injective l).injOn
    · exact Option.isSome_iff_exists.2 ⟨_, hnames⟩
  have hnames : (directories.map fun names => (⟨names, files names⟩ : Visit)).map Visit.names = directories := by
    rw [List.map_map]
    exact List.map_id _
  refine ⟨directories.map fun names => ⟨names, files names⟩, by rwa [hnames], by rwa [hnames], ?_, ?_⟩
  · simp only [List.mem_map]
    rintro v ⟨names, -, rfl⟩
    exact (hfiles names).1
  · simp only [List.mem_map]
    rintro v ⟨names, -, rfl⟩
    exact (hfiles names).2

namespace Enumerates

variable {visits : List Visit}

theorem mem_places (h : t.Enumerates l visits) :
    names ∈ visits.flatMap Visit.places ↔ t.HasSchemaFile l names := by
  constructor
  · intro hnames
    obtain ⟨v, hv, hnames⟩ := List.mem_flatMap.1 hnames
    obtain ⟨file, hfile, rfl⟩ := List.mem_map.1 hnames
    obtain ⟨hfile, hname⟩ := List.mem_filter.1 hfile
    refine ⟨?_, file, by simp, endsAsSchema_iff.1 hname⟩
    rw [← List.append_assoc]
    exact (h.mem_files v hv file).1 hfile
  · intro hnames
    obtain ⟨init, file, rfl⟩ := (List.eq_nil_or_concat' names).resolve_left hnames.ne_nil
    obtain ⟨hfile, name, hname, hends⟩ := hnames
    rw [List.getLast?_concat] at hname
    cases hname
    rw [← List.append_assoc] at hfile
    -- the file stands in a directory, which is visited
    have habove := (isPlace_of_isSome (isSome_entry?_of_file? hfile)).above
    rw [List.dropLast_concat] at habove
    obtain ⟨v, hv, rfl⟩ := List.mem_map.1 ((h.mem_names init).2 habove)
    exact List.mem_flatMap.2 ⟨v, hv, List.mem_map.2 ⟨file,
      List.mem_filter.2 ⟨(h.mem_files v hv file).2 hfile, endsAsSchema_iff.2 hends⟩, rfl⟩⟩

theorem nodup_places (h : t.Enumerates l visits) : (visits.flatMap Visit.places).Nodup := by
  refine List.nodup_flatMap.2 ⟨fun v hv => ?_, ?_⟩
  · refine ((h.nodup_files v hv).filter _).map fun a b hab => ?_
    simpa using hab
  · refine (List.pairwise_map.1 h.nodup).imp fun {v w} hne => ?_
    refine List.disjoint_left.2 fun names hv hw => hne ?_
    obtain ⟨file, -, rfl⟩ := List.mem_map.1 hv
    obtain ⟨file', -, hsame⟩ := List.mem_map.1 hw
    exact ((List.append_inj_left' hsame rfl).symm)

theorem found_eq (h : t.Enumerates l visits) (path : String) :
    visits.flatMap (Visit.found path) = (visits.flatMap Visit.places).map (joinedPath path) := by
  rw [List.map_flatMap]
  refine List.flatMap_congr fun v hv => ?_
  have hdirectory := (h.mem_names v.names).1 (List.mem_map_of_mem hv)
  have hproper := (isPlace_of_isSome (Option.isSome_iff_exists.2 ⟨_, hdirectory⟩)).names
  rw [Visit.found, Visit.places, List.map_map]
  exact List.map_congr_left fun file _ =>
    joinedPath_pathTo (fun name hname => hproper name (List.mem_append_right l hname)) path file

/-- What visits find is the same in all orders, once it is sorted. -/
theorem mergeSort_found (h : t.Enumerates l visits) (path : String) :
    (visits.flatMap (Visit.found path)).mergeSort (fun a b => decide (a ≤ b)) = t.schemaFilesBelow l path := by
  have hfound := h.found_eq path
  have hnodup : (visits.flatMap (Visit.found path)).Nodup := by
    rw [hfound]
    refine h.nodup_places.map_on fun names hnames names' hnames' hsame => ?_
    rw [h.mem_places] at hnames hnames'
    exact hnames.eq_of_joinedPath hnames' hsame
  rw [mergeSort_eq_ascendingTexts hnodup]
  refine ascendingTexts_congr fun file => ?_
  rw [hfound, List.mem_map, ← mem_ascendingTexts]
  refine Iff.trans ?_ mem_schemaFilesBelow_iff.symm
  exact exists_congr fun names => and_congr_left fun _ => h.mem_places

end Enumerates

/-! ### All paths -/

theorem standsFor_schemaFilesAt (t : FileTree) (directory : Location) (path : String) :
    t.StandsFor directory path (t.schemaFilesAt directory path) := by
  by_cases hdirectory : t.isDirectory directory path = true
  · obtain ⟨l, hlocate, hl⟩ := exists_locate_of_isDirectory hdirectory
    rw [schemaFilesAt_of_isDirectory hlocate hl]
    exact standsFor_schemaFilesBelow hlocate hl
  · rw [schemaFilesAt_of_not_isDirectory hdirectory]
    exact .itself hdirectory

theorem collects_iff {files : List String} :
    t.Collects directory path files ↔ t.schemaFilesAt directory path = files := by
  constructor
  · rintro (hdirectory | ⟨hlocate, hl, hvisits⟩)
    · exact schemaFilesAt_of_not_isDirectory hdirectory
    · rw [schemaFilesAt_of_isDirectory hlocate hl, hvisits.mergeSort_found]
  · rintro rfl
    by_cases hdirectory : t.isDirectory directory path = true
    · obtain ⟨l, hlocate, hl⟩ := exists_locate_of_isDirectory hdirectory
      obtain ⟨visits, hvisits⟩ := exists_enumerates t l
      rw [schemaFilesAt_of_isDirectory hlocate hl, ← hvisits.mergeSort_found]
      exact .visiting hlocate hl hvisits
    · rw [schemaFilesAt_of_not_isDirectory hdirectory]
      exact .itself hdirectory

/-- The schema files of paths are those that each path stands for, in the order of the paths. They are what is
collected, in whatever order directories and files are visited. -/
theorem schemaFiles_complete (t : FileTree) (directory : Location) (paths : List String) :
    (∃ parts, t.schemaFiles directory paths = parts.flatten ∧ List.Forall₂ (t.StandsFor directory) paths parts) ∧
      ∀ files, (∃ parts, files = parts.flatten ∧ List.Forall₂ (t.Collects directory) paths parts) ↔
        files = t.schemaFiles directory paths := by
  have hparts : List.Forall₂ (fun path part => t.schemaFilesAt directory path = part) paths
      (paths.map (t.schemaFilesAt directory)) := List.forall₂_map_right_iff.2 (List.forall₂_same.2 fun _ _ => rfl)
  have hflatten : t.schemaFiles directory paths = (paths.map (t.schemaFilesAt directory)).flatten := List.flatMap_def
  refine ⟨⟨_, hflatten, hparts.imp fun path part h => h ▸ t.standsFor_schemaFilesAt directory path⟩, fun files => ?_⟩
  constructor
  · rintro ⟨parts, rfl, hcollects⟩
    have hsame : paths.map (t.schemaFilesAt directory) = parts := by
      rw [← List.forall₂_eq_eq_eq, List.forall₂_map_left_iff]
      exact hcollects.imp fun path part => collects_iff.1
    rw [hflatten, hsame]
  · rintro rfl
    exact ⟨_, hflatten, hparts.imp fun path part => collects_iff.2⟩

/-- Whole paths are compared, so a directory is not kept together: a full stop comes before a slash, and a hyphen before
both. -/
theorem schemaFiles_complete_interleaved :
    let t : FileTree := .ofList [(["s"], .directory), (["s", "b"], .directory), (["s", "b", "z.gql"], .file .empty),
      (["s", "b.gql"], .file .empty), (["s", "b-1"], .directory), (["s", "b-1", "y.graphqls"], .file .empty),
      (["s", "x.gql"], .directory), (["s", "readme.md"], .file .empty)]
    ∀ files, (∃ parts, files = parts.flatten ∧
        List.Forall₂ (t.Collects []) ["s", "s/readme.md", "s/b//"] parts) ↔
      files = ["s/b-1/y.graphqls", "s/b.gql", "s/b/z.gql", "s/readme.md", "s/b//z.gql"] := by
  intro t files
  have hfiles : t.schemaFiles [] ["s", "s/readme.md", "s/b//"] =
      ["s/b-1/y.graphqls", "s/b.gql", "s/b/z.gql", "s/readme.md", "s/b//z.gql"] := by decide +kernel
  exact hfiles ▸ (schemaFiles_complete t [] ["s", "s/readme.md", "s/b//"]).2 files

end FileTree

end SchemaBindings
