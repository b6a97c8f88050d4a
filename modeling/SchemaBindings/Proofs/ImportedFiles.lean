import Mathlib.Data.List.DropRight
import SchemaBindings.Proofs.ImportStatements

/-!
# Files that imports mean

An import finds its module from the output directory, or from the directory of the module that has it. Its path keeps
the empty parts of packages, while the path of a file leaves them out. So an import means the file of its module only
if no empty part is taken for a step further up or left in the middle of the path (`Import.file?_path_iff`).
Without slashes in a package, the steps from it to the topmost one are right exactly if it has no empty part
(`Package.leadsToTop_parts_iff`).
-/

namespace SchemaBindings

/-- How many dots are at the start of the text? -/
def leadingDots (text : String) : Nat := (text.toList.takeWhile (· == '.')).length

theorem leadingDots_append {module : String} (h : '.' ∉ module.toList) (text : String) :
    leadingDots (text ++ module) = leadingDots text := by
  have hmodule : module.toList.takeWhile (· == '.') = [] := by
    cases hcs : module.toList with
    | nil => rfl
    | cons c cs =>
      rw [hcs, List.mem_cons, not_or] at h
      exact List.takeWhile_cons_of_neg (by simpa using Ne.symm h.1)
  rw [leadingDots, leadingDots, String.toList_append, List.takeWhile_append, hmodule, List.append_nil]
  split
  · next hall => exact hall.symm
  · rfl

theorem leadingDots_append_dot_eq_zero_iff {text : String} (h : text ≠ "") :
    leadingDots (text ++ ".") = 0 ↔ leadingDots text = 0 := by
  obtain ⟨c, cs, hcs⟩ := List.exists_cons_of_ne_nil (mt String.toList_eq_nil_iff.1 h)
  rw [leadingDots, leadingDots, String.toList_append, hcs, List.cons_append, List.length_eq_zero_iff,
    List.length_eq_zero_iff]
  by_cases hc : c = '.' <;> simp [hc]

theorem leadingDots_ofList_replicate (n : Nat) : leadingDots (String.ofList (List.replicate n '.')) = n := by
  rw [leadingDots, String.toList_ofList, List.takeWhile_replicate]
  simp

/-! ### Steps to the output directory -/

namespace Package

variable {package : String}

/-- Do so many dots lead from the directory of a package to the output directory? The first one leads nowhere. -/
def LeadsToTop (package : String) (dots : Nat) : Prop := ¬ IsRooted package ∧ dots = (levels package).length + 1

instance (package : String) (dots : Nat) : Decidable (LeadsToTop package dots) := inferInstanceAs (Decidable (_ ∧ _))

/-- Without slashes, one dot for each part and one more lead to the output directory exactly if no part is empty. -/
theorem leadsToTop_parts_iff (h : '/' ∉ package.toList) :
    LeadsToTop package ((Text.split '.' package).length + 1) ↔ "" ∉ Text.split '.' package := by
  have hrooted : ¬ IsRooted package := fun hhead =>
    h ((List.dropWhile_sublist _).subset (List.mem_of_head? hhead))
  have hlevels : levels package = (Text.split '.' package).filter (!·.isEmpty) := by
    rw [levels, List.flatMap_congr (g := fun part => [part]), List.flatMap_singleton']
    intro part hpart
    obtain ⟨cs, hcs, rfl⟩ := List.mem_map.1 hpart
    refine Text.split_of_not_mem fun hslash => h (Text.mem_of_mem_parts hcs ?_)
    rwa [String.toList_ofList] at hslash
  rw [LeadsToTop, and_iff_right hrooted, hlevels, Nat.add_right_cancel_iff, eq_comm,
    List.length_filter_eq_length_iff]
  simp only [Bool.not_eq_true', String.isEmpty_eq_false_iff, ne_eq]
  exact ⟨fun hall hmem => hall "" hmem rfl, fun hnone part hpart he => hnone (he ▸ hpart)⟩

/-- The steps lead to the output directory, wherever that is. -/
theorem rdrop_directory_iff {steps : Nat} :
    (∀ output, (directory output package).rdrop steps = output) ↔ LeadsToTop package (steps + 1) := by
  constructor
  · intro h
    -- one place of the output directory would not do, since no step leads up from the root
    have hroot := congrArg List.length (h [])
    have hbelow := congrArg List.length (h ["out"])
    by_cases hrooted : IsRooted package
    · simp [directory, hrooted, List.rdrop] at hroot hbelow
      omega
    · simp [directory, hrooted, List.rdrop] at hbelow
      exact ⟨hrooted, by omega⟩
  · rintro ⟨hrooted, hsteps⟩ output
    obtain rfl : steps = (levels package).length := Nat.succ.inj hsteps
    simp [directory, hrooted, List.rdrop]

end Package

namespace Import

/-- Where an import in a module of a directory starts: without dots in the output directory, with one dot in the own
directory, and each further dot is a step up. -/
def base (output own : Location) (i : Import) : Location :=
  match leadingDots i.module with
  | 0 => output
  | steps + 1 => own.rdrop steps

theorem base_eq_output_iff {i : Import} {package : String} :
    (∀ output, i.base output (Package.directory output package) = output) ↔
      leadingDots i.module = 0 ∨ Package.LeadsToTop package (leadingDots i.module) := by
  simp only [base]
  cases leadingDots i.module with
  | zero => simp
  | succ steps => simp [Package.rdrop_directory_iff]

/-- The file that an import means: the names in its path are directories, and the last one is the module. An empty name
means nothing. -/
def file? (output own : Location) (i : Import) : Option Location :=
  if "" ∈ i.parts then none else some (destination (i.base output own) ("/".intercalate i.parts ++ ".py"))

variable {i : Import} {output own : Location} {module : String}

/-- The path of an import has its module last, and the ending of the file only makes that longer. -/
private theorem intercalate_append_source (names : List String) (module : String) :
    "/".intercalate (names ++ [module]) ++ ".py" = "/".intercalate (names ++ [module ++ ".py"]) := by
  obtain ⟨before, hbefore⟩ := Text.exists_intercalate_append "/".toList (names.map String.toList)
  rw [← String.toList_inj, String.toList_append, String.toList_intercalate, String.toList_intercalate, List.map_append,
    List.map_append, List.map_singleton, List.map_singleton, hbefore, hbefore, String.toList_append, List.append_assoc]

theorem file?_of_parts {names : List String} (hne : module ≠ "") (hparts : i.parts = names ++ [module]) :
    i.file? output own = if "" ∈ names then none else
      some (destination (i.base output own) ("/".intercalate (names ++ [module ++ ".py"]))) := by
  simp [file?, hparts, intercalate_append_source, Ne.symm hne]

/-- An import with the names of a package means the file of its module if no name is empty, and if it starts in the
output directory; if the package has a slash at its start, it may start anywhere. -/
theorem file?_eq_some_iff {package : String} (hne : module ≠ "") (hslash : '/' ∉ module.toList)
    (hparts : i.parts = Package.names package ++ [module]) :
    i.file? output own = some (destination output (Package.file package module)) ↔
      "" ∉ Package.names package ∧ (Package.IsRooted package ∨ i.base output own = output) := by
  rw [file?_of_parts hne hparts]
  by_cases hempty : "" ∈ Package.names package
  · simp [hempty]
  · have hnames : (Package.names package).filter (!·.isEmpty) = Package.names package :=
      List.filter_eq_self.2 fun name hname => by
        simpa using fun he : name = "" => hempty (he ▸ hname)
    have hfile : "/".intercalate (Package.names package ++ [module ++ ".py"]) = Package.file package module := by
      rw [Package.file, ← Package.filter_names, hnames]
    rw [if_neg hempty, hfile, Option.some_inj, Package.destination_file_eq_iff hslash, and_iff_right hempty]

/-- Wherever the output directory is, an import means the file of its module if no name is empty, and if its dots, unless
a slash makes them idle or there are none, lead to the output directory. -/
theorem forall_file?_eq_some_iff {fromPackage toPackage : String} (hne : module ≠ "") (hslash : '/' ∉ module.toList)
    (hparts : i.parts = Package.names toPackage ++ [module]) :
    (∀ output, i.file? output (Package.directory output fromPackage) =
        some (destination output (Package.file toPackage module))) ↔
      "" ∉ Package.names toPackage ∧ (Package.IsRooted toPackage ∨ leadingDots i.module = 0 ∨
        Package.LeadsToTop fromPackage (leadingDots i.module)) := by
  simp only [file?_eq_some_iff hne hslash hparts, forall_and_left, forall_or_left, base_eq_output_iff]

/-- The path from a package to itself always means the file of the module. -/
theorem file?_path_self (hne : module ≠ "") (hdot : '.' ∉ module.toList) (hslash : '/' ∉ module.toList)
    (package : String) (name : Option String) (output : Location) :
    file? output (Package.directory output package) { module := path package package module, name } =
      some (destination output (Package.file package module)) := by
  have hpath : path package package module = String.ofList ['.'] ++ module := if_pos (beq_self_eq_true package)
  have hparts : parts { module := String.ofList ['.'] ++ module, name } = [] ++ [module] :=
    parts_dots_append (by simp) hdot name
  have hbase (own : Location) : base output own { module := String.ofList ['.'] ++ module, name } = own := by
    rw [base, leadingDots_append hdot]
    exact List.rdrop_zero own
  rw [hpath, file?_of_parts hne hparts, if_neg List.not_mem_nil, hbase, List.nil_append, String.intercalate_singleton,
    Package.destination_file_directory hslash]

/-- The path to the topmost package starts with one dot for each part of the other package, and one more. -/
theorem path_top {fromPackage : String} (h : fromPackage ≠ "") (module : String) : path fromPackage "" module =
    String.ofList (List.replicate ((Text.split '.' fromPackage).length + 1) '.') ++ module := by
  rw [path, if_neg (by simpa using h), if_neg (by decide)]

theorem path_of_ne {fromPackage toPackage : String} (h : fromPackage ≠ toPackage) (hne : toPackage ≠ "")
    (module : String) : path fromPackage toPackage module = toPackage ++ "." ++ module := by
  rw [path, if_neg (by simpa using h), if_pos (by simpa using hne)]

/-- The path to a module means the file of the module, wherever the output directory is, exactly in three cases: the
packages are the same; the module is in the topmost package, and one dot for each part of the other package, and one
more, lead there; or the dots at the start of its package, if there are any, lead there, unless a slash makes them idle,
and no empty part is left after them. -/
theorem file?_path_iff (hne : module ≠ "") (hdot : '.' ∉ module.toList) (hslash : '/' ∉ module.toList)
    {importer : String} (himporter : '/' ∉ importer.toList) (fromPackage toPackage : String) (name : Option String) :
    (∀ output, file? output (destination output (Package.file fromPackage importer)).dropLast
        { module := path fromPackage toPackage module, name } =
          some (destination output (Package.file toPackage module))) ↔
      fromPackage = toPackage ∨
      toPackage = "" ∧ Package.LeadsToTop fromPackage ((Text.split '.' fromPackage).length + 1) ∨
      toPackage ≠ "" ∧ "" ∉ Package.names toPackage ∧
        (Package.IsRooted toPackage ∨ leadingDots toPackage = 0 ∨
          Package.LeadsToTop fromPackage (leadingDots (toPackage ++ "."))) := by
  have hown (output : Location) : (destination output (Package.file fromPackage importer)).dropLast =
      Package.directory output fromPackage := by
    rw [Package.destination_file himporter, List.dropLast_concat]
  simp only [hown]
  by_cases hsame : fromPackage = toPackage
  · subst hsame
    exact iff_of_true (file?_path_self hne hdot hslash fromPackage name) (.inl rfl)
  · rw [or_iff_right hsame]
    by_cases htop : toPackage = ""
    · subst htop
      have hpath := path_top hsame module
      have hparts : parts { module := path fromPackage "" module, name } = Package.names "" ++ [module] := by
        rw [hpath]
        exact parts_dots_append (fun c hc => by simp [List.eq_of_mem_replicate hc]) hdot name
      have hdots : leadingDots (path fromPackage "" module) = (Text.split '.' fromPackage).length + 1 := by
        rw [hpath, leadingDots_append hdot, leadingDots_ofList_replicate]
      have hempty : "" ∉ Package.names "" := by decide
      have hrooted : ¬ Package.IsRooted "" := by decide
      rw [forall_file?_eq_some_iff hne hslash hparts, hdots]
      simp [hempty, hrooted]
    · have hpath := path_of_ne hsame htop module
      have hparts : parts { module := path fromPackage toPackage module, name } =
          Package.names toPackage ++ [module] := by
        rw [hpath, parts_package_append toPackage hdot]
      have hdots : leadingDots (path fromPackage toPackage module) = leadingDots (toPackage ++ ".") := by
        rw [hpath, leadingDots_append hdot]
      rw [forall_file?_eq_some_iff hne hslash hparts, hdots, leadingDots_append_dot_eq_zero_iff htop]
      simp [htop]

/-- From a package of two parts three dots lead to the topmost package. -/
theorem file?_path_top :
    path "app.api" "" "event" = "...event" ∧
      ∀ output, file? output (destination output (Package.file "app.api" "event_query")).dropLast
        { module := path "app.api" "" "event", name := some "Event" } =
          some (destination output (Package.file "" "event")) :=
  ⟨by decide +kernel, (file?_path_iff (by decide) (by decide) (by decide) (by decide) "app.api" "" (some "Event")).2
    (.inr (.inl (by decide +kernel)))⟩

/-- An empty part at the start of a package is counted as a step up, though its modules are in a directory less deep:
the import of a module in the output directory leads out of it. -/
theorem file?_path_above_output :
    path ".a" "" "event" = "...event" ∧ Package.file ".a" "query" = "a/query.py" ∧
      file? ["out"] (destination ["out"] (Package.file ".a" "query")).dropLast
        { module := path ".a" "" "event", name := some "Event" } = some ["event.py"] ∧
      destination ["out"] (Package.file "" "event") = ["out", "event.py"] := by
  decide +kernel

end Import

end SchemaBindings
