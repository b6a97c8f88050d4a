import SchemaBindings.Module
import SchemaBindings.Proofs.NormalPaths

/-!
# Files of packages

The dots of a package and its slashes both stand for directories, and empty parts for none. Nothing in a package leads
up, and only a slash at its start, after dots that do not count, leads out of the output directory. So each file of a
package lies in one directory (`Package.destination_file`).
-/

namespace SchemaBindings

namespace Text

/-- The first part that is not empty starts where the separators end. -/
theorem head?_parts {separator : Char} (cs : List Char) :
    ((parts separator cs).filter (!·.isEmpty)).head?.bind List.head? = (cs.dropWhile (· == separator)).head? := by
  induction cs with
  | nil => rfl
  | cons c cs ih =>
    by_cases hc : c = separator
    · rw [hc, parts_cons_separator, List.dropWhile_cons_of_pos (by simp)]
      exact ih
    · obtain ⟨p, ps, hparts⟩ := List.exists_cons_of_ne_nil (partsBy_ne_nil (· == separator) cs)
      rw [parts_cons_of_ne hc hparts, List.dropWhile_cons_of_neg (by simpa using hc)]
      rfl

/-- Separators at the start only add empty parts. -/
theorem exists_parts_eq (separator : Char) (cs : List Char) :
    ∃ blanks, (∀ blank ∈ blanks, blank = []) ∧ parts separator cs =
      blanks ++ if cs.dropWhile (· == separator) = [] then [] else parts separator (cs.dropWhile (· == separator)) := by
  induction cs with
  | nil => exact ⟨[[]], by simp, rfl⟩
  | cons c cs ih =>
    by_cases hc : c = separator
    · obtain ⟨blanks, hblanks, hparts⟩ := ih
      refine ⟨[] :: blanks, by simpa using hblanks, ?_⟩
      rw [hc, parts_cons_separator, List.dropWhile_cons_of_pos (by simp), List.cons_append, ← hparts]
    · rw [List.dropWhile_cons_of_neg (by simpa using hc), if_neg (List.cons_ne_nil _ _)]
      exact ⟨[], by simp, rfl⟩

end Text

/-- Where a path leads if none of its names leads up. -/
theorem destination_of_not_mem {path : String} (h : ".." ∉ Text.split '/' path) (start : Location) :
    destination start path = startOf start path ++ (Path.ofText path).names := by
  rw [destination, Path.ofText]
  generalize startOf start path = l
  generalize Text.split '/' path = names at h ⊢
  induction names generalizing l with
  | nil => simp
  | cons name names ih =>
    rw [List.mem_cons, not_or] at h
    rw [List.foldl_cons, ih _ h.2]
    by_cases hstay : name = "" ∨ name = "."
    · rcases hstay with rfl | rfl <;> rfl
    · rw [not_or] at hstay
      rw [follow_of_ne ⟨hstay.1, hstay.2, Ne.symm h.1⟩, List.filter_cons_of_pos (by simp [hstay]), List.append_assoc]
      rfl

/-! ### Directories of packages -/

namespace Package

/-- The path of the file for a module of some name in a package, below the output directory. -/
def file (package module : String) : String :=
  "/".intercalate ((Text.split '.' package).filter (!·.isEmpty) ++ [module ++ ".py"])

/-- The directories on the way to the files of a package. -/
def levels (package : String) : List String :=
  ((Text.split '.' package).flatMap (Text.split '/')).filter (!·.isEmpty)

/-- The names of a package after the dots at its start; further dots that follow each other, and dots at its end, leave
empty ones. -/
def names (package : String) : List String :=
  let rest := package.toList.dropWhile (· == '.')
  if rest = [] then [] else Text.split '.' (String.ofList rest)

/-- Is there a slash at the start of the package, after its dots? -/
def IsRooted (package : String) : Prop := (package.toList.dropWhile (· == '.')).head? = some '/'

instance (package : String) : Decidable (IsRooted package) := inferInstanceAs (Decidable (_ = _))

/-- The directory of the files of a package. -/
def directory (output : Location) (package : String) : Location :=
  (if IsRooted package then [] else output) ++ levels package

end Package

/-- The path of a module depends on its package and its name only. -/
theorem Module.relativePath_eq_file (m : Module) : m.relativePath = Package.file m.package m.name := rfl

namespace Package

variable {module : String}

private theorem toList_file (package module : String) : (file package module).toList =
    ['/'].intercalate
      ((Text.parts '.' package.toList).filter (!·.isEmpty) ++ [module.toList ++ ".py".toList]) := by
  have hlevels : ((Text.split '.' package).filter (!·.isEmpty)).map String.toList =
      (Text.parts '.' package.toList).filter (!·.isEmpty) := by
    have hread : String.toList ∘ String.ofList = id := funext fun part => String.toList_ofList
    rw [Text.split, List.filter_map, List.map_map, hread, List.map_id]
    refine List.filter_congr fun part _ => ?_
    rw [Function.comp_apply, Bool.eq_iff_iff]
    simp
  rw [file, String.toList_intercalate, List.map_append, hlevels, List.map_singleton, String.toList_append]
  rfl

theorem exists_split_eq (package : String) :
    ∃ blanks, (∀ blank ∈ blanks, blank = "") ∧ Text.split '.' package = blanks ++ names package := by
  obtain ⟨blanks, hblanks, hparts⟩ := Text.exists_parts_eq '.' package.toList
  refine ⟨blanks.map String.ofList, ?_, ?_⟩
  · intro blank hblank
    obtain ⟨cs, hcs, rfl⟩ := List.mem_map.1 hblank
    rw [hblanks cs hcs]
  · rw [Text.split, hparts, List.map_append, names]
    split <;> simp [Text.split]

theorem filter_names (package : String) :
    (names package).filter (!·.isEmpty) = (Text.split '.' package).filter (!·.isEmpty) := by
  obtain ⟨blanks, hblanks, hsplit⟩ := exists_split_eq package
  have hnone : blanks.filter (!·.isEmpty) = [] := List.filter_eq_nil_iff.2 fun blank hblank => by
    simp [hblanks blank hblank]
  rw [hsplit, List.filter_append, hnone, List.nil_append]

theorem names_suffix (package : String) : names package <:+ Text.split '.' package := by
  obtain ⟨blanks, -, hsplit⟩ := exists_split_eq package
  exact ⟨blanks, hsplit.symm⟩

theorem head?_file (h : '/' ∉ module.toList) (package : String) :
    (file package module).toList.head? = some '/' ↔ IsRooted package := by
  rw [toList_file, IsRooted, ← Text.head?_parts]
  cases hparts : (Text.parts '.' package.toList).filter (!·.isEmpty) with
  | nil =>
    have hfirst : (module.toList ++ ".py".toList).head? ≠ some '/' := fun hhead => by
      rcases List.mem_append.1 (List.mem_of_head? hhead) with hmem | hmem
      · exact h hmem
      · exact absurd hmem (by decide)
    simpa using hfirst
  | cons part parts =>
    have hpart : part ≠ [] := by
      have hkept := (List.mem_filter.1 (hparts ▸ List.mem_cons_self : part ∈ List.filter _ _)).2
      simpa using hkept
    rw [List.cons_append, List.intercalate_cons_of_ne_nil (by simp), List.append_assoc,
      List.head?_append_of_ne_nil _ hpart]
    rfl

theorem split_file (h : '/' ∉ module.toList) (package : String) : Text.split '/' (file package module) =
    ((Text.split '.' package).filter (!·.isEmpty)).flatMap (Text.split '/') ++ [module ++ ".py"] := by
  have hlast : Text.split '/' (module ++ ".py") = [module ++ ".py"] := Text.split_of_not_mem (by simp [h])
  rw [file, show "/" = String.singleton '/' from rfl, Text.split_intercalate (by simp), List.flatMap_append,
    List.flatMap_singleton, hlast]

/-- Between the dots and slashes of a package no dots are left. -/
private theorem dot_not_mem_of_mem {package name : String}
    (h : name ∈ ((Text.split '.' package).filter (!·.isEmpty)).flatMap (Text.split '/')) : '.' ∉ name.toList := by
  obtain ⟨level, hlevel, hname⟩ := List.mem_flatMap.1 h
  obtain ⟨part, hpart, rfl⟩ := List.mem_map.1 (List.mem_filter.1 hlevel).1
  obtain ⟨cs, hcs, rfl⟩ := List.mem_map.1 hname
  rw [String.toList_ofList] at hcs ⊢
  exact fun hdot => Text.not_mem_of_mem_parts hpart (Text.mem_of_mem_parts hcs hdot)

private theorem filter_flatMap_split (parts : List String) :
    ((parts.filter (!·.isEmpty)).flatMap (Text.split '/')).filter (!·.isEmpty) =
      (parts.flatMap (Text.split '/')).filter (!·.isEmpty) := by
  induction parts with
  | nil => rfl
  | cons part parts ih =>
    by_cases hpart : part = ""
    · rw [hpart, List.filter_cons_of_neg (by simp), ih]
      rfl
    · rw [List.filter_cons_of_pos (by simpa using hpart), List.flatMap_cons, List.flatMap_cons, List.filter_append,
        List.filter_append, ih]

private theorem file_ne (module : String) : module ++ ".py" ≠ "" ∧ module ++ ".py" ≠ "." ∧ module ++ ".py" ≠ ".." :=
  isEnding_source.ne_of_endsIn ⟨module.toList, String.toList_append.symm⟩

theorem up_not_mem_split_file (h : '/' ∉ module.toList) (package : String) :
    ".." ∉ Text.split '/' (file package module) := by
  rw [split_file h, List.mem_append, not_or, List.mem_singleton]
  exact ⟨fun hmem => dot_not_mem_of_mem hmem (by decide), (file_ne module).2.2.symm⟩

theorem names_file (h : '/' ∉ module.toList) (package : String) :
    (Path.ofText (file package module)).names = levels package ++ [module ++ ".py"] := by
  obtain ⟨hne, hdot, -⟩ := file_ne module
  rw [Path.ofText, split_file h, List.filter_append, List.filter_cons_of_pos (by simp [hne, hdot]), List.filter_nil,
    levels, ← filter_flatMap_split]
  refine congrArg (· ++ _) (List.filter_congr fun name hname => ?_)
  have hname : name ≠ "." := fun he => dot_not_mem_of_mem hname (he ▸ by decide)
  simp [hname]

theorem destination_file (h : '/' ∉ module.toList) (output : Location) (package : String) :
    destination output (file package module) = directory output package ++ [module ++ ".py"] := by
  have hstart : startOf output (file package module) = if IsRooted package then [] else output := by
    simp only [startOf, beq_iff_eq, head?_file h]
  rw [destination_of_not_mem (up_not_mem_split_file h package), names_file h, hstart, directory, List.append_assoc]

/-- The files of a package lie in its directory as those of the topmost package do in the output directory. -/
theorem destination_file_directory (h : '/' ∉ module.toList) (output : Location) (package : String) :
    destination (directory output package) (module ++ ".py") = destination output (file package module) := by
  have htop : file "" module = module ++ ".py" := String.intercalate_singleton
  have hsame : directory (directory output package) "" = directory output package := List.append_nil _
  rw [← htop, destination_file h, destination_file h, hsame]

/-- Where the search for a file starts does not matter after a slash at the start of its package, and only there. -/
theorem destination_file_eq_iff (h : '/' ∉ module.toList) {package : String} {start output : Location} :
    destination start (file package module) = destination output (file package module) ↔
      IsRooted package ∨ start = output := by
  rw [destination_file h, destination_file h, directory, directory]
  by_cases hrooted : IsRooted package <;> simp [hrooted]

end Package

end SchemaBindings
