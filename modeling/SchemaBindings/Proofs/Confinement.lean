import Mathlib.Algebra.Order.BigOperators.Group.List
import Mathlib.Algebra.Order.Group.Nat
import SchemaBindings.Proofs.PackageFiles
import SchemaBindings.Proofs.SnakeCase
import SchemaBindings.Proofs.Stages

/-!
# Files below the output directory

Each file that a run changes is the one to which the path of some module leads from the output directory
(`RunRequest.changed_below_output`). The path stays below every output directory exactly if it is relative and its
names never lead up further than they have led down before (`Path.confined_iff`). The class of a module without
slashes adds nothing that leads up, and its package can do harm only by a slash at its start
(`Module.confined_iff`).
-/

namespace SchemaBindings

/-! ### Names that stay below a place -/

/-- Do the names never lead up further than they, and that many names before them, have led down? -/
def staysBelow : Nat → List String → Bool
  | _, [] => true
  | depth, name :: names =>
    if name == ".." then depth != 0 && staysBelow (depth - 1) names else staysBelow (depth + 1) names

theorem staysBelow_of_not_mem {names : List String} (h : ".." ∉ names) (depth : Nat) :
    staysBelow depth names = true := by
  induction names generalizing depth with
  | nil => rfl
  | cons name names ih =>
    rw [List.mem_cons, not_or] at h
    rw [staysBelow, if_neg (by simpa using Ne.symm h.1)]
    exact ih h.2 _

/-- Where names lead that mean something: each one leads up or down. -/
theorem follow_eq {name : String} (hname : name ≠ "" ∧ name ≠ ".") (l : Location) :
    follow l name = if name == ".." then l.dropLast else l ++ [name] := by
  simp [follow, hname.1, hname.2]

/-- Following names never adds another name. -/
theorem not_mem_foldl_of_not_mem {own : String} {names : List String} {l : Location} (hl : own ∉ l)
    (hown : own ∉ names) : own ∉ names.foldl follow l := by
  induction names generalizing l with
  | nil => exact hl
  | cons name names ih =>
    rw [List.mem_cons, not_or] at hown
    refine ih ?_ hown.2
    unfold follow
    split
    · exact hl
    · split
      · exact fun hmem => hl (List.dropLast_subset _ hmem)
      · simpa [hl] using hown.1

section

variable {names : List String} (hnames : ∀ name ∈ names, name ≠ "" ∧ name ≠ ".")

include hnames

/-- Names that stay below a place lead to a location below it. -/
theorem prefix_foldl_follow (base inner : Location) (h : staysBelow inner.length names = true) :
    base <+: names.foldl follow (base ++ inner) := by
  induction names generalizing inner with
  | nil => exact List.prefix_append base inner
  | cons name names ih =>
    obtain ⟨hname, hnames⟩ := List.forall_mem_cons.1 hnames
    rw [staysBelow] at h
    rw [List.foldl_cons, follow_eq hname]
    split at h
    · next hup =>
      rw [Bool.and_eq_true, bne_iff_ne, ne_eq, List.length_eq_zero_iff, ← List.length_dropLast] at h
      rw [if_pos hup, List.dropLast_append_of_ne_nil h.1]
      exact ih hnames _ h.2
    · next hdown =>
      rw [if_neg hdown, List.append_assoc]
      exact ih hnames _ (by rwa [List.length_append])

/-- Names that lead up from a place leave it for good, unless its own name is among them. -/
theorem not_mem_foldl_follow {own : String} (inner : Location) (h : ¬ staysBelow inner.length names = true)
    (hinner : own ∉ inner) (hown : own ∉ names) : own ∉ names.foldl follow (own :: inner) := by
  induction names generalizing inner with
  | nil => exact absurd rfl h
  | cons name names ih =>
    obtain ⟨hname, hnames⟩ := List.forall_mem_cons.1 hnames
    rw [List.mem_cons, not_or] at hown
    rw [staysBelow] at h
    rw [List.foldl_cons, follow_eq hname]
    split at h
    · next hup =>
      rw [if_pos hup]
      cases inner with
      | nil => exact not_mem_foldl_of_not_mem List.not_mem_nil hown.2
      | cons name' inner =>
        refine ih hnames _ ?_ (fun hmem => hinner (List.dropLast_subset _ hmem)) hown.2
        simpa using h
    · next hdown =>
      rw [if_neg hdown]
      have hdeeper : own ∉ inner ++ [name] := by simpa [hinner] using hown.1
      exact ih hnames (inner ++ [name]) (by rwa [List.length_append]) hdeeper hown.2

end

namespace Path

/-- Does the path lead to a place below every directory to which it is joined? -/
def Confined (p : Path) : Prop := p.root = "" ∧ staysBelow 0 p.names = true

instance (p : Path) : Decidable p.Confined := inferInstanceAs (Decidable (_ ∧ _))

variable {p : Path}

theorem destination_join (hp : p.Normal) {output : Path} (houtput : output.Normal) (hroot : p.root = "")
    (directory : Location) :
    destination directory (output.join p).text = p.names.foldl follow (destination directory output.text) := by
  rw [destination_text (houtput.join hp), destination_text houtput, join, hroot]
  exact List.foldl_append

theorem destination_join_of_root (hp : p.Normal) {output : Path} (hroot : p.root ≠ "") (directory : Location) :
    destination directory (output.join p).text = p.names.foldl follow [] := by
  have hroot : p.root.isEmpty = false := by
    rw [← Bool.not_eq_true, String.isEmpty_iff]
    exact hroot
  rw [join, hroot, if_neg (by simp), destination_text hp, start, hroot, if_neg (by simp)]

theorem exists_fresh_name (names : List String) : ∃ own, own ≠ "" ∧ own ≠ "." ∧ own ≠ ".." ∧
    '/' ∉ own.toList ∧ own ∉ names := by
  -- a name that is longer than all the others together
  let own := String.ofList (List.replicate ((names.map String.length).sum + 1) 'a')
  have hlist : own.toList = List.replicate ((names.map String.length).sum + 1) 'a' := String.toList_ofList
  have hhead : own.toList.head? = some 'a' := by rw [hlist, List.head?_replicate, if_neg (by omega)]
  have hne {text : String} (htext : text.toList.head? ≠ some 'a') : own ≠ text := fun h => htext (h ▸ hhead)
  refine ⟨own, hne (by decide), hne (by decide), hne (by decide), by simp [hlist], ?_⟩
  intro hmem
  have hle := List.le_sum_of_mem (List.mem_map_of_mem (f := String.length) hmem)
  rw [← String.length_toList, hlist, List.length_replicate] at hle
  omega

/-- A path stays below every directory to which it is joined exactly if it is relative, and its names stay below. -/
theorem confined_iff (hp : p.Normal) : p.Confined ↔ ∀ (directory : Location) (output : Path), output.Normal →
    destination directory output.text <+: destination directory (output.join p).text := by
  have hnames : ∀ name ∈ p.names, name ≠ "" ∧ name ≠ "." := fun name hname =>
    ⟨(hp.names name hname).1, (hp.names name hname).2.1⟩
  constructor
  · rintro ⟨hroot, hbelow⟩ directory output houtput
    rw [destination_join hp houtput hroot]
    simpa using prefix_foldl_follow hnames (destination directory output.text) [] hbelow
  · intro h
    -- a directory whose name is not in the path can only be left for good
    obtain ⟨own, hne, hdot, hup, hslash, hown⟩ := exists_fresh_name p.names
    have houtput : ({ root := "/", names := [own] } : Path).Normal :=
      ⟨.inr (.inl rfl), fun name hname => List.mem_singleton.1 hname ▸ ⟨hne, hdot, hslash⟩⟩
    have hplace : destination [] ({ root := "/", names := [own] } : Path).text = [own] := by
      rw [destination_text houtput, List.foldl_cons, List.foldl_nil, follow_of_ne ⟨hne, hdot, hup⟩]
      rfl
    have hmem : own ∈ destination [] (({ root := "/", names := [own] } : Path).join p).text := by
      have hprefix := h [] _ houtput
      rw [hplace] at hprefix
      exact hprefix.subset List.mem_cons_self
    have hroot : p.root = "" := by
      by_contra hroot
      rw [destination_join_of_root hp hroot] at hmem
      exact not_mem_foldl_of_not_mem List.not_mem_nil hown hmem
    refine ⟨hroot, ?_⟩
    by_contra hbelow
    rw [destination_join hp houtput hroot, hplace] at hmem
    exact not_mem_foldl_follow hnames [] hbelow List.not_mem_nil hown hmem

end Path

/-! ### Slashes in the names of modules -/

namespace Text

private theorem eq_of_ofNat_eq_slash {n : Nat} (h : Char.ofNat n = '/') : n = 47 := by
  by_cases hvalid : n.isValidChar
  · have hcode : (Char.ofNat n).toNat = n := by
      rw [Char.ofNat, dif_pos hvalid]
      rfl
    rw [← hcode, h]
    rfl
  · have hzero : Char.ofNat n = Char.ofNat 0 := by
      rw [Char.ofNat, dif_neg hvalid]
      rfl
    exact absurd (hzero.symm.trans h) (by decide)

/-- What is shifted by a table of the lower cases comes behind the slash. -/
private theorem lt_of_shifted? {n code : Nat} (h : shifted? lowerShifts n = some code) : 47 < code := by
  obtain ⟨shift, hfound, rfl⟩ := Option.map_eq_some_iff.1 h
  have hfar : ∀ shift ∈ lowerShifts, 47 < Int.ofNat shift.first + shift.distance := by decide +kernel
  have hcode := hfar shift (List.mem_of_find?_eq_some hfound)
  have hfits := List.find?_some hfound
  simp only [Bool.and_eq_true, decide_eq_true_eq] at hfits
  have hfirst : Int.ofNat shift.first ≤ Int.ofNat n := Int.ofNat_le.2 hfits.1.1
  omega

/-- No character becomes a slash in lower case. -/
theorem slash_mem_lowerOf {c : Char} (h : '/' ∈ lowerOf c) : c = '/' := by
  unfold lowerOf at h
  split at h
  · next hascii =>
    have htable : ∀ n < 0x80, '/' = (Char.ofNat n).toLower → n = 47 := by decide
    have hcode := htable c.toNat hascii (by simpa using h)
    rw [← Char.ofNat_toNat c, hcode]
  · split at h
    · next codes hcodes =>
      have hall : ∀ row ∈ lowerExpansions, '/' ∉ row.2.map Char.ofNat := by decide
      have hmem : (c.toNat, codes) ∈ lowerExpansions := by
        obtain ⟨before, after, hrows, -⟩ := List.lookup_eq_some_iff.1 hcodes
        rw [hrows]
        exact List.mem_append_right _ List.mem_cons_self
      exact absurd h (hall _ hmem)
    · cases hshifted : shifted? lowerShifts c.toNat with
      | none =>
        rw [hshifted] at h
        exact (List.mem_singleton.1 h).symm
      | some code =>
        rw [hshifted] at h
        have hcode := lt_of_shifted? hshifted
        have hslash := eq_of_ofNat_eq_slash (List.mem_singleton.1 h).symm
        omega

theorem slash_mem_lower {before cs : List Char} (h : '/' ∈ lowerFrom before cs) : '/' ∈ cs := by
  induction cs generalizing before with
  | nil => cases h
  | cons c cs ih =>
    rw [lowerFrom] at h
    rcases List.mem_append.1 h with h | h
    · split at h
      · split at h <;> exact absurd h (by decide)
      · rw [slash_mem_lowerOf h]
        exact List.mem_cons_self
    · exact List.mem_cons_of_mem _ (ih h)

end Text

/-- A module has a slash in its name only if its class has. -/
theorem Naming.slash_mem_moduleName {className : String} (h : '/' ∈ (moduleName className).toList) :
    '/' ∈ className.toList := by
  rw [moduleName, snakeCase, String.toList_ofList, snakeChars] at h
  have h := Text.slash_mem_lower h
  cases hcs : className.toList with
  | nil =>
    rw [hcs] at h
    cases h
  | cons a cs =>
    rw [hcs, markCapitals_markWords] at h
    rcases List.mem_cons.1 h with rfl | h
    · exact List.mem_cons_self
    · rcases mem_markAfter h with h | h
      · cases h
      · exact List.mem_cons_of_mem _ h

namespace Module

/-- The path of the module below an output directory. -/
def path (m : Module) : Path := .ofText m.relativePath

/-- A module without slashes in its name has no name in its path that leads up. -/
private theorem up_not_mem_names {m : Module} (h : '/' ∉ m.name.toList) : ".." ∉ m.path.names :=
  fun hup => Package.up_not_mem_split_file h m.package (List.mem_filter.1 hup).1

/-- Without slashes in its class, the path of a module leads up nowhere, and so it stays below unless its package
starts with a slash; dots before that do not count. -/
theorem confined_iff {m : Module} (h : '/' ∉ m.className.toList) :
    m.path.Confined ↔ (m.package.toList.dropWhile (· == '.')).head? ≠ some '/' := by
  have hname : '/' ∉ m.name.toList := mt Naming.slash_mem_moduleName h
  have hroot : m.path.root = "" ↔ m.relativePath.toList.head? ≠ some '/' := by
    rw [path, Path.ofText]
    rcases Path.rootOf_cases m.relativePath.toList with ⟨h, hne⟩ | ⟨h, he⟩
    · simp [h, hne]
    · rcases h with h | h <;> simp [h, he]
  rw [Path.Confined, and_iff_left (staysBelow_of_not_mem (up_not_mem_names hname) 0), hroot, ne_eq,
    relativePath_eq_file, Package.head?_file hname, Package.IsRooted]

end Module

/-! ### Changed files -/

namespace Job

variable {j : Job} {t : FileTree}

/-- The place of the output directory. -/
def outputPlace (j : Job) : Location := destination j.directory j.output.text

/-- Is the module one of those that a run on the tree is to write? -/
def Plans (j : Job) (t : FileTree) (m : Module) : Prop :=
  ∃ documents, j.readDocuments (j.prepare t).2 = .ok documents ∧
    .write m ∈ plan (j.scope (documents.map (·.2))) documents

/-- What is changed by writing modules is the file of one of them. -/
theorem exists_of_written_ne {done : List (Module × String)} {files : Location → Option ByteArray} {l : Location}
    (h : j.written done files l ≠ files l) : ∃ d ∈ done, l = j.placeOf d.1 := by
  induction done generalizing files with
  | nil => exact absurd rfl h
  | cons d done ih =>
    by_cases hl : l = j.placeOf d.1
    · exact ⟨d, List.mem_cons_self, hl⟩
    · rw [written, List.foldl_cons, ← written] at h
      obtain ⟨d', hd', hplace⟩ := ih (h.trans_eq (Function.update_of_ne hl _ _).symm)
      exact ⟨d', List.mem_cons_of_mem d hd', hplace⟩

theorem exists_of_performed {steps : List Step} {result : Except RunError (List String)} {u : FileTree}
    (hperformed : j.Performed t steps result u) {l : Location} (h : u.file? l ≠ t.file? l) :
    ∃ m, .write m ∈ steps ∧ l = j.placeOf m := by
  cases hperformed with
  | finished done hsteps hwrites hfiles =>
    rw [hfiles] at h
    obtain ⟨d, hd, hplace⟩ := exists_of_written_ne h
    exact ⟨d.1, hsteps ▸ List.mem_map_of_mem hd, hplace⟩
  | stopped done rest hsteps hwrites hfails hfiles =>
    rw [hfiles] at h
    obtain ⟨d, hd, hplace⟩ := exists_of_written_ne h
    exact ⟨d.1, hsteps ▸ List.mem_append_left _ (List.mem_map_of_mem hd), hplace⟩

theorem exists_of_outcome {result : Except RunError RunResult} {u : FileTree} (houtcome : j.Outcome t result u)
    {l : Location} (h : u.file? l ≠ t.file? l) : ∃ m, j.Plans t m ∧ l = j.placeOf m := by
  cases houtcome with
  | unprepared hprepare hadds => exact absurd (congrFun hadds.file?_eq l) h
  | unread before path after hprepare hadds => exact absurd (congrFun hadds.file?_eq l) h
  | generated hprepare hadds hfiles hdocuments hperformed =>
    rw [← hfiles] at h
    obtain ⟨m, hm, hplace⟩ := exists_of_performed hperformed h
    exact ⟨m, ⟨_, by rwa [hprepare], hm⟩, hplace⟩

end Job

namespace RunRequest

variable {r : RunRequest} {t : FileTree} {directory : Location}

/-- Each file that a run creates or changes is the one of a module that it plans. It lies below the output directory
if the path of the module is confined, and only such paths lie below whatever the output directory is; without slashes
in the class of the module, all that matters is the start of its package. -/
theorem changed_below_output {l : Location} (h : (r.run t directory).2.file? l ≠ t.file? l) :
    ∃ j m, r.settle t directory = .ok j ∧ j.Plans t m ∧ l = j.placeOf m ∧ (m.path.Confined → j.outputPlace <+: l) ∧
      (m.path.Confined ↔ ∀ (directory : Location) (output : Path), output.Normal →
        destination directory output.text <+: destination directory (output.join m.path).text) ∧
      ('/' ∉ m.className.toList →
        (m.path.Confined ↔ (m.package.toList.dropWhile (· == '.')).head? ≠ some '/')) := by
  unfold run at h
  cases hsettle : r.settle t directory with
  | error e =>
    rw [hsettle] at h
    exact absurd (Eq.refl (t.file? l)) h
  | ok j =>
    rw [hsettle] at h
    obtain ⟨m, hplans, hplace⟩ := Job.exists_of_outcome (j.outcome_of_run t) h
    have hconfined := Path.confined_iff (Path.normal_ofText m.relativePath)
    have hbelow (hm : m.path.Confined) : j.outputPlace <+: l :=
      hplace ▸ hconfined.1 hm j.directory j.output (normal_output_of_settle hsettle)
    exact ⟨j, m, rfl, hplans, hplace, hbelow, hconfined, Module.confined_iff⟩

/-- A run on one type writes its module below the output directory. -/
theorem changed_below_output_user :
    let t : FileTree := .ofList [(["a.graphqls"], .file "enum User { A }".toUTF8), (["tpl"], .directory),
      (["tpl", "enum.py.j2"], .file "x = 1\n".toUTF8), (["tpl", "resolver.py.j2"], .file "y = 2\n".toUTF8)]
    let r : RunRequest :=
      { schemas := ["a.graphqls"], output := "out", options := .unset, optionsFile := none, templates := some "tpl"
        headers := [] }
    ∃ j m, r.settle t [] = .ok j ∧ j.Plans t m ∧ ["out", "user.py"] = j.placeOf m := by
  intro t r
  have hchanged : (r.run t []).2.file? ["out", "user.py"] ≠ t.file? ["out", "user.py"] := by decide +kernel
  obtain ⟨j, m, hsettle, hplans, hplace, -⟩ := changed_below_output hchanged
  exact ⟨j, m, hsettle, hplans, hplace⟩

/-- What class names start with may lead a module out of the output directory. -/
theorem changed_outside_output :
    let t : FileTree := .ofList [(["a.graphqls"], .file "enum User { A }".toUTF8), (["tpl"], .directory),
      (["tpl", "enum.py.j2"], .file "x = 1\n".toUTF8), (["tpl", "resolver.py.j2"], .file "y = 2\n".toUTF8)]
    let r : RunRequest :=
      { schemas := ["a.graphqls"], output := "out", options := { Options.unset with namePrefix := some "../" }
        optionsFile := none, templates := some "tpl", headers := [] }
    (r.run t []).2.file? ["_user.py"] ≠ t.file? ["_user.py"] ∧
      ¬ destination [] (Path.ofText r.output).text <+: ["_user.py"] := by
  decide +kernel

end RunRequest

end SchemaBindings
