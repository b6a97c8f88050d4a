import Mathlib.Logic.Function.Basic
import SchemaBindings.Proofs.Locations
import SchemaBindings.Proofs.Lookup
import SchemaBindings.Proofs.Success

/-!
# Changes of a file tree

What some work may do to a tree is a relation between the tree before it and the tree after it, whether it succeeds or
fails (`Changing.Ensures`). Making directories only adds directories, all of them on the way to the one that is asked
for (`AddsDirectories`); no file is touched.
-/

namespace SchemaBindings

/-! ### Work on a tree -/

namespace Changing

variable {ε ε' α β : Type}

theorem bind_apply (x : Changing ε α) (f : α → Changing ε β) (t : FileTree) :
    (x >>= f) t = match x t with
      | (.ok a, t') => f a t'
      | (.error e, t') => (.error e, t') := by
  show (ExceptT.bind x f) t = _
  rcases h : x t with ⟨_ | _, t'⟩
  · simp [ExceptT.bind, ExceptT.mk, bind, StateT.bind, ExceptT.bindCont, h]
    rfl
  · simp [ExceptT.bind, ExceptT.mk, bind, StateT.bind, ExceptT.bindCont, h]

theorem bind_eq_ok_iff {x : Changing ε α} {f : α → Changing ε β} {t v : FileTree} {b : β} :
    (x >>= f) t = (.ok b, v) ↔ ∃ a u, x t = (.ok a, u) ∧ f a u = (.ok b, v) := by
  rw [bind_apply]
  rcases x t with ⟨e | a, u⟩
  · exact ⟨nofun, fun ⟨_, _, h, _⟩ => nomatch h⟩
  · refine ⟨fun h => ⟨a, u, rfl, h⟩, ?_⟩
    rintro ⟨_, _, ⟨⟩, h⟩
    exact h

theorem bind_eq_error_iff {x : Changing ε α} {f : α → Changing ε β} {t v : FileTree} {e : ε} :
    (x >>= f) t = (.error e, v) ↔ x t = (.error e, v) ∨ ∃ a u, x t = (.ok a, u) ∧ f a u = (.error e, v) := by
  rw [bind_apply]
  rcases x t with ⟨e' | a, u⟩
  · constructor
    · rintro ⟨⟩
      exact .inl rfl
    · rintro (⟨⟨⟩⟩ | ⟨_, _, ⟨⟩, -⟩)
      rfl
  · constructor
    · exact fun h => .inr ⟨a, u, rfl, h⟩
    · rintro (⟨⟨⟩⟩ | ⟨_, _, ⟨⟩, h⟩)
      exact h

theorem bind_pure_apply (x : Changing ε α) (f : α → β) (t : FileTree) :
    (x >>= fun a => Pure.pure (f a)) t = ((x t).1.map f, (x t).2) := by
  rw [bind_apply]
  rcases x t with ⟨_ | _, t'⟩ <;> rfl

theorem map_apply (f : α → β) (x : Changing ε α) (t : FileTree) : (f <$> x) t = ((x t).1.map f, (x t).2) := by
  rw [← bind_pure_comp, bind_pure_apply]

theorem tryCatch_apply (x : Changing ε α) (f : ε → Changing ε α) (t : FileTree) :
    (tryCatch x f) t = match x t with
      | (.ok a, t') => (.ok a, t')
      | (.error e, t') => f e t' := by
  show (ExceptT.tryCatch x f) t = _
  rcases h : x t with ⟨_ | _, t'⟩ <;> simp [ExceptT.tryCatch, ExceptT.mk, bind, StateT.bind, h]
  rfl

theorem looking_apply (look : FileTree → Except ε α) (t : FileTree) : looking look t = (look t, t) := rfl

theorem replacing_apply (change : FileTree → Except ε FileTree) (t : FileTree) :
    replacing change t = match change t with
      | .ok t' => (.ok (), t')
      | .error e => (.error e, t) := rfl

theorem replacing_eq_ok_iff {change : FileTree → Except ε FileTree} {t u : FileTree} :
    replacing change t = (.ok (), u) ↔ change t = .ok u := by
  rw [replacing_apply]
  cases change t with
  | error e => exact ⟨nofun, nofun⟩
  | ok t' =>
    constructor
    · rintro ⟨⟩
      rfl
    · rintro ⟨⟩
      rfl

theorem adapt_apply (wrap : ε → ε') (x : Changing ε α) (t : FileTree) :
    x.adapt wrap t = ((x t).1.mapError wrap, (x t).2) := rfl

/-- However the work ends, it leads to a tree that is in this relation to the tree before it. -/
def Ensures (R : FileTree → FileTree → Prop) (x : Changing ε α) : Prop := ∀ t, R t (x t).2

namespace Ensures

variable {R : FileTree → FileTree → Prop} {x : Changing ε α}

theorem pure (hrefl : ∀ t, R t t) (a : α) : Ensures R (Pure.pure a : Changing ε α) := hrefl

theorem throw (hrefl : ∀ t, R t t) (e : ε) : Ensures R (MonadExcept.throw e : Changing ε α) := hrefl

theorem bind (htrans : ∀ {t t' t''}, R t t' → R t' t'' → R t t'') {f : α → Changing ε β} (hx : Ensures R x)
    (hf : ∀ a, Ensures R (f a)) : Ensures R (x >>= f) := by
  intro t
  have hfirst := hx t
  rw [bind_apply]
  generalize x t = r at hfirst ⊢
  rcases r with ⟨_ | a, t'⟩
  · exact hfirst
  · exact htrans hfirst (hf a t')

theorem get_bind {f : FileTree → Changing ε α} (hf : ∀ t, Ensures R (f t)) : Ensures R (get >>= f) := fun t => hf t t

theorem tryCatch (htrans : ∀ {t t' t''}, R t t' → R t' t'' → R t t'') {f : ε → Changing ε α} (hx : Ensures R x)
    (hf : ∀ e, Ensures R (f e)) : Ensures R (MonadExcept.tryCatch x f) := by
  intro t
  have hfirst := hx t
  rw [tryCatch_apply]
  generalize x t = r at hfirst ⊢
  rcases r with ⟨e | _, t'⟩
  · exact htrans hfirst (hf e t')
  · exact hfirst

theorem looking (hrefl : ∀ t, R t t) (look : FileTree → Except ε α) : Ensures R (Changing.looking look) := hrefl

theorem adapt (hx : Ensures R x) (wrap : ε → ε') : Ensures R (x.adapt wrap : Changing ε' α) := hx

theorem replacing (hrefl : ∀ t, R t t) {change : FileTree → Except ε FileTree}
    (h : ∀ t t', change t = .ok t' → R t t') : Ensures R (Changing.replacing change) := by
  intro t
  rw [replacing_apply]
  cases hchange : change t with
  | ok t' => exact h t t' hchange
  | error e => exact hrefl t

end Ensures

end Changing

namespace FileTree

variable {t t' t'' : FileTree} {directory l l' : Location} {path : String}

/-! ### Files -/

theorem entries_set {e : Entry} (h : t.Fits l e) : (t.set l e).entries = t.entries.put l e := by rw [set, dif_pos h]

theorem entryAt_set {e : Entry} (h : t.Fits l e) (l' : Location) :
    entry? (t.set l e) l' = if l' = l then some e else t.entry? l' := by
  unfold entry?
  rw [entries_set h]
  by_cases hl' : l' = []
  · rw [hl', if_neg (Ne.symm h.ne_nil)]
    rfl
  · have hroot : ¬ l'.isEmpty = true := by simpa using hl'
    rw [entryIn, entryIn, if_neg hroot, if_neg hroot, Table.find?_put]

/-- Where there is no directory, a path leads to a place at which anything can be set. -/
theorem fits_of_locate (hlocate : t.locate directory path = .ok l) (h : t.entry? l ≠ some .directory) (e : Entry) :
    t.Fits l e where
  ne_nil := by
    rintro rfl
    exact h rfl
  place := isPlace_of_locate hlocate
  replaced hdirectory := absurd hdirectory h

/-- The content of the file at a location. -/
def file? (t : FileTree) (l : Location) : Option ByteArray :=
  match t.entry? l with
  | some (.file content) => some content
  | _ => none

theorem file?_eq_some_iff {content : ByteArray} :
    t.file? l = some content ↔ t.entry? l = some (.file content) := by
  unfold file?
  split
  · next content' h => simp [h]
  · next hne => exact iff_of_false nofun (hne content)

theorem isSome_entry?_of_file? (h : (t.file? l).isSome = true) : (t.entry? l).isSome = true := by
  obtain ⟨content, hcontent⟩ := Option.isSome_iff_exists.1 h
  exact Option.isSome_iff_exists.2 ⟨_, file?_eq_some_iff.1 hcontent⟩

/-! ### More directories -/

/-- The trees agree, but for directories of the second where the first has nothing; these are at certain places. -/
def AddsDirectories (places : Location → Prop) (t u : FileTree) : Prop :=
  ∀ l, u.entry? l = t.entry? l ∨ places l ∧ t.entry? l = none ∧ u.entry? l = some .directory

namespace AddsDirectories

variable {places places' : Location → Prop}

theorem refl (t : FileTree) : t.AddsDirectories places t := fun _ => .inl rfl

theorem trans (h : t.AddsDirectories places t') (h' : t'.AddsDirectories places t'') :
    t.AddsDirectories places t'' := by
  intro l
  rcases h l with hl | ⟨hplaces, hnone, hl⟩
  · rw [← hl]
    exact h' l
  · rcases h' l with hl' | ⟨-, hnone', -⟩
    · exact .inr ⟨hplaces, hnone, hl'.trans hl⟩
    · rw [hl] at hnone'
      cases hnone'

theorem mono (h : t.AddsDirectories places t') (hplaces : ∀ l, places l → places' l) :
    t.AddsDirectories places' t' := fun l => (h l).imp_right fun hl => ⟨hplaces l hl.1, hl.2⟩

theorem file?_eq (h : t.AddsDirectories places t') : t'.file? = t.file? := by
  funext l
  rcases h l with hl | ⟨-, hnone, hl⟩
  · rw [file?, file?, hl]
  · rw [file?, file?, hl, hnone]

theorem keepsDirectories (h : t.AddsDirectories places t') : t.KeepsDirectories t' := by
  intro l hl
  rcases h l with hl' | ⟨-, hnone, -⟩
  · rw [hl', hl]
  · rw [hl] at hnone
    cases hnone

end AddsDirectories

theorem addsDirectories_of_makeDirectory (h : t.makeDirectory directory path = .ok t') :
    t.AddsDirectories (· = destination directory path) t' := by
  obtain ⟨place, hlocate, h⟩ := bind_eq_ok_iff.1 h
  split at h
  · cases h
  · next hentry =>
    cases h
    have hfits : t.Fits place .directory := fits_of_locate hlocate (by simp [hentry]) _
    intro l
    rw [entryAt_set hfits]
    by_cases hplace : l = place
    · rw [if_pos hplace, hplace]
      exact .inr ⟨eq_destination_of_locate hlocate, hentry, rfl⟩
    · rw [if_neg hplace]
      exact .inl rfl

theorem addsDirectories_of_provideDirectory (h : t.provideDirectory directory path = .ok t') :
    t.AddsDirectories (· = destination directory path) t' := by
  unfold provideDirectory at h
  split at h
  · next hmake => exact Except.ok.inj h ▸ addsDirectories_of_makeDirectory hmake
  · split at h
    · exact Except.ok.inj h ▸ .refl t
    · cases h

/-! ### The way to a directory -/

/-- The names down to some directory on the way lead to this location. -/
def OnWay (directory : Location) (p : Path) (l : Location) : Prop :=
  ∃ names, names <+: p.names ∧ l = destination directory (Path.text { p with names })

private theorem onWay_of_outer {root name : String} {outer : List String}
    (hl : OnWay directory { root, names := outer.reverse } l) :
    OnWay directory { root, names := (name :: outer).reverse } l := by
  obtain ⟨names, hnames, rfl⟩ := hl
  refine ⟨names, hnames.trans ?_, rfl⟩
  rw [List.reverse_cons]
  exact List.prefix_append _ _

private theorem ensures_provideDirectory (directory : Location) (p : Path) :
    (Changing.replacing (·.provideDirectory directory p.text)).Ensures (AddsDirectories (OnWay directory p)) :=
  .replacing .refl fun _ _ h => (addsDirectories_of_provideDirectory h).mono fun _ hl => ⟨_, List.prefix_refl _, hl⟩

private theorem ensures_onDemand_reverse (directory : Location) (root : String) (inner : List String) :
    (provideOnDemand directory root inner).Ensures
      (AddsDirectories (OnWay directory { root, names := inner.reverse })) := by
  induction inner with
  | nil => exact ensures_provideDirectory _ _
  | cons name outer ih =>
    have hlast := ensures_provideDirectory directory { root, names := (name :: outer).reverse }
    unfold provideOnDemand
    refine .get_bind fun t => ?_
    split
    · exact .bind .trans (fun t => (ih t).mono fun _ => onWay_of_outer) fun _ => hlast
    · exact hlast

/-- Making a directory on demand adds directories on the way to it, also if it fails. -/
theorem ensures_provideOnDemand (directory : Location) (p : Path) :
    (provideOnDemand directory p.root p.names.reverse).Ensures (AddsDirectories (OnWay directory p)) := by
  have h := ensures_onDemand_reverse directory p.root p.names.reverse
  rwa [List.reverse_reverse] at h

private theorem ensures_fromTop_reverse (directory : Location) (root : String) (inner : List String) :
    (provideFromTop directory root inner).Ensures
      (AddsDirectories (OnWay directory { root, names := inner.reverse })) := by
  induction inner with
  | nil => exact ensures_provideDirectory _ _
  | cons name outer ih =>
    have hlast := ensures_provideDirectory directory { root, names := (name :: outer).reverse }
    -- what is in the place of an outer directory is no reason to stop yet
    have hcaught (fault : FileFault) :
        (if fault.cause == .occupied then pure () else throw fault : Changing FileFault Unit).Ensures
          (AddsDirectories (OnWay directory { root, names := (name :: outer).reverse })) := by
      split
      · exact .pure .refl ()
      · exact .throw .refl fault
    unfold provideFromTop
    refine .get_bind fun t => ?_
    split
    · have houter : (provideFromTop directory root outer).Ensures
          (AddsDirectories (OnWay directory { root, names := (name :: outer).reverse })) :=
        fun t => (ih t).mono fun _ => onWay_of_outer
      exact .bind .trans (.tryCatch .trans houter hcaught) fun _ => hlast
    · exact hlast

/-- Making a directory from the top adds directories on the way to it, also if it fails. -/
theorem ensures_provideFromTop (directory : Location) (p : Path) :
    (provideFromTop directory p.root p.names.reverse).Ensures (AddsDirectories (OnWay directory p)) := by
  have h := ensures_fromTop_reverse directory p.root p.names.reverse
  rwa [List.reverse_reverse] at h

/-! ### Files of modules -/

/-- What a run reads stays: every directory, and every file that is no module. -/
structure KeepsInputs (t t' : FileTree) : Prop where
  directories : t.KeepsDirectories t'
  files : ∀ l, ¬ Location.EndsIn ".py" l → t'.file? l = t.file? l

theorem KeepsInputs.refl (t : FileTree) : t.KeepsInputs t := ⟨fun _ hl => hl, fun _ _ => rfl⟩

theorem KeepsInputs.trans (h : t.KeepsInputs t') (h' : t'.KeepsInputs t'') : t.KeepsInputs t'' :=
  ⟨fun l hl => h'.directories l (h.directories l hl), fun l hl => (h'.files l hl).trans (h.files l hl)⟩

theorem AddsDirectories.keepsInputs {places : Location → Prop} (h : t.AddsDirectories places t') : t.KeepsInputs t' :=
  ⟨h.keepsDirectories, fun _ _ => congrFun h.file?_eq _⟩

theorem exists_set_of_write {content : ByteArray} (h : t.write directory path content = .ok t') :
    ∃ l, t.locate directory path = .ok l ∧ t.entry? l ≠ some .directory ∧ t.Fits l (.file content) ∧
      t' = t.set l (.file content) := by
  obtain ⟨l, hlocate, h⟩ := bind_eq_ok_iff.1 h
  split at h
  · cases h
  · next hentry => exact ⟨l, hlocate, hentry, fits_of_locate hlocate hentry _, (Except.ok.inj h).symm⟩

/-- Writing changes the file at the path and no other. -/
theorem file?_of_write {content : ByteArray} (h : t.write directory path content = .ok t') :
    t'.file? = Function.update t.file? (destination directory path) (some content) := by
  obtain ⟨l, hlocate, -, hfits, rfl⟩ := exists_set_of_write h
  rw [← eq_destination_of_locate hlocate]
  funext l'
  rw [file?, entryAt_set hfits]
  by_cases hl : l' = l
  · rw [hl, Function.update_self, if_pos rfl]
  · rw [Function.update_of_ne hl, if_neg hl, file?]

theorem keepsInputs_of_write {content : ByteArray} (hpath : EndsIn ".py" path)
    (h : t.write directory path content = .ok t') : t.KeepsInputs t' := by
  have hfiles := file?_of_write h
  obtain ⟨l, hlocate, hentry, hfits, rfl⟩ := exists_set_of_write h
  refine ⟨fun l' hl' => ?_, fun l' hl' => ?_⟩
  · have hne : l' ≠ l := by
      rintro rfl
      exact hentry hl'
    rw [entryAt_set hfits, if_neg hne, hl']
  · have hne : l' ≠ destination directory path := by
      rintro rfl
      exact hl' (eq_destination_of_locate hlocate ▸ endsIn_of_locate isEnding_source hpath hlocate)
    rw [hfiles, Function.update_of_ne hne]

/-! ### Files that are read -/

theorem look_eq_ok_iff {e : Entry} :
    t.look directory path = .ok e ↔ ∃ l, t.locate directory path = .ok l ∧ t.entry? l = some e := by
  refine bind_eq_ok_iff.trans (exists_congr fun l => and_congr_right fun _ => ?_)
  cases t.entry? l with
  | none => exact ⟨nofun, nofun⟩
  | some e' => exact ⟨fun h => congrArg some (Except.ok.inj h), fun h => congrArg Except.ok (Option.some.inj h)⟩

theorem exists_locate_of_isDirectory (h : t.isDirectory directory path = true) :
    ∃ l, t.locate directory path = .ok l ∧ t.entry? l = some .directory := by
  unfold isDirectory at h
  split at h
  · next hlook => exact look_eq_ok_iff.1 hlook
  · cases h

end FileTree

end SchemaBindings
