import Mathlib.Data.List.Forall2
import SchemaBindings.Mapping

/-!
# What success says

A step that may fail succeeds exactly if all its parts do. For each mapping of definitions to modules this tells which
parts there are and how the module is made of their results.
-/

namespace SchemaBindings

open Schema

/-! ### Lists in step -/

section

variable {α β : Type} {R : α → β → Prop} {l : List α} {r : List β}

theorem exists_left_of_forall₂ (h : List.Forall₂ R l r) {b : β} (hb : b ∈ r) : ∃ a ∈ l, R a b := by
  induction h with
  | nil => cases hb
  | @cons a b' l r hab hrest ih =>
    rcases List.mem_cons.1 hb with rfl | hb
    · exact ⟨a, List.mem_cons_self, hab⟩
    · obtain ⟨a', ha', he⟩ := ih hb
      exact ⟨a', List.mem_cons_of_mem _ ha', he⟩

theorem exists_right_of_forall₂ (h : List.Forall₂ R l r) {a : α} (ha : a ∈ l) : ∃ b ∈ r, R a b :=
  exists_left_of_forall₂ h.flip ha

end

/-! ### Steps that may fail -/

theorem bind_eq_ok_iff {ε α β : Type} {x : Except ε α} {f : α → Except ε β} {b : β} :
    (x >>= f) = .ok b ↔ ∃ a, x = .ok a ∧ f a = .ok b := by
  cases x with
  | error e =>
    constructor
    · intro h; cases h
    · rintro ⟨_, h, _⟩; cases h
  | ok a =>
    constructor
    · exact fun h => ⟨a, rfl, h⟩
    · rintro ⟨a', h, hb⟩
      cases h
      exact hb

theorem bind_pure_eq_ok_iff {ε α β : Type} {x : Except ε α} {f : α → β} {b : β} :
    (x >>= fun a => pure (f a)) = .ok b ↔ ∃ a, x = .ok a ∧ f a = b := by
  rw [bind_eq_ok_iff]
  exact exists_congr fun a => and_congr_right fun _ => ⟨Except.ok.inj, congrArg Except.ok⟩

theorem exists_eq_ok_of_isSome {ε α : Type} {x : Except ε α} (h : x.toOption.isSome = true) : ∃ a, x = .ok a := by
  cases x with
  | error e => cases h
  | ok a => exact ⟨a, rfl⟩

/-- A step for each element succeeds if all of them do. -/
theorem mapM_eq_ok_iff {ε α β : Type} {f : α → Except ε β} {l : List α} {r : List β} :
    l.mapM f = .ok r ↔ List.Forall₂ (fun a b => f a = .ok b) l r := by
  induction l generalizing r with
  | nil =>
    rw [List.mapM_nil, List.forall₂_nil_left_iff]
    exact ⟨fun h => by cases h; rfl, fun h => by subst h; rfl⟩
  | cons a l ih =>
    rw [List.mapM_cons, bind_eq_ok_iff, List.forall₂_cons_left_iff]
    constructor
    · rintro ⟨b, hb, h⟩
      obtain ⟨bs, hbs, rfl⟩ := bind_pure_eq_ok_iff.1 h
      exact ⟨b, bs, hb, ih.1 hbs, rfl⟩
    · rintro ⟨b, bs, hb, hbs, rfl⟩
      exact ⟨b, hb, bind_pure_eq_ok_iff.2 ⟨bs, ih.2 hbs, rfl⟩⟩

section

variable {ε α β : Type} {f : α → Except ε β} {l : List α} {r : List β}

/-- Each result of a successful sequence of steps comes from an element. -/
theorem exists_of_mem_mapM (h : l.mapM f = .ok r) {b : β} (hb : b ∈ r) : ∃ a ∈ l, f a = .ok b :=
  exists_left_of_forall₂ (mapM_eq_ok_iff.1 h) hb

/-- Each element of a successful sequence of steps has a result. -/
theorem exists_mem_of_mapM (h : l.mapM f = .ok r) {a : α} (ha : a ∈ l) : ∃ b ∈ r, f a = .ok b :=
  exists_right_of_forall₂ (mapM_eq_ok_iff.1 h) ha

/-- A sequence of steps succeeds if each step does. -/
theorem exists_mapM_eq_ok (h : ∀ a ∈ l, ∃ b, f a = .ok b) : ∃ r, l.mapM f = .ok r := by
  induction l with
  | nil => exact ⟨[], rfl⟩
  | cons a l ih =>
    obtain ⟨⟨b, hb⟩, hrest⟩ := List.forall_mem_cons.1 h
    obtain ⟨r, hr⟩ := ih hrest
    exact ⟨b :: r, mapM_eq_ok_iff.2 (.cons hb (mapM_eq_ok_iff.1 hr))⟩

/-- What each step tells about its result holds along the whole sequence. -/
theorem map_eq_of_mapM {γ : Type} {g : β → γ} {k : α → γ} (h : l.mapM f = .ok r)
    (hgk : ∀ a b, f a = .ok b → g b = k a) : r.map g = l.map k := by
  have hall := mapM_eq_ok_iff.1 h
  induction hall with
  | nil => rfl
  | cons hab hrest ih => rw [List.map_cons, List.map_cons, hgk _ _ hab, ih (mapM_eq_ok_iff.2 hrest)]

end

/-! ### Modules of definitions -/

namespace Scope

variable {s : Scope} {m : Module}

theorem objectModule_eq_ok_iff {document : Document} {type : FieldedDefinition} :
    s.objectModule document type = .ok m ↔ ∃ fields, s.mapFields type.name ["self"] type.fields = .ok fields ∧
      ∃ bases, s.mapBases type.name (type.interfaces ++ unionsContaining document type.name) = .ok bases ∧
        s.modelModule type.name type.description (.record .object fields bases) = m :=
  bind_eq_ok_iff.trans (exists_congr fun _ => and_congr_right fun _ => bind_pure_eq_ok_iff)

theorem interfaceModule_eq_ok_iff {type : FieldedDefinition} :
    s.interfaceModule type = .ok m ↔ ∃ fields, s.mapFields type.name ["self"] type.fields = .ok fields ∧
      ∃ bases, s.mapBases type.name type.interfaces = .ok bases ∧
        s.modelModule type.name type.description (.record .interface fields bases) = m :=
  bind_eq_ok_iff.trans (exists_congr fun _ => and_congr_right fun _ => bind_pure_eq_ok_iff)

theorem inputModule_eq_ok_iff {name : String} {description : Option String} {inputs : List InputValue} :
    s.inputModule name description inputs = .ok m ↔ ∃ fields, s.mapInputFields name inputs = .ok fields ∧
      s.modelModule name description (.record .input fields []) = m := bind_pure_eq_ok_iff

theorem unionModule_eq_ok_iff {name : String} {description : Option String} {members : List String} :
    s.unionModule name description members = .ok m ↔ ∃ targets,
      members.mapM (fun member => do return (← s.resolveName member (some name)).target) = .ok targets ∧
        s.modelModule name description (.union targets) = m := bind_pure_eq_ok_iff

theorem operationModule_eq_ok_iff {root : String} {field : FieldDefinition} :
    s.operationModule root field = .ok m ↔ ∃ operation, s.mapOperation root field = .ok operation ∧
      s.apiModule (Naming.capitalize field.name ++ root) field.description (.operations root false [operation]) = m :=
  bind_pure_eq_ok_iff

theorem rootModule_eq_ok_iff {root : FieldedDefinition} :
    s.rootModule root = .ok m ↔ ∃ operations, root.fields.mapM (s.mapOperation root.name) = .ok operations ∧
      s.apiModule root.name root.description (.operations root.name true operations) = m := bind_pure_eq_ok_iff

theorem resolverModule_eq_ok_iff {document : Document} :
    s.resolverModule document = .ok m ↔ ∃ entries,
      (resolvedTypes document).mapM (fun type => s.resolverEntry type.1 type.2) = .ok entries ∧
        s.apiModule resolversClass none (.resolvers entries) = m := bind_pure_eq_ok_iff

end Scope

end SchemaBindings
