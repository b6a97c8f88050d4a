import SchemaBindings.Proofs.Bases

/-!
# Members of unions

The class of a union names the classes of its members, and they are meant to extend it. Both are read off the
union's own list, but a type only knows the unions of its document: so the two sides agree exactly if the document of
each member also holds the union (`memberClasses_iff_baseClasses`).
-/

namespace SchemaBindings

open Schema Relation

/-- The classes that the union of the module names. -/
def Module.memberClasses (m : Module) : List String :=
  match m.body with
  | .union members => members
  | _ => []

/-! ### Unions of a document -/

theorem mem_unionsContaining {document : Document} {n union : String} :
    union ∈ unionsContaining document n ↔
      ∃ description members, .union union description members ∈ document ∧ n ∈ members := by
  simp only [unionsContaining, List.mem_filterMap]
  constructor
  · rintro ⟨d, hd, he⟩
    cases d <;> simp at he
    obtain ⟨hn, rfl⟩ := he
    exact ⟨_, _, hd, hn⟩
  · rintro ⟨description, members, hd, hn⟩
    exact ⟨_, hd, by simp [hn]⟩

/-- With distinct names, a document holds a union under its name or not at all. -/
theorem mem_unionsContaining_iff {documents : List Document} (h : (typeNames documents).Nodup) {document : Document}
    (hdocument : document ∈ documents) {n union : String} {description : Option String} {members : List String}
    (hunion : .union union description members ∈ documents.flatten) :
    union ∈ unionsContaining document n ↔ .union union description members ∈ document ∧ n ∈ members := by
  rw [mem_unionsContaining]
  constructor
  · rintro ⟨description', members', hd, hn⟩
    have he := definition_unique h hunion (List.mem_flatten.2 ⟨document, hdocument, hd⟩) rfl rfl
    cases he
    exact ⟨hd, hn⟩
  · exact fun ⟨hd, hn⟩ => ⟨_, _, hd, hn⟩

/-- A union is no interface of the run. -/
theorem union_not_mem_implements {documents : List Document} (h : (typeNames documents).Nodup)
    (himplements : ImplementsInterfaces documents) {union : String} {description : Option String}
    {members : List String} (hunion : .union union description members ∈ documents.flatten) {d : Definition}
    (hd : d ∈ documents.flatten) : union ∉ d.implements := by
  intro hmem
  obtain ⟨type, htype, hname⟩ := mem_interfaceNames.1 (himplements d hd union hmem)
  cases definition_unique h hunion htype rfl (congrArg some hname)

namespace Scope

variable {s : Scope}

/-! ### The two sides -/

theorem memberClasses_unionModule {union : String} {description : Option String} {members : List String} {m : Module}
    (hm : s.unionModule union description members = .ok m) {n : String} (h : s.HasOwnClass n) :
    s.className n ∈ m.memberClasses ↔ n ∈ members := by
  obtain ⟨targets, htargets, rfl⟩ := unionModule_eq_ok_iff.1 hm
  show s.className n ∈ targets ↔ n ∈ members
  constructor
  · intro hn
    obtain ⟨member, hmember, hresolve⟩ := exists_of_mem_mapM htargets hn
    obtain ⟨r, hr, he⟩ := bind_pure_eq_ok_iff.1 hresolve
    exact (h.target_eq_iff hr).1 he ▸ hmember
  · intro hn
    obtain ⟨target, htarget, hresolve⟩ := exists_mem_of_mapM htargets hn
    obtain ⟨r, hr, he⟩ := bind_pure_eq_ok_iff.1 hresolve
    exact (h.target_eq_iff hr).2 rfl ▸ he ▸ htarget

theorem baseClasses_objectModule {document : Document} {type : FieldedDefinition} {m : Module}
    (hm : s.objectModule document type = .ok m) {n : String} (h : s.HasOwnClass n) :
    s.className n ∈ m.baseClasses ↔ n ∈ s.minimalNames (type.interfaces ++ unionsContaining document type.name) := by
  obtain ⟨fields, -, bases, hbases, rfl⟩ := objectModule_eq_ok_iff.1 hm
  exact className_mem_baseNames_iff h hbases

/-- A type extends a union if its document holds the union and it is a member. -/
theorem union_mem_minimalNames_iff {o : Options} {documents : List Document} (h : (typeNames documents).Nodup)
    (himplements : ImplementsInterfaces documents) {document : Document} (hdocument : document ∈ documents)
    {type : FieldedDefinition} (htype : .object type ∈ document) {union : String} {description : Option String}
    {members : List String} (hunion : .union union description members ∈ documents.flatten) :
    union ∈ (ofRun o documents).minimalNames (type.interfaces ++ unionsContaining document type.name) ↔
      .union union description members ∈ document ∧ type.name ∈ members := by
  have hown : union ∉ type.interfaces :=
    union_not_mem_implements h himplements hunion (List.mem_flatten.2 ⟨document, hdocument, htype⟩)
  have hinherited (n : String) : union ∉ (ofRun o documents).ancestors n := by
    intro hn
    obtain ⟨d, hd, hmem⟩ := exists_implements_of_mem_ancestors hn
    exact union_not_mem_implements h himplements hunion hd hmem
  rw [mem_minimalNames, List.mem_append, mem_unionsContaining_iff h hdocument hunion]
  constructor
  · exact fun hmem => hmem.1.resolve_left hown
  · exact fun hmem => ⟨.inr hmem, fun n _ => hinherited n⟩

/-- The union names a member type, and the type extends the union, in the same cases exactly if the union is in the
document of the type whenever it lists the type. -/
theorem memberClasses_iff_baseClasses {o : Options} {documents : List Document} (h : (typeNames documents).Nodup)
    (himplements : ImplementsInterfaces documents) {document : Document} (hdocument : document ∈ documents)
    {type : FieldedDefinition} (htype : .object type ∈ document) {union : String} {description : Option String}
    {members : List String} (hunion : .union union description members ∈ documents.flatten)
    {typeModule unionModule : Module}
    (htypeModule : (ofRun o documents).objectModule document type = .ok typeModule)
    (hunionModule : (ofRun o documents).unionModule union description members = .ok unionModule)
    (htypeClass : (ofRun o documents).HasOwnClass type.name) (hunionClass : (ofRun o documents).HasOwnClass union) :
    ((ofRun o documents).className type.name ∈ unionModule.memberClasses ↔
        (ofRun o documents).className union ∈ typeModule.baseClasses) ↔
      (type.name ∈ members → .union union description members ∈ document) := by
  rw [memberClasses_unionModule hunionModule htypeClass, baseClasses_objectModule htypeModule hunionClass,
    union_mem_minimalNames_iff h himplements hdocument htype hunion]
  constructor
  · exact fun hagree hn => (hagree.1 hn).1
  · exact fun hheld => ⟨fun hn => ⟨hheld hn, hn⟩, And.right⟩

/-- In one document, a member extends its union. -/
theorem memberClasses_iff_baseClasses_of_one_document :
    let type : FieldedDefinition := ⟨"T", none, [], []⟩
    let document : Document := [.union "U" none ["T"], .object type]
    let s := ofRun .unset [document]
    ∃ typeModule unionModule, s.objectModule document type = .ok typeModule ∧
      s.unionModule "U" none ["T"] = .ok unionModule ∧
      (s.className "T" ∈ unionModule.memberClasses ↔ s.className "U" ∈ typeModule.baseClasses) := by
  intro type document s
  have hancestors : s.ancestors "U" = [] := reachedFrom_nil []
  have hminimal : s.minimalNames ["U"] = ["U"] := by simp [minimalNames, List.eraseDups_cons, hancestors]
  have hbases : s.mapBases "T" ["U"] = .ok [.plain "U" "U" .generated] := by
    rw [mapBases, hminimal]
    decide +kernel
  have htype : s.objectModule document type =
      .ok (s.modelModule "T" none (.record .object [] [.plain "U" "U" .generated])) := by
    show (do return s.modelModule "T" none (.record .object [] (← s.mapBases "T" ["U"]))) = _
    rw [hbases]
    rfl
  have hunion : s.unionModule "U" none ["T"] = .ok (s.modelModule "U" none (.union ["T"])) := by decide +kernel
  refine ⟨_, _, htype, hunion, ?_⟩
  exact (memberClasses_iff_baseClasses (by decide) (by decide) List.mem_cons_self
    (List.mem_cons_of_mem _ List.mem_cons_self) List.mem_cons_self htype hunion (by decide +kernel)
    (by decide +kernel)).2 fun _ => List.mem_cons_self

/-- The two sides do not always agree: a union of another document names a type that does not extend it; and a union
of built-in integers seems to name a type that is called like their class. -/
theorem member_without_base :
    (let type : FieldedDefinition := ⟨"T", none, [], []⟩
      let documents : List Document := [[.union "U" none ["T"]], [.object type]]
      let s := ofRun .unset documents
      (typeNames documents).Nodup ∧ ImplementsInterfaces documents ∧ (∀ n ∈ typeNames documents, s.HasOwnClass n) ∧
        (s.unionModule "U" none ["T"]).toOption.map Module.memberClasses = some [s.className "T"] ∧
        (s.objectModule [.object type] type).toOption.map Module.baseClasses = some []) ∧
    (let type : FieldedDefinition := ⟨"int", none, [], []⟩
      let documents : List Document := [[.union "U" none ["Int"], .object type]]
      let s := ofRun .unset documents
      (typeNames documents).Nodup ∧ ImplementsInterfaces documents ∧
        (s.unionModule "U" none ["Int"]).toOption.map Module.memberClasses = some [s.className "int"] ∧
        (s.objectModule documents.flatten type).toOption.map Module.baseClasses = some []) := by
  decide +kernel

end Scope

end SchemaBindings
