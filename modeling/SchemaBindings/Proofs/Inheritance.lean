import SchemaBindings.Proofs.UnknownTypes

/-!
# Inheritance of interfaces

A class leaves out the bases that another of its bases inherits. What the schema says about the other base is true of
its class only if the run generates this class: a custom type knows nothing of the schema. So a class leads to an
interface exactly if the definitions lead there by bases that are kept, through classes of the run alone; this is the
case if everything between the two is a class of the run (`inherits_iff_leads`), and it may fail otherwise
(`not_inherits_through_custom_type`).
-/

namespace SchemaBindings

open Schema Relation

/-- What the class of the module extends. -/
def Module.bases (m : Module) : List Reference :=
  match m.body with
  | .record _ _ bases => bases
  | _ => []

/-- The class or type that a reference stands for: its name, and where it comes from. -/
def Reference.meaning (r : Reference) : String × Origin := (r.target, r.origin)

namespace Scope

/-! ### From class to class -/

/-- The module is the model of the type with this name. -/
def Models (s : Scope) (documents : List Document) (n : String) (m : Module) : Prop :=
  ∃ document ∈ documents, ∃ d ∈ document, d.modelName? = some n ∧ m ∈ stepModules (s.definitionModules? document d)

/-- The class of a type has a base that stands for `goal`, or one of its bases is a class of the run that leads to
such a base. -/
inductive LeadsTo (s : Scope) (documents : List Document) (goal : String × Origin) : String → Prop
  | base {n : String} {m : Module} {r : Reference} (hm : s.Models documents n m) (hr : r ∈ m.bases)
      (hgoal : r.meaning = goal) : LeadsTo s documents goal n
  | through {n : String} {m : Module} {r : Reference} (hm : s.Models documents n m) (hr : r ∈ m.bases)
      (hgenerated : r.isGenerated = true) (h : LeadsTo s documents goal r.schemaName) : LeadsTo s documents goal n

/-- What a name stands for. -/
def meaning? (s : Scope) (n : String) : Option (String × Origin) :=
  (s.resolveName n none).toOption.map Reference.meaning

/-- Following the bases from the class of `n` reaches what `i` stands for. -/
def Inherits (s : Scope) (documents : List Document) (n i : String) : Prop :=
  ∃ goal, s.meaning? i = some goal ∧ s.LeadsTo documents goal n

/-! ### From definition to definition -/

/-- Some definition of `a` lists `b`, and lists nothing that inherits `b`. -/
def Keeps (s : Scope) (documents : List Document) (a b : String) : Prop :=
  ∃ document ∈ documents, ∃ d ∈ document, d.modelName? = some a ∧ b ∈ s.minimalNames (d.listed document)

/-- A base that is kept and that is a class of the run. -/
def KeepsClass (s : Scope) (documents : List Document) (a b : String) : Prop :=
  s.Keeps documents a b ∧ s.Generates b

/-- Kept bases lead from `n` through classes of the run to a name that means the same as `i`. -/
def Leads (s : Scope) (documents : List Document) (n i : String) : Prop :=
  ∃ a b, ReflTransGen (s.KeepsClass documents) n a ∧ s.Keeps documents a b ∧
    ∃ goal, s.meaning? b = some goal ∧ s.meaning? i = some goal

variable {s : Scope} {documents : List Document}

theorem meaning?_of_resolveName {n : String} {context : Option String} {r : Reference}
    (h : s.resolveName n context = .ok r) : s.meaning? n = some r.meaning := by
  rw [meaning?, resolveName_of_ok h]
  rfl

/-! ### Bases of models -/

private theorem exists_base_of_mapBases {owner : String} {names : List String} {bases : List Reference}
    (hbases : s.mapBases owner names = .ok bases) {n : String} (hn : n ∈ s.minimalNames names) :
    ∃ r ∈ bases, r.schemaName = n ∧ s.resolveName n none = .ok r := by
  obtain ⟨r, hr, hresolve⟩ := exists_mem_of_mapM hbases hn
  have hname := schemaName_of_resolveName hresolve
  exact ⟨r, hr, hname, resolveName_of_ok hresolve⟩

private theorem resolveName_of_mem_mapBases {owner : String} {names : List String} {bases : List Reference}
    (hbases : s.mapBases owner names = .ok bases) {r : Reference} (hr : r ∈ bases) :
    r.schemaName ∈ s.minimalNames names ∧ s.resolveName r.schemaName none = .ok r := by
  obtain ⟨n, hn, hresolve⟩ := exists_of_mem_mapM hbases hr
  have hname := schemaName_of_resolveName hresolve
  exact hname ▸ ⟨hn, resolveName_of_ok hresolve⟩

/-- The bases of a model are what its definition keeps. -/
theorem keeps_of_mem_bases {n : String} {m : Module} (hm : s.Models documents n m) {r : Reference} (hr : r ∈ m.bases) :
    s.Keeps documents n r.schemaName ∧ s.resolveName r.schemaName none = .ok r := by
  obtain ⟨document, hdocument, d, hd, hname, hm⟩ := hm
  have hkept (h : r.schemaName ∈ s.minimalNames (d.listed document) ∧ s.resolveName r.schemaName none = .ok r) :
      s.Keeps documents n r.schemaName ∧ s.resolveName r.schemaName none = .ok r :=
    ⟨⟨document, hdocument, d, hd, hname, h.1⟩, h.2⟩
  obtain ⟨modules, hstep, hm⟩ := mem_stepModules_iff.1 hm
  cases yields_of_definitionModules hstep with
  | operations hroot => simp [Definition.modelName?, hroot] at hname
  | withoutApis => cases hm
  | object hroot h =>
    obtain ⟨fields, -, bases, hbases, rfl⟩ := objectModule_eq_ok_iff.1 (List.mem_singleton.1 hm ▸ h)
    exact hkept (resolveName_of_mem_mapBases hbases hr)
  | interface h =>
    obtain ⟨fields, -, bases, hbases, rfl⟩ := interfaceModule_eq_ok_iff.1 (List.mem_singleton.1 hm ▸ h)
    exact hkept (resolveName_of_mem_mapBases hbases hr)
  | enumeration =>
    rw [List.mem_singleton.1 hm] at hr
    cases hr
  | input h =>
    obtain ⟨fields, -, rfl⟩ := inputModule_eq_ok_iff.1 (List.mem_singleton.1 hm ▸ h)
    cases hr
  | union h =>
    obtain ⟨targets, -, rfl⟩ := unionModule_eq_ok_iff.1 (List.mem_singleton.1 hm ▸ h)
    cases hr

/-- In a run that is mapped without failure, what a definition keeps is a base of its model. -/
theorem exists_base_of_keeps (hmaps : s.MapsAll documents) {a b : String} (h : s.Keeps documents a b) :
    ∃ m r, s.Models documents a m ∧ r ∈ m.bases ∧ r.schemaName = b ∧ s.resolveName b none = .ok r := by
  obtain ⟨document, hdocument, d, hd, hname, hb⟩ := h
  have hstep {step : Except UnknownType (List Module)} (h : s.definitionModules? document d = some step) :
      ∃ modules, s.definitionModules? document d = some (.ok modules) := by
    obtain ⟨modules, rfl⟩ := exists_ok_of_definitionModules? (hmaps document hdocument) hd h
    exact ⟨modules, h⟩
  have hmodels {m : Module} (h : s.definitionModules? document d = some (.ok [m])) : s.Models documents a m := by
    refine ⟨document, hdocument, d, hd, hname, ?_⟩
    rw [h]
    exact List.mem_singleton.2 rfl
  match d, hname, hb with
  | .object type, hname, hb =>
    obtain ⟨modules, h⟩ := hstep rfl
    cases yields_of_definitionModules h with
    | operations hroot => simp [Definition.modelName?, hroot] at hname
    | withoutApis hroot => simp [Definition.modelName?, hroot] at hname
    | object hroot hm =>
      obtain ⟨fields, -, bases, hbases, rfl⟩ := objectModule_eq_ok_iff.1 hm
      obtain ⟨r, hr, hresolve⟩ := exists_base_of_mapBases hbases hb
      exact ⟨_, r, hmodels h, hr, hresolve⟩
  | .interface type, hname, hb =>
    obtain ⟨modules, h⟩ := hstep rfl
    cases yields_of_definitionModules h with
    | interface hm =>
      obtain ⟨fields, -, bases, hbases, rfl⟩ := interfaceModule_eq_ok_iff.1 hm
      obtain ⟨r, hr, hresolve⟩ := exists_base_of_mapBases hbases hb
      exact ⟨_, r, hmodels h, hr, hresolve⟩
  | .scalar _, _, hb | .schema, _, hb | .directive _, _, hb | .extension .., _, hb | .operation _, _, hb
  | .fragment _, _, hb | .enumeration .., _, hb | .input .., _, hb | .union .., _, hb =>
    exact absurd (mem_minimalNames.1 hb).1 List.not_mem_nil

/-! ### Classes follow definitions -/

theorem leads_of_leadsTo {goal : String × Origin} {n i : String} (hi : s.meaning? i = some goal)
    (h : s.LeadsTo documents goal n) : s.Leads documents n i := by
  induction h with
  | @base n m r hm hr hgoal =>
    obtain ⟨hkeeps, hresolve⟩ := keeps_of_mem_bases hm hr
    exact ⟨n, r.schemaName, .refl, hkeeps, goal, hgoal ▸ meaning?_of_resolveName hresolve, hi⟩
  | @through n m r hm hr hgenerated _ ih =>
    obtain ⟨a, b, hchain, hkeeps⟩ := ih
    obtain ⟨hfirst, hresolve⟩ := keeps_of_mem_bases hm hr
    exact ⟨a, b, .head ⟨hfirst, generates_of_resolveName hresolve hgenerated⟩ hchain, hkeeps⟩

theorem leadsTo_of_chain (hmaps : s.MapsAll documents) {goal : String × Origin} {n a b : String}
    (hchain : ReflTransGen (s.KeepsClass documents) n a) (hkeeps : s.Keeps documents a b)
    (hb : s.meaning? b = some goal) : s.LeadsTo documents goal n := by
  induction hchain using ReflTransGen.head_induction_on with
  | refl =>
    obtain ⟨m, r, hm, hr, -, hresolve⟩ := exists_base_of_keeps hmaps hkeeps
    rw [meaning?_of_resolveName hresolve] at hb
    exact .base hm hr (Option.some.inj hb)
  | head hfirst _ ih =>
    obtain ⟨m, r, hm, hr, rfl, hresolve⟩ := exists_base_of_keeps hmaps hfirst.1
    rw [hfirst.2.resolveName] at hresolve
    have hgenerated : r.isGenerated = true := by
      rw [← Except.ok.inj hresolve]
      rfl
    exact .through hm hr hgenerated ih

theorem inherits_iff (hmaps : s.MapsAll documents) {n i : String} :
    s.Inherits documents n i ↔ s.Leads documents n i := by
  constructor
  · rintro ⟨goal, hi, h⟩
    exact leads_of_leadsTo hi h
  · rintro ⟨a, b, hchain, hkeeps, goal, hb, hi⟩
    exact ⟨goal, hi, leadsTo_of_chain hmaps hchain hkeeps hb⟩

/-! ### What lies between -/

/-- The name is listed, or inherited by what is listed, and it inherits `i` itself. -/
def Between (s : Scope) (names : List String) (i j : String) : Prop :=
  i ∈ s.ancestors j ∧ ∃ k ∈ names, k = j ∨ j ∈ s.ancestors k

private theorem exists_minimal_towards (hacyclic : ∀ n, n ∉ s.ancestors n) {names : List String} {i k : String}
    (hk : k ∈ names) (hi : k = i ∨ i ∈ s.ancestors k) : ∃ m ∈ s.minimalNames names, m = i ∨ i ∈ s.ancestors m := by
  obtain ⟨m, hm, hmk⟩ := exists_minimal_above hacyclic hk
  refine ⟨m, hm, ?_⟩
  rcases hi with rfl | hi
  · exact hmk
  · rcases hmk with rfl | hkm
    · exact .inr hi
    · exact .inr (mem_ancestors_trans hkm hi)

section

variable {o : Options}

/-- An interface leads to what it inherits by bases that are kept, if all between them are classes of the run. The
induction is on the number of its ancestors. -/
theorem exists_chain_of_mem_ancestors (hacyclic : ∀ n, n ∉ (ofRun o documents).ancestors n) {a i : String}
    (h : i ∈ (ofRun o documents).ancestors a)
    (hbetween : ∀ j ∈ (ofRun o documents).ancestors a, i ∈ (ofRun o documents).ancestors j →
      (ofRun o documents).Generates j) :
    ∃ k, ReflTransGen ((ofRun o documents).KeepsClass documents) a k ∧ (ofRun o documents).Keeps documents k i := by
  induction hcard : ((ofRun o documents).ancestors a).toFinset.card using Nat.strongRecOn generalizing a with
  | ind count ih =>
    obtain ⟨b, ⟨successors, hfind, hb⟩, hbi⟩ := TransGen.head'_iff.1 (mem_ancestors_iff.1 h)
    obtain ⟨type, htype, rfl, rfl⟩ := interface_of_find? hfind
    obtain ⟨document, hdocument, htype⟩ := List.mem_flatten.1 htype
    have hi : b = i ∨ i ∈ (ofRun o documents).ancestors b := by
      rcases reflTransGen_iff_eq_or_transGen.1 hbi with rfl | hbi
      · exact .inl rfl
      · exact .inr (mem_ancestors_iff.2 hbi)
    -- `a` keeps some name towards `i`, which has fewer ancestors than `a`
    obtain ⟨m, hm, hmi⟩ := exists_minimal_towards hacyclic hb hi
    have hkeeps : (ofRun o documents).Keeps documents type.name m := ⟨document, hdocument, _, htype, rfl, hm⟩
    rcases hmi with rfl | hmi
    · exact ⟨type.name, .refl, hkeeps⟩
    · have hma : m ∈ (ofRun o documents).ancestors type.name :=
        mem_ancestors_iff.2 (.single ⟨_, hfind, (mem_minimalNames.1 hm).1⟩)
      have hlt := card_ancestors_lt (hacyclic m) hma
      obtain ⟨k, hchain, hk⟩ :=
        ih _ (hcard ▸ hlt) hmi (fun j hj hij => hbetween j (mem_ancestors_trans hma hj) hij) rfl
      exact ⟨k, .head ⟨hkeeps, hbetween m hma hmi⟩ hchain, hk⟩

/-- The class of a type inherits an interface exactly if the definitions lead there by bases that are kept, through
classes of the run; so it inherits each interface that the type implements, if all between the two are classes of the
run. -/
theorem inherits_iff_leads (hmaps : (ofRun o documents).MapsAll documents)
    (hacyclic : ∀ n ∈ interfaceNames documents, n ∉ (ofRun o documents).ancestors n) {document : Document}
    (hdocument : document ∈ documents) {d : Definition} (hd : d ∈ document) {n i : String} (hn : d.modelName? = some n)
    (hi : i ∈ d.implements) :
    ((ofRun o documents).Inherits documents n i ↔ (ofRun o documents).Leads documents n i) ∧
      ((∀ j, (ofRun o documents).Between (d.listed document) i j → (ofRun o documents).Generates j) →
        (ofRun o documents).Inherits documents n i) := by
  refine ⟨inherits_iff hmaps, fun hbetween => ?_⟩
  have hacyclic := not_mem_ancestors_self hacyclic
  have hchain : ∃ k, ReflTransGen ((ofRun o documents).KeepsClass documents) n k ∧
      (ofRun o documents).Keeps documents k i := by
    obtain ⟨m, hm, hmi⟩ := exists_minimal_towards hacyclic (mem_listed_of_implements hi) (.inl rfl)
    have hkeeps : (ofRun o documents).Keeps documents n m := ⟨document, hdocument, d, hd, hn, hm⟩
    have hlisted := (mem_minimalNames.1 hm).1
    rcases hmi with rfl | hmi
    · exact ⟨n, .refl, hkeeps⟩
    · obtain ⟨k, hchain, hk⟩ := exists_chain_of_mem_ancestors hacyclic hmi
        fun j hj hij => hbetween j ⟨hij, m, hlisted, .inr hj⟩
      exact ⟨k, .head ⟨hkeeps, hbetween m ⟨hmi, m, hlisted, .inl rfl⟩⟩ hchain, hk⟩
  obtain ⟨k, hchain, hk⟩ := hchain
  obtain ⟨-, r, -, -, -, hresolve⟩ := exists_base_of_keeps hmaps hk
  have hgoal := meaning?_of_resolveName hresolve
  exact (inherits_iff hmaps).2 ⟨k, i, hchain, hk, _, hgoal, hgoal⟩

end

/-! ### Custom types in between -/

/-- A file that implements a resource, and with it a node. -/
def resourceDocument : Document :=
  [.interface ⟨"Node", none, [], []⟩, .interface ⟨"Resource", none, ["Node"], []⟩,
    .object ⟨"File", none, ["Node", "Resource"], []⟩]

/-- The resource stands for a class that the run knows nothing of. -/
def resourceOptions : Options := { Options.unset with customTypes := Table.ofList [("Resource", "external.Base")] }

private theorem ancestors_resourceDocument (o : Options) :
    (ofRun o [resourceDocument]).ancestors "Node" = [] ∧
      (ofRun o [resourceDocument]).ancestors "Resource" = ["Node"] := by
  -- which interfaces there are does not depend on the options
  have hinterfaces : (ofRun o [resourceDocument]).interfaces = (ofRun .unset [resourceDocument]).interfaces := rfl
  have hNode : (ofRun .unset [resourceDocument]).interfaces.find? "Node" = some [] := by decide +kernel
  have hResource : (ofRun .unset [resourceDocument]).interfaces.find? "Resource" = some ["Node"] := by decide +kernel
  simp [ancestors, hinterfaces, reachable, hNode, hResource, reachedFrom_of_find?, reachedFrom_nil]

private theorem acyclic_resourceDocument (o : Options) :
    ∀ n ∈ interfaceNames [resourceDocument], n ∉ (ofRun o [resourceDocument]).ancestors n := by
  obtain ⟨hNode, hResource⟩ := ancestors_resourceDocument o
  have hnames : interfaceNames [resourceDocument] = ["Node", "Resource"] := rfl
  simp [hnames, hNode, hResource]

/-- Without a custom type, the file inherits the node, which is no base of it, from the resource. -/
theorem inherits_through_generated_class :
    let documents := [resourceDocument]
    let s := ofRun .unset documents
    s.MapsAll documents ∧ (∀ n ∈ interfaceNames documents, n ∉ s.ancestors n) ∧
      (∃ document ∈ documents, ∃ d ∈ document, d.modelName? = some "File" ∧ "Node" ∈ d.implements) ∧
      s.Inherits documents "File" "Node" := by
  intro documents s
  have hacyclic := acyclic_resourceDocument .unset
  have hmaps : s.MapsAll documents := mapsAll_of_references (not_mem_ancestors_self hacyclic) (by decide +kernel)
  have hfile : .object ⟨"File", none, ["Node", "Resource"], []⟩ ∈ resourceDocument := by simp [resourceDocument]
  have hnode : "Node" ∈ (Definition.object ⟨"File", none, ["Node", "Resource"], []⟩).implements := List.mem_cons_self
  have hname : (Definition.object ⟨"File", none, ["Node", "Resource"], []⟩).modelName? = some "File" := by decide
  refine ⟨hmaps, hacyclic, ⟨_, List.mem_cons_self, _, hfile, hname, hnode⟩, ?_⟩
  refine (inherits_iff_leads hmaps hacyclic List.mem_cons_self hfile hname hnode).2 ?_
  rintro j ⟨-, k, hk, hj⟩
  have hlisted : Definition.listed resourceDocument (.object ⟨"File", none, ["Node", "Resource"], []⟩) =
      ["Node", "Resource"] := by decide
  obtain ⟨hNode, hResource⟩ := ancestors_resourceDocument .unset
  have hcases : j = "Node" ∨ j = "Resource" := by
    rw [hlisted] at hk
    simp only [List.mem_cons, List.not_mem_nil, or_false] at hk
    rcases hk with rfl | rfl
    · rw [show s.ancestors "Node" = [] from hNode] at hj
      exact .inl (hj.resolve_right List.not_mem_nil).symm
    · rw [show s.ancestors "Resource" = ["Node"] from hResource, List.mem_singleton] at hj
      exact hj.symm.imp_right Eq.symm
  rcases hcases with rfl | rfl <;> decide +kernel

/-- With the custom type, the file leaves out the node, which the schema has the resource inherit; but its only base
is the other class, so it does not inherit the node at all. -/
theorem not_inherits_through_custom_type :
    let documents := [resourceDocument]
    let s := ofRun resourceOptions documents
    (typeNames documents).Nodup ∧ (∀ n ∈ interfaceNames documents, n ∉ s.ancestors n) ∧ s.MapsAll documents ∧
      (∃ document ∈ documents, ∃ d ∈ document, d.modelName? = some "File" ∧ "Node" ∈ d.implements) ∧
      ¬ s.Inherits documents "File" "Node" := by
  intro documents s
  have hacyclic := acyclic_resourceDocument resourceOptions
  have hmaps : s.MapsAll documents := mapsAll_of_references (not_mem_ancestors_self hacyclic) (by decide +kernel)
  refine ⟨by decide, hacyclic, hmaps, by decide, ?_⟩
  -- the file keeps nothing but the resource
  have hkeeps {b : String} (h : s.Keeps documents "File" b) : b = "Resource" := by
    obtain ⟨document, hdocument, d, hd, hname, hb⟩ := h
    rw [List.mem_singleton.1 hdocument] at hd hb
    have hlisted : d.listed resourceDocument = ["Node", "Resource"] := by
      have hall : ∀ d ∈ resourceDocument, d.modelName? = some "File" →
          d.listed resourceDocument = ["Node", "Resource"] := by decide
      exact hall d hd hname
    obtain ⟨hmem, hminimal⟩ := mem_minimalNames.1 hb
    rw [hlisted] at hmem hminimal
    simp only [List.mem_cons, List.not_mem_nil, or_false] at hmem
    refine hmem.resolve_left ?_
    rintro rfl
    exact hminimal "Resource" (by simp) (by simp [s, documents, (ancestors_resourceDocument resourceOptions).2])
  rintro ⟨goal, hgoal, h⟩
  obtain ⟨a, b, hchain, hlast, hmeaning⟩ := leads_of_leadsTo hgoal h
  rcases ReflTransGen.cases_head hchain with rfl | ⟨c, hfirst, -⟩
  · rw [hkeeps hlast] at hmeaning
    obtain ⟨goal, hresource, hnode⟩ := hmeaning
    have hne : s.meaning? "Resource" ≠ s.meaning? "Node" := by decide +kernel
    exact hne (hresource.trans hnode.symm)
  · have hresource : ¬ s.Generates "Resource" := by decide +kernel
    exact hresource (hkeeps hfirst.1 ▸ hfirst.2)

end Scope

end SchemaBindings
