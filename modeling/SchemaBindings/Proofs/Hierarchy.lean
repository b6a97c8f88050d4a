import SchemaBindings.Proofs.Ancestors
import SchemaBindings.Proofs.Linearization
import SchemaBindings.Proofs.Places
import SchemaBindings.Proofs.Unions

/-!
# The hierarchy of generated classes

The models of a run form a hierarchy. Interfaces that do not inherit themselves keep it free of cycles, and so the
only thing that can keep a class from having a linearization is a conflict among bases at or above it
(`exists_linearizes_iff_no_conflict`). Dropping inherited bases does not rule such conflicts out: two interfaces may
list the same two bases in opposite orders (`conflict_of_opposite_orders`).
-/

namespace SchemaBindings

open Schema Relation Linearization

/-! ### Classes and their bases -/

/-- A class that a model is or extends. -/
inductive Class
  /-- The class that every class extends. -/
  | top
  /-- The class that the models without other bases extend. -/
  | model
  | named (name : String)
  deriving DecidableEq, Repr

/-- Does the module hold a model that may extend others or be extended? -/
def Module.isModel (m : Module) : Bool :=
  match m.body with
  | .record .. | .union _ => true
  | _ => false

/-- The classes that a class extends, as the modules say. -/
def classBases (modules : List Module) : Class → List Class
  | .top => []
  | .model => [.top]
  | .named c =>
    match modules.find? fun m => m.isModel && m.className == c with
    | some m => if m.baseClasses = [] then [.model] else m.baseClasses.map .named
    | none => [.top]

namespace Scope

variable {o : Options} {documents : List Document} {document : Document}

/-- What a definition lists as bases, others define models for. -/
theorem mem_modelNames_of_listed (himplements : ImplementsInterfaces documents) (hdocument : document ∈ documents)
    {d : Definition} (hd : d ∈ document) {k : String} (hk : k ∈ d.listed document) :
    k ∈ modelNames documents.flatten := by
  have hflat {d : Definition} (hd : d ∈ document) : d ∈ documents.flatten :=
    List.mem_flatten.2 ⟨document, hdocument, hd⟩
  have hinterface (hk : k ∈ d.implements) : k ∈ modelNames documents.flatten := by
    obtain ⟨type, htype, hname⟩ := mem_interfaceNames.1 (himplements d (hflat hd) k hk)
    exact List.mem_filterMap.2 ⟨_, htype, congrArg some hname⟩
  match d, hk with
  | .object type, hk =>
    rcases List.mem_append.1 hk with hk | hk
    · exact hinterface hk
    · obtain ⟨description, members, hunion, -⟩ := mem_unionsContaining.1 hk
      exact List.mem_filterMap.2 ⟨_, hflat hunion, rfl⟩
  | .interface type, hk => exact hinterface hk

/-! ### Models and their definitions -/

variable {s : Scope}

private theorem exists_of_mem_baseNames {names : List String} {owner : String} {bases : List Reference} {c : String}
    (hown : ∀ n ∈ names, s.HasOwnClass n) (hbases : s.mapBases owner names = .ok bases) (hc : c ∈ baseNames bases) :
    ∃ n ∈ names, c = s.className n := by
  rw [baseNames, List.mem_eraseDups, List.mem_map] at hc
  obtain ⟨r, hr, rfl⟩ := hc
  obtain ⟨n, hn, hresolve⟩ := exists_of_mem_mapM hbases hr
  have hn := (mem_minimalNames.1 hn).1
  exact ⟨n, hn, ((hown n hn).target_eq_iff hresolve).2 rfl⟩

/-- A model comes from a definition, and its class extends only classes of types that the definition lists. -/
theorem exists_definition_of_isModel (himplements : ImplementsInterfaces documents)
    (hown : ∀ n ∈ modelNames documents.flatten, s.HasOwnClass n) {m : Module} (hm : m ∈ s.modules documents)
    (hmodel : m.isModel = true) :
    ∃ document ∈ documents, ∃ d ∈ document, ∃ n, d.modelName? = some n ∧ m.className = s.className n ∧
      ∀ c ∈ m.baseClasses, ∃ k ∈ d.listed document, c = s.className k := by
  obtain ⟨document, hdocument, hm⟩ := List.mem_flatMap.1 hm
  rcases origin_of_mem_mapDocument hm with ⟨d, hd, modules, hmodules, hm⟩ | hresolvers
  · refine ⟨document, hdocument, d, hd, ?_⟩
    have howned : ∀ k ∈ d.listed document, s.HasOwnClass k := fun k hk =>
      hown k (mem_modelNames_of_listed himplements hdocument hd hk)
    cases yields_of_definitionModules hmodules with
    | operations hroot hapis hsingle hwhole =>
      exfalso
      rcases List.mem_append.1 hm with hm | hm
      · obtain ⟨field, -, hfield⟩ := exists_of_mem_mapM hsingle hm
        obtain ⟨operation, -, rfl⟩ := operationModule_eq_ok_iff.1 hfield
        cases hmodel
      · obtain ⟨operations, -, rfl⟩ := rootModule_eq_ok_iff.1 (List.mem_singleton.1 hm ▸ hwhole)
        cases hmodel
    | withoutApis => cases hm
    | @object type m' hroot h =>
      obtain ⟨fields, -, bases, hbases, rfl⟩ := objectModule_eq_ok_iff.1 (List.mem_singleton.1 hm ▸ h)
      have hname : (Definition.object type).modelName? = some type.name := by simp [Definition.modelName?, hroot]
      exact ⟨type.name, hname, rfl, fun c hc => exists_of_mem_baseNames howned hbases hc⟩
    | @interface type m' h =>
      obtain ⟨fields, -, bases, hbases, rfl⟩ := interfaceModule_eq_ok_iff.1 (List.mem_singleton.1 hm ▸ h)
      exact ⟨type.name, rfl, rfl, fun c hc => exists_of_mem_baseNames howned hbases hc⟩
    | enumeration =>
      rw [List.mem_singleton.1 hm] at hmodel
      cases hmodel
    | @input name description fields m' h =>
      obtain ⟨fields, -, rfl⟩ := inputModule_eq_ok_iff.1 (List.mem_singleton.1 hm ▸ h)
      exact ⟨name, rfl, rfl, fun c hc => by cases hc⟩
    | @union name description members m' h =>
      obtain ⟨targets, -, rfl⟩ := unionModule_eq_ok_iff.1 (List.mem_singleton.1 hm ▸ h)
      exact ⟨name, rfl, rfl, fun c hc => by cases hc⟩
  · obtain ⟨entries, -, rfl⟩ := resolverModule_eq_ok_iff.1 hresolvers
    cases hmodel

/-! ### No class is above itself -/

private theorem acc_model (modules : List Module) : Acc (IsBase (classBases modules)) .model := by
  refine .intro _ fun a ha => ?_
  rw [List.mem_singleton.1 ha]
  exact .intro _ fun b hb => by cases hb

/-- The class of a type is well-founded if those of the listed types are. -/
private theorem acc_named (hdistinct : (typeNames documents).Nodup) (himplements : ImplementsInterfaces documents)
    (hown : ∀ n ∈ modelNames documents.flatten, s.HasOwnClass n) {d : Definition} (hd : d ∈ documents.flatten)
    {n : String} (hn : d.modelName? = some n) (hlisted : ∀ document ∈ documents, ∀ k ∈ d.listed document,
      Acc (IsBase (classBases (s.modules documents))) (.named (s.className k))) :
    Acc (IsBase (classBases (s.modules documents))) (.named (s.className n)) := by
  refine .intro _ fun a ha => ?_
  simp only [IsBase, classBases] at ha
  split at ha
  · next m hfind =>
    -- the module with this class comes from `d`, because the class is that of one name and one definition
    have hm := List.mem_of_find?_eq_some hfind
    have hfound := List.find?_some hfind
    simp only [Bool.and_eq_true, beq_iff_eq] at hfound
    obtain ⟨document, hdocument, d', hd', n', hn', hclass, hbases⟩ :=
      exists_definition_of_isModel himplements hown hm hfound.1
    have hd'' : d' ∈ documents.flatten := List.mem_flatten.2 ⟨document, hdocument, hd'⟩
    have hname : n' = n := (hown n (List.mem_filterMap.2 ⟨d, hd, hn⟩)).eq_of_className
      (hown n' (List.mem_filterMap.2 ⟨d', hd'', hn'⟩)) (hclass ▸ hfound.2)
    have hdefinition : d' = d := definition_unique hdistinct hd'' hd (Definition.typeName?_of_modelName? hn')
      (hname ▸ Definition.typeName?_of_modelName? hn)
    split at ha
    · rw [List.mem_singleton.1 ha]
      exact acc_model _
    · obtain ⟨c, hc, rfl⟩ := List.mem_map.1 ha
      obtain ⟨k, hk, rfl⟩ := hbases c hc
      exact hlisted document hdocument k (hdefinition ▸ hk)
  · -- no module with this class, so nothing but `top` is above it
    rw [List.mem_singleton.1 ha]
    exact .intro _ fun b hb => by cases hb

section

variable (hdistinct : (typeNames documents).Nodup) (himplements : ImplementsInterfaces documents)
  (hown : ∀ n ∈ modelNames documents.flatten, (ofRun o documents).HasOwnClass n)
  (hacyclic : ∀ n ∈ interfaceNames documents, n ∉ (ofRun o documents).ancestors n)

include hdistinct himplements hown hacyclic

/-- The induction is on the number of ancestors. -/
private theorem acc_interface {type : FieldedDefinition} (htype : .interface type ∈ documents.flatten) :
    Acc (IsBase (classBases ((ofRun o documents).modules documents)))
      (.named ((ofRun o documents).className type.name)) := by
  induction hcard : ((ofRun o documents).ancestors type.name).toFinset.card using Nat.strongRecOn generalizing type with
  | ind rank ih =>
    refine acc_named hdistinct himplements hown htype rfl fun document _ k hk => ?_
    have hinterface := himplements _ htype k hk
    have hlt := card_ancestors_lt (hacyclic k hinterface)
      (mem_ancestors_iff.2 (.single (edge_ofRun hdistinct htype hk)))
    obtain ⟨type', htype', rfl⟩ := mem_interfaceNames.1 hinterface
    exact ih _ (hcard ▸ hlt) htype' rfl

private theorem acc_of_modelName {d : Definition} (hd : d ∈ documents.flatten) {n : String}
    (hn : d.modelName? = some n) :
    Acc (IsBase (classBases ((ofRun o documents).modules documents)))
      (.named ((ofRun o documents).className n)) := by
  refine acc_named hdistinct himplements hown hd hn fun document hdocument k hk => ?_
  have hinterface (hk : k ∈ d.implements) : Acc (IsBase (classBases ((ofRun o documents).modules documents)))
      (.named ((ofRun o documents).className k)) := by
    obtain ⟨type, htype, rfl⟩ := mem_interfaceNames.1 (himplements d hd k hk)
    exact acc_interface hdistinct himplements hown hacyclic htype
  match d, hk with
  | .object type, hk =>
    rcases List.mem_append.1 hk with hk | hk
    · exact hinterface hk
    · obtain ⟨description, members, hunion, -⟩ := mem_unionsContaining.1 hk
      -- a union lists no bases
      exact acc_named hdistinct himplements hown (List.mem_flatten.2 ⟨document, hdocument, hunion⟩) rfl
        fun _ _ _ hk => by cases hk
  | .interface type, hk => exact hinterface hk

/-- If the interfaces of a run are free of cycles and each model has a class of its own, the class of a model has a
linearization exactly if no class at or above it has bases in conflict. -/
theorem exists_linearizes_iff_no_conflict {m : Module} (hm : m ∈ (ofRun o documents).modules documents)
    (hmodel : m.isModel = true) :
    (∃ order, Linearizes (classBases ((ofRun o documents).modules documents)) (.named m.className) order) ↔
      ∀ c, ReflTransGen (IsBase (classBases ((ofRun o documents).modules documents))) c (.named m.className) →
        ¬ Conflict (classBases ((ofRun o documents).modules documents)) c := by
  obtain ⟨document, hdocument, d, hd, n, hn, hclass, -⟩ := exists_definition_of_isModel himplements hown hm hmodel
  have hd : d ∈ documents.flatten := List.mem_flatten.2 ⟨document, hdocument, hd⟩
  rw [hclass]
  exact exists_linearizes_iff (acc_of_modelName hdistinct himplements hown hacyclic hd hn)

end

/-! ### Two interfaces with the same bases -/

/-- Two interfaces that list the same two bases, the second in an order of its own, and a type that implements all. -/
def sharedBases (second : List String) : Document :=
  [.interface ⟨"A", none, [], []⟩, .interface ⟨"B", none, [], []⟩, .interface ⟨"X", none, ["A", "B"], []⟩,
    .interface ⟨"Y", none, second, []⟩, .object ⟨"T", none, ["X", "Y", "A", "B"], []⟩]

private def sharedModule (second : List String) (name : String) (kind : RecordKind) (bases : List String) : Module :=
  (ofRun .unset [sharedBases second]).modelModule name none
    (.record kind [] (bases.map fun base => .plain base base .generated))

section

variable {second : List String} (hsecond : second = ["A", "B"] ∨ second = ["B", "A"])

include hsecond

private theorem ancestors_sharedBases : (ofRun .unset [sharedBases second]).ancestors "A" = [] ∧
    (ofRun .unset [sharedBases second]).ancestors "B" = [] ∧
    (ofRun .unset [sharedBases second]).ancestors "X" = ["B", "A"] ∧
    (ofRun .unset [sharedBases second]).ancestors "Y" = second.reverse := by
  have hA : (ofRun .unset [sharedBases second]).interfaces.find? "A" = some [] := rfl
  have hB : (ofRun .unset [sharedBases second]).interfaces.find? "B" = some [] := rfl
  have hX : (ofRun .unset [sharedBases second]).interfaces.find? "X" = some ["A", "B"] := rfl
  have hY : (ofRun .unset [sharedBases second]).interfaces.find? "Y" = some second := rfl
  rcases hsecond with rfl | rfl <;>
    simp [ancestors, reachable, hA, hB, hX, hY, reachedFrom_of_find?, reachedFrom_nil]

private theorem not_mem_ancestors_sharedBases : ∀ n ∈ interfaceNames [sharedBases second],
    n ∉ (ofRun .unset [sharedBases second]).ancestors n := by
  obtain ⟨ha, hb, hx, hy⟩ := ancestors_sharedBases hsecond
  have hnames : interfaceNames [sharedBases second] = ["A", "B", "X", "Y"] := rfl
  rcases hsecond with rfl | rfl <;> simp [hnames, ha, hb, hx, hy]

private theorem mapBases_sharedBases :
    (ofRun .unset [sharedBases second]).mapBases "X" ["A", "B"] =
        .ok (["A", "B"].map fun base => .plain base base .generated) ∧
      (ofRun .unset [sharedBases second]).mapBases "Y" second =
        .ok (second.map fun base => .plain base base .generated) ∧
      (ofRun .unset [sharedBases second]).mapBases "T" ["X", "Y", "A", "B"] =
        .ok (["X", "Y"].map fun base => .plain base base .generated) := by
  obtain ⟨ha, hb, hx, hy⟩ := ancestors_sharedBases hsecond
  have hX : (ofRun .unset [sharedBases second]).minimalNames ["A", "B"] = ["A", "B"] := by
    simp [minimalNames, List.eraseDups_cons, ha, hb]
  have hY : (ofRun .unset [sharedBases second]).minimalNames second = second := by
    rcases hsecond with rfl | rfl <;> simp [minimalNames, List.eraseDups_cons, ha, hb]
  have hT : (ofRun .unset [sharedBases second]).minimalNames ["X", "Y", "A", "B"] = ["X", "Y"] := by
    rcases hsecond with rfl | rfl <;> simp [minimalNames, List.eraseDups_cons, ha, hb, hx, hy]
  rw [mapBases, mapBases, mapBases, hX, hY, hT]
  rcases hsecond with rfl | rfl <;> decide +kernel

private theorem mapDocument_sharedBases : ∃ last,
    (ofRun .unset [sharedBases second]).mapDocument (sharedBases second) =
      ⟨[sharedModule second "A" .interface [], sharedModule second "B" .interface [],
        sharedModule second "X" .interface ["A", "B"], sharedModule second "Y" .interface second,
        sharedModule second "T" .object ["X", "Y"], last], 0, none⟩ := by
  obtain ⟨hbasesX, hbasesY, hbasesT⟩ := mapBases_sharedBases hsecond
  have hA : (ofRun .unset [sharedBases second]).interfaceModule ⟨"A", none, [], []⟩ =
      .ok (sharedModule second "A" .interface []) := rfl
  have hB : (ofRun .unset [sharedBases second]).interfaceModule ⟨"B", none, [], []⟩ =
      .ok (sharedModule second "B" .interface []) := rfl
  have hX : (ofRun .unset [sharedBases second]).interfaceModule ⟨"X", none, ["A", "B"], []⟩ =
      .ok (sharedModule second "X" .interface ["A", "B"]) := interfaceModule_eq_ok_iff.2 ⟨[], rfl, _, hbasesX, rfl⟩
  have hY : (ofRun .unset [sharedBases second]).interfaceModule ⟨"Y", none, second, []⟩ =
      .ok (sharedModule second "Y" .interface second) := interfaceModule_eq_ok_iff.2 ⟨[], rfl, _, hbasesY, rfl⟩
  have hT : (ofRun .unset [sharedBases second]).objectModule (sharedBases second)
      ⟨"T", none, ["X", "Y", "A", "B"], []⟩ = .ok (sharedModule second "T" .object ["X", "Y"]) :=
    objectModule_eq_ok_iff.2 ⟨[], rfl, _, hbasesT, rfl⟩
  obtain ⟨last, hlast⟩ : ∃ last, (ofRun .unset [sharedBases second]).resolverModule (sharedBases second) = .ok last :=
    exists_eq_ok_of_isSome (by rcases hsecond with rfl | rfl <;> decide +kernel)
  have hsteps : (ofRun .unset [sharedBases second]).steps (sharedBases second) =
      [some (do return [← (ofRun .unset [sharedBases second]).interfaceModule ⟨"A", none, [], []⟩]),
        some (do return [← (ofRun .unset [sharedBases second]).interfaceModule ⟨"B", none, [], []⟩]),
        some (do return [← (ofRun .unset [sharedBases second]).interfaceModule ⟨"X", none, ["A", "B"], []⟩]),
        some (do return [← (ofRun .unset [sharedBases second]).interfaceModule ⟨"Y", none, second, []⟩]),
        some (do return [← (ofRun .unset [sharedBases second]).objectModule (sharedBases second)
          ⟨"T", none, ["X", "Y", "A", "B"], []⟩]),
        some (do return [← (ofRun .unset [sharedBases second]).resolverModule (sharedBases second)])] := rfl
  refine ⟨last, ?_⟩
  rw [mapDocument, hsteps, hA, hB, hX, hY, hT, hlast]
  rfl

/-- Every definition is mapped, and the classes have these bases. -/
private theorem modules_sharedBases :
    (ofRun .unset [sharedBases second]).MapsAll [sharedBases second] ∧
      sharedModule second "T" .object ["X", "Y"] ∈ (ofRun .unset [sharedBases second]).modules [sharedBases second] ∧
      (let bases := classBases ((ofRun .unset [sharedBases second]).modules [sharedBases second])
      bases (.named "A") = [.model] ∧ bases (.named "B") = [.model] ∧
        bases (.named "X") = [.named "A", .named "B"] ∧ bases (.named "Y") = second.map .named ∧
        bases (.named "T") = [.named "X", .named "Y"]) := by
  obtain ⟨last, hmapped⟩ := mapDocument_sharedBases hsecond
  have hmodules : (ofRun .unset [sharedBases second]).modules [sharedBases second] =
      ((ofRun .unset [sharedBases second]).mapDocument (sharedBases second)).modules := List.append_nil _
  rw [hmodules, hmapped]
  refine ⟨fun d hd => ?_, by simp, rfl, rfl, rfl, ?_, rfl⟩
  · rw [List.mem_singleton.1 hd, hmapped]
  · rcases hsecond with rfl | rfl <;> rfl

end

private def orderAbove : Class → List Class
  | .named "X" => [.named "X", .named "A", .named "B", .model, .top]
  | .named "Y" => [.named "Y", .named "A", .named "B", .model, .top]
  | .named c => [.named c, .model, .top]
  | .model => [.model, .top]
  | .top => [.top]

section

variable {bases : Class → List Class} (htop : bases .top = []) (hmodel : bases .model = [.top])
  (hA : bases (.named "A") = [.model]) (hB : bases (.named "B") = [.model])
  (hX : bases (.named "X") = [.named "A", .named "B"]) (hY : bases (.named "Y") = [.named "A", .named "B"])
  (hT : bases (.named "T") = [.named "X", .named "Y"])

include htop hmodel hA hB hX hY

private theorem linearizes_orderAbove :
    ∀ c ∈ [.top, .model, .named "A", .named "B", .named "X", .named "Y"], Linearizes bases c (orderAbove c) := by
  have hstep {c : Class} {order : List Class} (habove : ∀ b ∈ bases c, Linearizes bases b (orderAbove b))
      (horder : merge? ((bases c).map orderAbove ++ [bases c]) = some order) : Linearizes bases c (c :: order) :=
    .intro habove horder
  have top : Linearizes bases .top (orderAbove .top) := hstep (by simp [htop]) (by rw [htop]; decide +kernel)
  have model : Linearizes bases .model (orderAbove .model) :=
    hstep (by simpa [hmodel] using top) (by rw [hmodel]; decide +kernel)
  have a : Linearizes bases (.named "A") (orderAbove (.named "A")) :=
    hstep (by simpa [hA] using model) (by rw [hA]; decide +kernel)
  have b : Linearizes bases (.named "B") (orderAbove (.named "B")) :=
    hstep (by simpa [hB] using model) (by rw [hB]; decide +kernel)
  have x : Linearizes bases (.named "X") (orderAbove (.named "X")) :=
    hstep (by simpa [hX] using ⟨a, b⟩) (by rw [hX]; decide +kernel)
  have y : Linearizes bases (.named "Y") (orderAbove (.named "Y")) :=
    hstep (by simpa [hY] using ⟨a, b⟩) (by rw [hY]; decide +kernel)
  simp [top, model, a, b, x, y]

include hT

/-- If both interfaces list their bases in one order, one order contains those of the bases of the type as well. -/
private theorem not_conflict_of_same_order {c : Class} (hc : ReflTransGen (IsBase bases) c (.named "T")) :
    ¬ Conflict bases c := by
  have horders := linearizes_orderAbove htop hmodel hA hB hX hY
  have habove : c = .named "T" ∨ c ∈ [.top, .model, .named "A", .named "B", .named "X", .named "Y"] := by
    induction hc using ReflTransGen.head_induction_on with
    | refl => exact .inl rfl
    | @head a b hbase _ ih =>
      simp only [List.mem_cons, List.not_mem_nil, or_false] at ih ⊢
      rcases ih with rfl | rfl | rfl | rfl | rfl | rfl | rfl <;>
        simp only [IsBase, htop, hmodel, hA, hB, hX, hY, hT, List.mem_cons, List.not_mem_nil, or_false] at hbase <;>
        tauto
  rcases habove with rfl | hc
  · have hbases : ∀ b ∈ [.named "X", .named "Y"], Linearizes bases b (orderAbove b) := fun b hb =>
      horders b (List.mem_append_right [Class.top, .model, .named "A", .named "B"] hb)
    rw [conflict_iff (hT ▸ hbases), hT, not_not]
    exact ⟨[.named "X", .named "Y", .named "A", .named "B", .model, .top], by decide, by decide⟩
  · exact (horders c hc).not_conflict

end

/-- Bases that are listed in one order are in no conflict: the type has a linearization. -/
theorem exists_linearizes_of_same_order :
    let documents := [sharedBases ["A", "B"]]
    let s := ofRun .unset documents
    s.MapsAll documents ∧ ∃ m ∈ s.modules documents, m.className = "T" ∧ m.baseClasses = ["X", "Y"] ∧
      ∃ order, Linearizes (classBases (s.modules documents)) (.named m.className) order := by
  intro documents s
  obtain ⟨hmaps, hmem, hA, hB, hX, hY, hT⟩ := modules_sharedBases (.inl rfl)
  refine ⟨hmaps, _, hmem, by decide +kernel, by decide +kernel, ?_⟩
  exact (exists_linearizes_iff_no_conflict (by decide) (by decide) (by decide +kernel)
    (not_mem_ancestors_sharedBases (.inl rfl)) hmem rfl).2
      fun c hc => not_conflict_of_same_order rfl rfl hA hB hX hY hT hc

/-! ### Opposite orders -/

/-- Two interfaces that list the same bases in opposite orders, and a type that implements both. -/
def opposedDocument : Document := sharedBases ["B", "A"]

/-- Without cycles there may still be a conflict: the type has no linearization. -/
theorem conflict_of_opposite_orders :
    let documents := [opposedDocument]
    let s := ofRun .unset documents
    (typeNames documents).Nodup ∧ ImplementsInterfaces documents ∧
      (∀ n ∈ modelNames documents.flatten, s.HasOwnClass n) ∧
      (∀ n ∈ interfaceNames documents, n ∉ s.ancestors n) ∧ s.MapsAll documents ∧
      ∃ m ∈ s.modules documents, m.isModel = true ∧
        ¬ ∃ order, Linearizes (classBases (s.modules documents)) (.named m.className) order := by
  intro documents s
  obtain ⟨hmaps, hmem, -, -, hX, hY, hT⟩ := modules_sharedBases (.inr rfl)
  refine ⟨by decide, by decide, by decide +kernel, not_mem_ancestors_sharedBases (.inr rfl), hmaps, _, hmem, rfl, ?_⟩
  exact not_linearizes_of_opposite (x := .named "X") (y := .named "Y") (a := .named "A") (b := .named "B")
    (hT ▸ by simp) (hT ▸ by simp) (hX ▸ .refl _) (hY ▸ .refl _)

end Scope

end SchemaBindings
