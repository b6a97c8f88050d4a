import Mathlib.Data.List.Induction
import Mathlib.Data.List.Nodup
import Mathlib.Data.List.Perm.Subperm
import SchemaBindings.Proofs.MemberNames

/-!
# Parameters of methods

Low lines are put after the name of a parameter until it differs from the fixed parameters and from all that have been
named before it. This ends, with the fewest low lines that do (`renames_iff_isFresh`). The parameters of a method are
therefore distinct, and they stand in an order that the output language accepts: the fixed ones, then those that a
caller must give, then those that may be left out, which accept null (`legal_parameters`).
-/

namespace SchemaBindings

open Schema

/-! ### Names that are not in use -/

/-- The search for a name that is not in use: as long as a name is, a low line is put after it. -/
inductive Renames (used : List String) : String → String → Prop
  | done {name : String} (h : name ∉ used) : Renames used name name
  | again {name result : String} (h : name ∈ used) (more : Renames used (name ++ "_") result) :
      Renames used name result

/-- Is the result the name with the fewest low lines after it that is not in use? -/
def IsFresh (used : List String) (name result : String) : Prop :=
  ∃ count, result = withLowLines name count ∧ result ∉ used ∧ ∀ fewer < count, withLowLines name fewer ∈ used

private theorem toList_withLowLines (name : String) (count : Nat) :
    (withLowLines name count).toList = name.toList ++ List.replicate count '_' := by
  simp [withLowLines]

private theorem withLowLines_zero (name : String) : withLowLines name 0 = name := by
  simp [← String.toList_inj, toList_withLowLines]

private theorem withLowLines_succ (name : String) (count : Nat) :
    withLowLines name (count + 1) = withLowLines (name ++ "_") count := by
  simp [← String.toList_inj, toList_withLowLines, List.replicate_succ]

private theorem withLowLines_injective (name : String) : Function.Injective (withLowLines name) := by
  intro count count' h
  have hlength := congrArg (fun text => text.toList.length) h
  simpa [toList_withLowLines] using hlength

variable {used : List String} {name result : String}

theorem IsFresh.renames (h : IsFresh used name result) : Renames used name result := by
  obtain ⟨count, rfl, hnew, hfewer⟩ := h
  -- Each turn puts a low line after the name, so what is shown has to hold for every name.
  induction count generalizing name with
  | zero =>
    rw [withLowLines_zero] at hnew ⊢
    exact .done hnew
  | succ count ih =>
    rw [withLowLines_succ] at hnew ⊢
    have hname : name ∈ used := withLowLines_zero name ▸ hfewer 0 (Nat.zero_lt_succ count)
    exact .again hname (ih hnew fun fewer hlt => withLowLines_succ name fewer ▸ hfewer _ (Nat.succ_lt_succ hlt))

theorem Renames.isFresh (h : Renames used name result) : IsFresh used name result := by
  induction h with
  | @done name hnew => exact ⟨0, (withLowLines_zero name).symm, hnew, fun _ hlt => absurd hlt (Nat.not_lt_zero _)⟩
  | @again name result hname _ ih =>
    obtain ⟨count, rfl, hnew, hfewer⟩ := ih
    refine ⟨count + 1, (withLowLines_succ name count).symm, hnew, fun fewer hlt => ?_⟩
    match fewer with
    | 0 => rwa [withLowLines_zero]
    | fewer + 1 =>
      rw [withLowLines_succ]
      exact hfewer fewer (Nat.lt_of_succ_lt_succ hlt)

/-- The search finds the name with the fewest low lines. -/
theorem renames_iff_isFresh : Renames used name result ↔ IsFresh used name result := ⟨Renames.isFresh, IsFresh.renames⟩

/-- There are more candidates than names in use. -/
private theorem exists_candidate (used : List String) (name : String) :
    ∃ count ∈ List.range (used.length + 1), withLowLines name count ∉ used := by
  -- Otherwise distinct names, more than there are in use, would all be in use.
  by_contra! hall
  have hnodup : ((List.range (used.length + 1)).map (withLowLines name)).Nodup :=
    List.nodup_range.map (withLowLines_injective name)
  have hsubset : (List.range (used.length + 1)).map (withLowLines name) ⊆ used := by
    intro candidate hcandidate
    obtain ⟨count, hcount, rfl⟩ := List.mem_map.1 hcandidate
    exact hall count hcount
  have hlength := (hnodup.subperm hsubset).length_le
  rw [List.length_map, List.length_range] at hlength
  omega

theorem isFresh_freshName (used : List String) (name : String) : IsFresh used name (freshName used name) := by
  have hfound : ∃ count,
      (List.range (used.length + 1)).find? (fun count => !used.contains (withLowLines name count)) = some count := by
    obtain ⟨count, hcount, hnew⟩ := exists_candidate used name
    rw [← Option.isSome_iff_exists, List.find?_isSome]
    exact ⟨count, hcount, by simpa using hnew⟩
  obtain ⟨count, hcount⟩ := hfound
  have hfresh : freshName used name = withLowLines name count := by
    simp only [freshName, List.find?_map, Function.comp_def, hcount, Option.map_some, Option.getD_some]
  obtain ⟨hnew, -, hfewer⟩ := List.find?_range_eq_some.1 hcount
  exact ⟨count, hfresh, by simpa [hfresh] using hnew, fun fewer hlt => by simpa using hfewer fewer hlt⟩

theorem IsFresh.unique {result' : String} (h : IsFresh used name result) (h' : IsFresh used name result') :
    result = result' := by
  obtain ⟨count, rfl, hnew, hfewer⟩ := h
  obtain ⟨count', rfl, hnew', hfewer'⟩ := h'
  rcases Nat.lt_trichotomy count count' with hlt | rfl | hlt
  · exact absurd (hfewer' count hlt) hnew
  · rfl
  · exact absurd (hfewer count' hlt) hnew'

theorem IsFresh.renames_iff {parameter : String} (h : IsFresh used name parameter) :
    Renames used name result ↔ result = parameter := by
  rw [renames_iff_isFresh]
  constructor
  · exact fun h' => h'.unique h
  · rintro rfl
    exact h

/-- The search ends, and only in one way. -/
theorem renames_iff : Renames used name result ↔ result = freshName used name :=
  (isFresh_freshName used name).renames_iff

theorem IsFresh.of_mem_iff {used' : List String} (h : IsFresh used name result) (hused : ∀ n, n ∈ used ↔ n ∈ used') :
    IsFresh used' name result := by
  obtain ⟨count, hresult, hnew, hfewer⟩ := h
  exact ⟨count, hresult, mt (hused _).2 hnew, fun fewer hlt => (hused _).1 (hfewer fewer hlt)⟩

/-! ### Names of parameters -/

/-- The parameters for arguments with some names, given one after the other. -/
def parameterNames : List String → List String → List String
  | _, [] => []
  | used, name :: names =>
    let parameter := freshName used (Naming.methodName name)
    parameter :: parameterNames (parameter :: used) names

private theorem length_parameterNames (used names : List String) :
    (parameterNames used names).length = names.length := by
  induction names generalizing used with
  | nil => rfl
  | cons name names ih => rw [parameterNames, List.length_cons, List.length_cons, ih]

private theorem parameterNames_append (used before after : List String) : parameterNames used (before ++ after) =
    parameterNames used before ++ parameterNames ((parameterNames used before).reverse ++ used) after := by
  induction before generalizing used with
  | nil => rfl
  | cons name before ih => simp [parameterNames, ih]

/-- An argument gets the name of its method, followed by the fewest low lines that tell it apart. -/
theorem isFresh_parameterNames (used before : List String) (name : String) :
    ∃ parameter, parameterNames used (before ++ [name]) = parameterNames used before ++ [parameter] ∧
      IsFresh (used ++ parameterNames used before) (Naming.methodName name) parameter := by
  refine ⟨_, parameterNames_append used before [name], (isFresh_freshName _ _).of_mem_iff fun n => ?_⟩
  simp [or_comm]

private theorem nodup_append_parameterNames {used : List String} (h : used.Nodup) (names : List String) :
    (used ++ parameterNames used names).Nodup := by
  -- The last name is compared with all before it, so the induction takes names off the end.
  induction names using List.reverseRecOn with
  | nil => simpa [parameterNames] using h
  | append_singleton before name ih =>
    obtain ⟨parameter, hparameter, -, -, hnew, -⟩ := isFresh_parameterNames used before name
    rw [hparameter, ← List.append_assoc, ← List.concat_eq_append]
    exact ih.concat hnew

/-! ### Arguments -/

/-- May callers leave the argument out? -/
def Schema.InputValue.isOptional (value : InputValue) : Bool := !value.type.required || value.default.isSome

/-- The parameters for arguments, each with the mark whether it may be left out. -/
def declaredParameters (used : List String) (values : List InputValue) : List (String × Bool) :=
  (parameterNames used (values.map InputValue.name)).zip (values.map InputValue.isOptional)

private theorem map_fst_declaredParameters (used : List String) (values : List InputValue) :
    (declaredParameters used values).map Prod.fst = parameterNames used (values.map InputValue.name) :=
  List.map_fst_zip (by simp [length_parameterNames])

private theorem declaredParameters_cons (used : List String) (value : InputValue) (values : List InputValue) :
    declaredParameters used (value :: values) =
      (freshName used (Naming.methodName value.name), value.isOptional) ::
        declaredParameters (freshName used (Naming.methodName value.name) :: used) values := rfl

theorem declaredParameters_of_mapArguments {s : Scope} {context : String} {values : List InputValue}
    {arguments : List Argument} (h : s.mapArguments context used values = .ok arguments) :
    arguments.map (fun a => (a.parameter, a.isOptional)) = declaredParameters used values := by
  induction values generalizing used arguments with
  | nil =>
    cases h
    rfl
  | cons value values ih =>
    obtain ⟨type, htype, h⟩ := bind_eq_ok_iff.1 h
    obtain ⟨others, hothers, h⟩ := bind_eq_ok_iff.1 h
    cases h
    obtain ⟨named, -, rfl⟩ := bind_pure_eq_ok_iff.1 htype
    rw [List.map_cons, ih hothers, declaredParameters_cons]
    simp [Argument.isOptional, InputValue.isOptional, Reference.around]

theorem parameters_of_mapArguments {s : Scope} {context : String} {values : List InputValue}
    {arguments : List Argument} (h : s.mapArguments context used values = .ok arguments) :
    arguments.map Argument.parameter = parameterNames used (values.map InputValue.name) := by
  rw [← map_fst_declaredParameters, ← declaredParameters_of_mapArguments h, List.map_map]
  rfl

/-- A parameter that may be left out accepts null. -/
private theorem exists_annotation_of_isOptional {a : Argument} (h : a.isOptional = true) :
    ∃ type, a.annotation = type ++ " | None" := by
  unfold Argument.annotation Reference.annotation
  cases hrequired : a.type.required with
  | true => exact ⟨Reference.optionalText true _, by rw [h]; rfl⟩
  | false => exact ⟨_, rfl⟩

/-! ### Methods -/

/-- A parameter of a method. -/
structure Parameter where
  name : String
  type : Option String
  isOptional : Bool
  deriving DecidableEq, Repr

namespace Parameter

/-- A parameter that stands for no argument. -/
def fixed (name : String) (type : Option String) : Parameter := { name, type, isOptional := false }

/-- The parameter for an argument. -/
def ofArgument (a : Argument) : Parameter :=
  { name := a.parameter, type := some a.annotation, isOptional := a.isOptional }

@[simp] theorem name_fixed (name : String) (type : Option String) : (fixed name type).name = name := rfl

@[simp] theorem isOptional_fixed (name : String) (type : Option String) : (fixed name type).isOptional = false := rfl

@[simp] theorem name_ofArgument (a : Argument) : (ofArgument a).name = a.parameter := rfl

@[simp] theorem isOptional_ofArgument (a : Argument) : (ofArgument a).isOptional = a.isOptional := rfl

/-- The text of the parameter; its value is null unless a caller gives another one. -/
def text (p : Parameter) : String :=
  p.name ++ (p.type.elim "" (": " ++ ·)) ++ (if p.isOptional then " = None" else "")

end Parameter

/-- A method of a protocol: its fixed parameters, and the arguments that the others stand for. -/
structure Method where
  name : String
  fixed : List Parameter
  arguments : List Argument
  result : Reference

namespace Method

/-- The parameters in the order in which they stand. -/
def parameters (x : Method) : List Parameter :=
  x.fixed ++ (x.arguments.filter (!·.isOptional)).map .ofArgument ++
    (x.arguments.filter Argument.isOptional).map .ofArgument

/-- The first line of the method. -/
def line (x : Method) : String :=
  Layout.indented ("def " ++ x.name ++ "(" ++ ", ".intercalate (x.parameters.map Parameter.text) ++ ") -> " ++
    x.result.annotation ++ ":")

/-- The method for an operation. -/
def ofOperation (operation : Operation) : Method :=
  { name := operation.method, fixed := [.fixed "self" none], arguments := operation.arguments,
    result := operation.returnType }

/-- The method that resolves a field of a type. -/
def ofResolver (entry : ResolverEntry) (f : Field) : Method :=
  { name := Naming.methodName f.name, fixed := [.fixed "self" none, .fixed "parent" (some entry.modelClass)],
    arguments := f.arguments, result := f.type }

private theorem intercalate_cons (separator text : String) (texts : List String) :
    separator.intercalate (text :: texts) = text ++ String.join (texts.map (separator ++ ·)) := by
  induction texts generalizing text with
  | nil => simp
  | cons next texts ih =>
    rw [String.intercalate_cons_cons, ih, List.map_cons, String.join_cons, String.append_assoc, String.append_assoc]

private theorem intercalate_append {separator : String} {texts : List String} (h : texts ≠ []) (more : List String) :
    separator.intercalate (texts ++ more) =
      separator.intercalate texts ++ String.join (more.map (separator ++ ·)) := by
  obtain ⟨text, texts, rfl⟩ := List.exists_cons_of_ne_nil h
  rw [List.cons_append, intercalate_cons, intercalate_cons, List.map_append, String.join_append, String.append_assoc]

/-- The parameters after the fixed ones are written as the layout does. -/
private theorem join_text (arguments : List Argument) :
    String.join (((arguments.filter (!·.isOptional)).map Parameter.ofArgument ++
      (arguments.filter Argument.isOptional).map Parameter.ofArgument).map (", " ++ Parameter.text ·)) =
      Layout.signature arguments := by
  have hrequired : ∀ a ∈ arguments.filter (!·.isOptional),
      ", " ++ (Parameter.ofArgument a).text = Layout.parameterText a := by
    intro a ha
    have hisOptional : a.isOptional = false := by simpa using (List.mem_filter.1 ha).2
    simp [Parameter.text, Parameter.ofArgument, Layout.parameterText, hisOptional, String.append_assoc]
  have hoptional : ∀ a ∈ arguments.filter Argument.isOptional,
      ", " ++ (Parameter.ofArgument a).text = Layout.optionalParameterText a := by
    intro a ha
    have hisOptional : a.isOptional = true := (List.mem_filter.1 ha).2
    simp [Parameter.text, Parameter.ofArgument, Layout.parameterText, Layout.optionalParameterText, hisOptional,
      String.append_assoc]
  rw [List.map_append, List.map_map, List.map_map, String.join_append, Layout.signature]
  congr 2
  · exact List.map_congr_left hrequired
  · exact List.map_congr_left hoptional

private theorem line_eq {x : Method} (h : x.fixed ≠ []) : x.line =
    Layout.methodLine x.name (", ".intercalate (x.fixed.map Parameter.text)) x.arguments x.result := by
  have hfixed : x.fixed.map Parameter.text ≠ [] := mt List.map_eq_nil_iff.1 h
  rw [line, parameters, List.append_assoc, List.map_append, intercalate_append hfixed, List.map_map]
  simp only [Function.comp_def, join_text, Layout.methodLine, String.append_assoc]

theorem line_ofOperation (operation : Operation) :
    (ofOperation operation).line = (Member.ofOperation operation).line := by
  rw [line_eq (by simp [ofOperation]), Member.ofOperation, Member.line_method]
  simp [ofOperation, Parameter.fixed, Parameter.text]

theorem line_ofResolver (entry : ResolverEntry) (f : Field) :
    (ofResolver entry f).line = (Member.ofResolver entry f).line := by
  have hfixed : ", ".intercalate ((ofResolver entry f).fixed.map Parameter.text) =
      "self, parent: " ++ entry.modelClass := by
    simp [← String.toList_inj, ofResolver, Parameter.fixed, Parameter.text]
  rw [line_eq (by simp [ofResolver]), hfixed, Member.ofResolver, Member.line_method]
  simp only [ofResolver]

end Method

/-- The methods of a protocol module. -/
def Module.methods (m : Module) : List Method :=
  match m.body with
  | .operations _ _ operations => operations.map .ofOperation
  | .resolvers entries => entries.flatMap fun e => e.fields.map (.ofResolver e)
  | _ => []

/-- The methods stand in the text of the module. -/
theorem Module.methods_sublist (o : Options) (m : Module) :
    (m.methods.map Method.line).Sublist (Layout.lines o m) := by
  refine List.Sublist.trans ?_ (m.members_sublist o)
  unfold methods members
  cases m.body with
  | operations root whole operations => simp [Function.comp_def, Method.line_ofOperation]
  | resolvers entries =>
    simp [Function.comp_def, List.flatMap, List.map_flatten, Method.line_ofResolver]
  | _ => exact List.nil_sublist _

/-! ### Legal parameter lists -/

/-- Can the parameters stand in one list, and are they those that the arguments call for? -/
structure Method.Takes (x : Method) (fixed : List String) (values : List InputValue) : Prop where
  distinct : (x.parameters.map Parameter.name).Nodup
  complete : (x.parameters.map Parameter.name).Perm (fixed ++ parameterNames fixed (values.map InputValue.name))
  fixedFirst : fixed <+: x.parameters.map Parameter.name
  optionalLast : x.parameters.Pairwise fun p q => p.isOptional = true → q.isOptional = true
  inOrder : ∀ isOptional, ((x.parameters.drop fixed.length).filter (·.isOptional == isOptional)).map Parameter.name =
    ((declaredParameters fixed values).filter (·.2 == isOptional)).map Prod.fst
  acceptsNull : ∀ p ∈ x.parameters, p.isOptional = true → ∃ type, p.type = some (type ++ " | None")

namespace Method

variable {x : Method} {values : List InputValue}

private theorem map_name_parameters (x : Method) : x.parameters.map Parameter.name =
    x.fixed.map Parameter.name ++ ((x.arguments.filter (!·.isOptional)).map Argument.parameter ++
      (x.arguments.filter Argument.isOptional).map Argument.parameter) := by
  simp [parameters, Function.comp_def]

private theorem pairwise_parameters (h : ∀ p ∈ x.fixed, p.isOptional = false) :
    x.parameters.Pairwise fun p q => p.isOptional = true → q.isOptional = true := by
  have hrequired : ∀ p ∈ x.fixed ++ (x.arguments.filter (!·.isOptional)).map .ofArgument, p.isOptional = false := by
    intro p hp
    rcases List.mem_append.1 hp with hp | hp
    · exact h p hp
    · obtain ⟨a, ha, rfl⟩ := List.mem_map.1 hp
      simpa using (List.mem_filter.1 ha).2
  have hoptional : ∀ q ∈ (x.arguments.filter Argument.isOptional).map Parameter.ofArgument, q.isOptional = true := by
    intro q hq
    obtain ⟨a, ha, rfl⟩ := List.mem_map.1 hq
    exact (List.mem_filter.1 ha).2
  rw [parameters, List.pairwise_append]
  refine ⟨List.pairwise_of_forall_mem_list fun p hp q _ hp' => ?_,
    List.pairwise_of_forall_mem_list fun p _ q hq _ => hoptional q hq, fun p _ q hq _ => hoptional q hq⟩
  exact absurd hp' (Bool.eq_false_iff.1 (hrequired p hp))

private theorem exists_argument (h : ∀ p ∈ x.fixed, p.isOptional = false) {p : Parameter} (hp : p ∈ x.parameters)
    (hoptional : p.isOptional = true) : ∃ a, p = .ofArgument a := by
  rw [parameters, List.append_assoc, ← List.map_append] at hp
  rcases List.mem_append.1 hp with hp | hp
  · exact absurd hoptional (Bool.eq_false_iff.1 (h p hp))
  · obtain ⟨a, -, rfl⟩ := List.mem_map.1 hp
    exact ⟨a, rfl⟩

private theorem filter_drop_parameters (x : Method) (isOptional : Bool) :
    ((x.parameters.drop x.fixed.length).filter (·.isOptional == isOptional)).map Parameter.name =
      (x.arguments.filter (·.isOptional == isOptional)).map Argument.parameter := by
  rw [parameters, List.append_assoc, List.drop_left, List.filter_append, List.filter_map, List.filter_map,
    List.filter_filter, List.filter_filter, List.map_append, List.map_map, List.map_map]
  cases isOptional <;> simp [Function.comp_def]

theorem takes_of_mapArguments {s : Scope} {context : String} (hrequired : ∀ p ∈ x.fixed, p.isOptional = false)
    (hfixed : (x.fixed.map Parameter.name).Nodup)
    (h : s.mapArguments context (x.fixed.map Parameter.name) values = .ok x.arguments) :
    x.Takes (x.fixed.map Parameter.name) values := by
  have hcomplete : (x.parameters.map Parameter.name).Perm
      (x.fixed.map Parameter.name ++ parameterNames (x.fixed.map Parameter.name) (values.map InputValue.name)) := by
    rw [map_name_parameters, ← parameters_of_mapArguments h, ← List.map_append]
    have hgroups := List.filter_append_perm Argument.isOptional x.arguments
    exact ((List.perm_append_comm.trans hgroups).map _).append_left _
  exact
    { distinct := hcomplete.nodup_iff.2 (nodup_append_parameterNames hfixed _)
      complete := hcomplete
      fixedFirst := map_name_parameters x ▸ List.prefix_append _ _
      optionalLast := pairwise_parameters hrequired
      inOrder := by
        intro isOptional
        rw [List.length_map, filter_drop_parameters, ← declaredParameters_of_mapArguments h, List.filter_map,
          List.map_map]
        rfl
      acceptsNull := by
        intro p hp hoptional
        obtain ⟨a, rfl⟩ := exists_argument hrequired hp hoptional
        obtain ⟨type, htype⟩ := exists_annotation_of_isOptional hoptional
        exact ⟨type, congrArg some htype⟩ }

end Method

/-- Does the module have a method for each field, with the parameters that the arguments call for? -/
structure Module.Declares (m : Module) (o : Options) (fixed : List String) (fields : List FieldDefinition) : Prop where
  rendered : (m.methods.map Method.line).Sublist (Layout.lines o m)
  takes : List.Forall₂ (fun field method => method.Takes fixed field.arguments) fields m.methods

namespace Scope

variable {s : Scope} {m : Module}

private theorem takes_of_mapOperation {root : String} {field : FieldDefinition} {operation : Operation}
    (h : s.mapOperation root field = .ok operation) :
    (Method.ofOperation operation).Takes ["self"] field.arguments := by
  obtain ⟨returnType, -, h⟩ := bind_eq_ok_iff.1 h
  obtain ⟨arguments, harguments, rfl⟩ := bind_pure_eq_ok_iff.1 h
  refine Method.takes_of_mapArguments (x := Method.ofOperation _) ?_ ?_ harguments <;> simp [Method.ofOperation]

private theorem takes_of_resolverEntry {type : FieldedDefinition} {isInterface : Bool} {entry : ResolverEntry}
    (h : s.resolverEntry type isInterface = .ok entry) :
    List.Forall₂ (fun field method => method.Takes ["self", "parent"] field.arguments) type.fields
      (entry.fields.map (Method.ofResolver entry)) := by
  obtain ⟨model, -, h⟩ := bind_eq_ok_iff.1 h
  obtain ⟨fields, hfields, rfl⟩ := bind_pure_eq_ok_iff.1 h
  rw [List.forall₂_map_right_iff]
  refine (mapM_eq_ok_iff.1 hfields).imp fun field f h => ?_
  obtain ⟨result, -, h⟩ := bind_eq_ok_iff.1 h
  obtain ⟨arguments, harguments, rfl⟩ := bind_pure_eq_ok_iff.1 h
  refine Method.takes_of_mapArguments (x := Method.ofResolver _ _) ?_ ?_ harguments <;> simp [Method.ofResolver]

theorem declares_operation {root : String} {field : FieldDefinition} (h : s.operationModule root field = .ok m)
    (o : Options) : m.Declares o ["self"] [field] := by
  obtain ⟨operation, hoperation, rfl⟩ := operationModule_eq_ok_iff.1 h
  exact ⟨Module.methods_sublist o _, .cons (takes_of_mapOperation hoperation) .nil⟩

theorem declares_root {root : FieldedDefinition} (h : s.rootModule root = .ok m) (o : Options) :
    m.Declares o ["self"] root.fields := by
  obtain ⟨operations, hoperations, rfl⟩ := rootModule_eq_ok_iff.1 h
  refine ⟨Module.methods_sublist o _, List.forall₂_map_right_iff.2 ?_⟩
  exact (mapM_eq_ok_iff.1 hoperations).imp fun field operation => takes_of_mapOperation

theorem declares_resolvers {document : Document} (h : s.resolverModule document = .ok m) (o : Options) :
    m.Declares o ["self", "parent"] ((resolvedTypes document).flatMap fun type => type.1.fields) := by
  obtain ⟨entries, hentries, rfl⟩ := resolverModule_eq_ok_iff.1 h
  exact ⟨Module.methods_sublist o _,
    List.rel_flatMap (mapM_eq_ok_iff.1 hentries) fun type entry h => takes_of_resolverEntry h⟩

/-- The search for the name of a parameter always ends, with the name that methods make of the argument's, followed by the
fewest low lines that tell it apart from the fixed parameters and from those of earlier arguments. The methods for
operations and for fields with resolvers stand in the texts of their modules, each with a legal list of parameters. -/
theorem legal_parameters (s : Scope) (o : Options) :
    (∀ used before name, ∃ parameter,
      parameterNames used (before ++ [name]) = parameterNames used before ++ [parameter] ∧
        (∀ result, Renames (used ++ parameterNames used before) (Naming.methodName name) result ↔ result = parameter) ∧
        IsFresh (used ++ parameterNames used before) (Naming.methodName name) parameter) ∧
    (∀ context used values arguments, s.mapArguments context used values = .ok arguments →
      arguments.map Argument.parameter = parameterNames used (values.map InputValue.name)) ∧
    (∀ root field m, s.operationModule root field = .ok m → m.Declares o ["self"] [field]) ∧
    (∀ root m, s.rootModule root = .ok m → m.Declares o ["self"] root.fields) ∧
    ∀ document m, s.resolverModule document = .ok m →
      m.Declares o ["self", "parent"] ((resolvedTypes document).flatMap fun type => type.1.fields) := by
  refine ⟨fun used before name => ?_, fun _ _ _ _ h => parameters_of_mapArguments h,
    fun _ _ _ h => declares_operation h o, fun _ _ h => declares_root h o, fun _ _ h => declares_resolvers h o⟩
  obtain ⟨parameter, hparameter, hfresh⟩ := isFresh_parameterNames used before name
  exact ⟨parameter, hparameter, fun result => hfresh.renames_iff, hfresh⟩

/-- An argument that is renamed to the name that a later one wants, one that has a fixed name in other letters, and
required ones behind one that may be left out. -/
theorem legal_parameters_replies :
    let replies : FieldDefinition :=
      { name := "replies", description := none, type := .named "Int" false,
        arguments := [⟨"parent", none, .named "ID" false, none⟩, ⟨"Self", none, .named "Int" true, none⟩,
          ⟨"parent_", none, .named "ID" true, none⟩, ⟨"first", none, .named "Int" true, some (.int "1")⟩] }
    let query : FieldedDefinition := { name := "Query", description := none, interfaces := [], fields := [replies] }
    let comment : FieldedDefinition := { name := "Comment", description := none, interfaces := [], fields := [replies] }
    let document : Document := [.object comment]
    let s := ofRun .unset [document]
    (∃ arguments, s.mapArguments "Comment" ["self"] replies.arguments = .ok arguments ∧
      arguments.map Argument.parameter = ["parent", "self_", "parent_", "first"]) ∧
    (∃ m, s.operationModule "Query" replies = .ok m ∧ m.Declares .unset ["self"] [replies]) ∧
    (∃ m, s.rootModule query = .ok m ∧ m.Declares .unset ["self"] [replies]) ∧
    ∃ m, s.resolverModule document = .ok m ∧ m.Declares .unset ["self", "parent"] [replies] ∧
      m.methods.map Method.line = ["    def replies(self, parent: Comment, self_: int, parent__: str, " ++
        "parent_: str | None = None, first: int | None = None) -> int | None:"] := by
  intro replies query comment document s
  obtain ⟨-, harguments, hoperation, hroot, hresolvers⟩ := legal_parameters s .unset
  obtain ⟨arguments, h⟩ := exists_eq_ok_of_isSome
    (x := s.mapArguments "Comment" ["self"] replies.arguments) (by decide +kernel)
  obtain ⟨single, hsingle⟩ := exists_eq_ok_of_isSome (x := s.operationModule "Query" replies) (by decide +kernel)
  obtain ⟨whole, hwhole⟩ := exists_eq_ok_of_isSome (x := s.rootModule query) (by decide +kernel)
  obtain ⟨m, hm⟩ := exists_eq_ok_of_isSome (x := s.resolverModule document) (by decide +kernel)
  have hlines : (s.resolverModule document).toOption.map (fun m => m.methods.map Method.line) =
      some ["    def replies(self, parent: Comment, self_: int, parent__: str, " ++
        "parent_: str | None = None, first: int | None = None) -> int | None:"] := by
    decide +kernel
  rw [hm] at hlines
  exact ⟨⟨arguments, h, (harguments _ _ _ _ h).trans (by decide +kernel)⟩, ⟨single, hsingle, hoperation _ _ _ hsingle⟩,
    ⟨whole, hwhole, hroot _ _ hwhole⟩, m, hm, hresolvers _ _ hm, Option.some.inj hlines⟩

end Scope

end SchemaBindings
