import SchemaBindings.Module
import SchemaBindings.Options
import SchemaBindings.Text.Quoted

/-!
# What templates can show

A template sees the module that it lays out and the options of the run as values with attributes. A text is shown as
it is, anything else in the notation of the output language.
-/

namespace SchemaBindings.Template

/-- A value that a template can show. -/
inductive Value
  | null
  | flag (value : Bool)
  | text (value : String)
  | list (items : List Value)
  | tuple (items : List Value)
  | table (entries : List (String × Value))
  /-- A constant with a name, a text behind it, and what it is a constant of. -/
  | constant (kind name value : String)
  /-- A record with attributes and further ones that follow from them. -/
  | record (path kind : String) (attributes derived : List (String × Value))
  deriving Inhabited

namespace Value

mutual

/-- A value in the notation of the output language. -/
def written : Value → String
  | null => "None"
  | flag value => if value then "True" else "False"
  | text value => Text.quoted value
  | list items => "[" ++ ", ".intercalate (writtenAll items) ++ "]"
  | tuple [only] => "(" ++ written only ++ ",)"
  | tuple items => "(" ++ ", ".intercalate (writtenAll items) ++ ")"
  | table entries => "\x7b" ++ ", ".intercalate (pairs entries) ++ "\x7d"
  | constant kind name value => "<" ++ kind ++ "." ++ name ++ ": " ++ Text.quoted value ++ ">"
  | record _ kind attributes _ => kind ++ "(" ++ ", ".intercalate (assignments attributes) ++ ")"

/-- Values in this notation. -/
def writtenAll : List Value → List String
  | [] => []
  | v :: vs => written v :: writtenAll vs

/-- Entries of a table in this notation. -/
def pairs : List (String × Value) → List String
  | [] => []
  | (key, v) :: entries => (Text.quoted key ++ ": " ++ written v) :: pairs entries

/-- Attributes in this notation. -/
def assignments : List (String × Value) → List String
  | [] => []
  | (name, v) :: entries => (name ++ "=" ++ written v) :: assignments entries

end

/-- The text that a template shows for a value. -/
def shown : Value → String
  | text value => value
  | constant kind name _ => kind ++ "." ++ name
  | v => v.written

/-- What messages call a value. -/
def typeText : Value → String
  | null => "None"
  | flag _ => "bool object"
  | text _ => "str object"
  | list _ => "list object"
  | tuple _ => "tuple object"
  | table _ => "dict object"
  | constant kind .. => modelPath ++ kind ++ " object"
  | record path kind .. => path ++ kind ++ " object"
where
  modelPath : String := "gql_idlgen.core.model."

/-- The attribute of a value. -/
def attribute? (name : String) : Value → Option Value
  | record _ _ attributes derived => (attributes ++ derived).lookup name
  | _ => none

/-! ### Modules and options -/

/-- A text or nothing. -/
def ofText? (t : Option String) : Value := (t.map text).getD null

/-- A flag or nothing. -/
def ofFlag? (b : Option Bool) : Value := (b.map flag).getD null

/-- Texts in a list. -/
def ofTexts (ts : List String) : Value := list (ts.map text)

/-- A record of the kinds that describe modules. -/
def part (kind : String) (attributes derived : List (String × Value)) : Value :=
  record typeText.modelPath kind attributes derived

/-- A reference. -/
def ofReference (r : Reference) : Value :=
  part "TypeReference"
    [("graphql_name", text r.schemaName), ("target_name", text r.target), ("is_required", flag r.required),
      ("list_items_required", tuple (r.itemsRequired.map flag)), ("is_generated", flag r.isGenerated),
      ("import_module", ofText? r.importModule?), ("module_imports", tuple (r.mentionedModules.map text))]
    [("annotation", text r.annotation), ("is_list", flag !r.itemsRequired.isEmpty),
      ("is_list_item_required", flag r.lastItemRequired)]

/-- An argument. -/
def ofArgument (a : Argument) : Value :=
  part "ArgumentModel"
    [("name", text a.name), ("python_name", text a.parameter), ("type", ofReference a.type),
      ("default_value", ofText? a.default), ("description", ofText? a.description)]
    [("is_optional", flag a.isOptional), ("annotation", text a.annotation)]

/-- A field. -/
def ofField (f : Field) : Value :=
  part "FieldModel"
    [("name", text f.name), ("python_name", text f.identifier), ("type", ofReference f.type),
      ("arguments", list (f.arguments.map ofArgument)), ("description", ofText? f.description)]
    [("needs_alias", flag f.isRenamed)]

/-- An operation. -/
def ofOperation (o : Operation) : Value :=
  part "OperationFieldModel"
    [("name", text o.name), ("method_name", text o.method), ("return_type", ofReference o.returnType),
      ("arguments", list (o.arguments.map ofArgument)), ("description", ofText? o.description)] []

/-- The resolvers of a type. -/
def ofResolverEntry (e : ResolverEntry) : Value :=
  part "ResolverTypeModel"
    [("name", text e.name), ("model_class_name", text e.modelClass), ("resolver_class_name", text e.resolverClass),
      ("accessor_name", text e.accessor), ("fields", list (e.fields.map ofField)),
      ("is_interface", flag e.isInterface)] []

/-- An import. -/
def ofImport (i : Import) : Value :=
  part "ImportModel" [("module", text i.module), ("name", text (i.name.getD ""))] [("statement", text i.statement)]

/-- What a body is called, and the attributes that it adds to a module. -/
def ofBody : Body → String × List (String × Value)
  | .record kind fields bases =>
    ("TypeModel", [("fields", list (fields.map ofField)), ("parents", ofTexts (baseNames bases)),
      ("is_input", flag (kind == .input)), ("is_interface", flag (kind == .interface))])
  | .enumeration values => ("EnumModel", [("values", ofTexts values)])
  | .union members => ("UnionModel", [("members", ofTexts members)])
  | .operations root whole methods =>
    ("OperationModel", [("operation_type", text (operationKind root)), ("root_type", text root),
      ("is_root", flag whole), ("operations", list (methods.map ofOperation))])
  | .resolvers entries => ("ResolverModel", [("types", list (entries.map ofResolverEntry))])

/-- A module. -/
def ofModule (m : Module) : Value :=
  let (kind, attributes) := ofBody m.body
  part kind
    ([("template", constant "Template" (String.ofList (Text.upper m.layoutName.toList)) m.layoutName),
      ("class_name", text m.className), ("package", text m.package), ("module_name", text m.name),
      ("description", ofText? m.description), ("imports", list (m.imports.map ofImport)),
      ("type_checking_imports", list (m.typeImports.map ofImport))] ++ attributes)
    [("relative_path", text m.relativePath)]

/-- The options of a run. -/
def ofOptions (o : Options) : Value :=
  record "gql_idlgen.core.config." "MappingConfig"
    [("custom_types_mapping", table (o.customTypes.entries.map fun e => (e.1, text e.2))),
      ("model_validation_annotation", ofText? o.requiredValue),
      ("generate_equals_and_hash_code", ofFlag? o.frozen), ("generate_to_string", ofFlag? o.printing),
      ("generate_apis", ofFlag? o.apis), ("package_name", ofText? o.package),
      ("model_package_name", ofText? o.modelPackage), ("api_package_name", ofText? o.apiPackage),
      ("model_name_prefix", ofText? o.namePrefix), ("model_name_suffix", ofText? o.nameSuffix)]
    [("resolved_model_package", text o.effectiveModelPackage), ("resolved_api_package", text o.effectiveApiPackage)]

end Value

end SchemaBindings.Template
