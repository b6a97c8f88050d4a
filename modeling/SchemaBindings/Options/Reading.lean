import SchemaBindings.Json.Reader
import SchemaBindings.Options

/-!
# Options as JSON

Options are read from a JSON object. Each has two spellings; a key that is no spelling of an option is refused, and
so is the second spelling if the first is given. All complaints are collected: those about options in the order of
the options, then those about unknown keys in the order of the object.
-/

namespace SchemaBindings

/-- What a complaint is about. -/
inductive ComplaintKind
  | notAnObject | unknownKey | notText | notATable | notAFlag | unreadableFlag | notJson
  deriving DecidableEq, Repr, Inhabited

/-- The code of a complaint. -/
def ComplaintKind.code : ComplaintKind → String
  | notAnObject => "model_type"
  | unknownKey => "extra_forbidden"
  | notText => "string_type"
  | notATable => "dict_type"
  | notAFlag => "bool_type"
  | unreadableFlag => "bool_parsing"
  | notJson => "json_invalid"

/-- A complaint and the keys that lead to its place. -/
structure Complaint where
  kind : ComplaintKind
  place : List String
  deriving DecidableEq, Repr, Inhabited

/-- The two spellings of an option's key. -/
structure OptionKey where
  first : String
  second : String
  deriving DecidableEq, Repr, Inhabited

namespace OptionKey

def customTypes : OptionKey := ⟨"customTypesMapping", "custom_types_mapping"⟩
def requiredValue : OptionKey := ⟨"modelValidationAnnotation", "model_validation_annotation"⟩
def frozen : OptionKey := ⟨"generateEqualsAndHashCode", "generate_equals_and_hash_code"⟩
def printing : OptionKey := ⟨"generateToString", "generate_to_string"⟩
def apis : OptionKey := ⟨"generateApis", "generate_apis"⟩
def package : OptionKey := ⟨"packageName", "package_name"⟩
def modelPackage : OptionKey := ⟨"modelPackageName", "model_package_name"⟩
def apiPackage : OptionKey := ⟨"apiPackageName", "api_package_name"⟩
def namePrefix : OptionKey := ⟨"modelNamePrefix", "model_name_prefix"⟩
def nameSuffix : OptionKey := ⟨"modelNameSuffix", "model_name_suffix"⟩

/-- The keys of all options. -/
def all : List OptionKey :=
  [customTypes, requiredValue, frozen, printing, apis, package, modelPackage, apiPackage, namePrefix, nameSuffix]

/-- The spelling that an object uses, and the value under it. -/
def given? (key : OptionKey) (members : List (String × Json)) : Option (String × Json) :=
  match members.lookup key.first with
  | some value => some (key.first, value)
  | none => (members.lookup key.second).map (key.second, ·)

end OptionKey

/-- A value and the complaints about where it comes from; with complaints the value means nothing. -/
structure Checked (α : Type) where
  value : α
  complaints : List Complaint

namespace Options

/-! ### Single values -/

/-- Words for false and true, in small letters. -/
def flagOfWord? (word : String) : Option Bool :=
  if ["0", "off", "f", "false", "n", "no"].contains word then some false
  else if ["1", "on", "t", "true", "y", "yes"].contains word then some true
  else none

/-- Does the number fit into sixty-four bits with a sign? -/
def fitsWord (n : Int) : Bool := -0x8000000000000000 ≤ n && n < 0x8000000000000000

/-- A flag: a truth value, a number that is zero or one, or a word for one, in any mix of capital and small letters. -/
def flagOfJson : Json → Except ComplaintKind Bool
  | .bool value => .ok value
  | .int n =>
    if n == 0 then .ok false else if n == 1 then .ok true
    else .error (if fitsWord n then .unreadableFlag else .notAFlag)
  | .real d => if d.roundsToZero then .ok false else if d.roundsToOne then .ok true else .error .notAFlag
  | .string word =>
    match flagOfWord? (word.map Char.toLower) with
    | some value => .ok value
    | none => .error .unreadableFlag
  | _ => .error .notAFlag

/-- A text. -/
def textOfJson : Json → Except ComplaintKind String
  | .string text => .ok text
  | _ => .error .notText

/-- An option that is open if it is absent or null. -/
def optional {α : Type} (read : Json → Except ComplaintKind α) (key : OptionKey) (members : List (String × Json)) :
    Checked (Option α) :=
  match key.given? members with
  | none | some (_, .null) => ⟨none, []⟩
  | some (spelling, value) =>
    match read value with
    | .ok found => ⟨some found, []⟩
    | .error kind => ⟨none, [⟨kind, [spelling]⟩]⟩

/-- The table of custom types: an object of texts. -/
def customTypesOfJson (members : List (String × Json)) : Checked (Table String String) :=
  match OptionKey.customTypes.given? members with
  | none => ⟨Table.empty, []⟩
  | some (spelling, .object entries) =>
    { value := Table.ofList (entries.filterMap fun entry => entry.2.string?.map (entry.1, ·))
      complaints := entries.filterMap fun entry =>
        if entry.2.string?.isNone then some ⟨.notText, [spelling, entry.1]⟩ else none }
  | some (spelling, _) => ⟨Table.empty, [⟨.notATable, [spelling]⟩]⟩

/-! ### Whole objects -/

/-- Complaints about the keys that no option uses. -/
def unknownKeys (members : List (String × Json)) : List Complaint :=
  let used := OptionKey.all.filterMap fun key => (key.given? members).map (·.1)
  members.filterMap fun member => if used.contains member.1 then none else some ⟨.unknownKey, [member.1]⟩

/-- The options that a JSON value holds. -/
def ofJson : Json → Except (List Complaint) Options
  | .object members =>
    let customTypes := customTypesOfJson members
    let requiredValue := optional textOfJson .requiredValue members
    let frozen := optional flagOfJson .frozen members
    let printing := optional flagOfJson .printing members
    let apis := optional flagOfJson .apis members
    let package := optional textOfJson .package members
    let modelPackage := optional textOfJson .modelPackage members
    let apiPackage := optional textOfJson .apiPackage members
    let namePrefix := optional textOfJson .namePrefix members
    let nameSuffix := optional textOfJson .nameSuffix members
    let complaints := customTypes.complaints ++ requiredValue.complaints ++ frozen.complaints ++
      printing.complaints ++ apis.complaints ++ package.complaints ++ modelPackage.complaints ++
      apiPackage.complaints ++ namePrefix.complaints ++ nameSuffix.complaints ++ unknownKeys members
    if complaints.isEmpty then .ok {
      customTypes := customTypes.value
      requiredValue := requiredValue.value
      frozen := frozen.value
      printing := printing.value
      apis := apis.value
      package := package.value
      modelPackage := modelPackage.value
      apiPackage := apiPackage.value
      namePrefix := namePrefix.value
      nameSuffix := nameSuffix.value }
    else .error complaints
  | _ => .error [⟨.notAnObject, []⟩]

/-- The options that a JSON text holds. -/
def ofText (text : String) : Except (List Complaint) Options :=
  match Json.ofText? text with
  | some value => ofJson value
  | none => .error [⟨.notJson, []⟩]

end Options

end SchemaBindings
