import SchemaBindings.Layout
import SchemaBindings.Proofs.Meaning
import SchemaBindings.Proofs.Success
import SchemaBindings.Proofs.TextLines
import SchemaBindings.Proofs.UsableNames

/-!
# Lines of fields

In the text of a class with fields, every field has a block of lines: at most two comments, and then its declaration.
Descriptions may be any text, as comments stand on one line whatever they say. If names, annotations and the value for
required fields do so too, reading the text line by line gives the blocks one after the other, so no declaration shares
its line with anything else (`fields_line_by_line`). The lines are those of the layout, in which the blanks and line
breaks that `trim_blocks` and `lstrip_blocks` take away are gone already.
-/

namespace SchemaBindings

/-! ### Fields on one line -/

namespace Field

/-- Do the names of a field and of its arguments stand on one line? -/
structure NamesOneLine (f : Field) : Prop where
  identifier : Text.OneLine f.identifier
  arguments : ∀ a ∈ f.arguments, Text.OneLine a.name

/-- Do the annotations of a field and of its arguments stand on one line? -/
structure AnnotationsOneLine (f : Field) : Prop where
  type : Text.OneLine f.type.annotation
  arguments : ∀ a ∈ f.arguments, Text.OneLine a.type.annotation

theorem namesOneLine_iff {f : Field} :
    f.NamesOneLine ↔ Text.OneLine f.identifier ∧ ∀ a ∈ f.arguments, Text.OneLine a.name :=
  ⟨fun h => ⟨h.identifier, h.arguments⟩, fun ⟨hi, ha⟩ => ⟨hi, ha⟩⟩

theorem annotationsOneLine_iff {f : Field} :
    f.AnnotationsOneLine ↔ Text.OneLine f.type.annotation ∧ ∀ a ∈ f.arguments, Text.OneLine a.type.annotation :=
  ⟨fun h => ⟨h.type, h.arguments⟩, fun ⟨ht, ha⟩ => ⟨ht, ha⟩⟩

instance (f : Field) : Decidable f.NamesOneLine := decidable_of_iff _ namesOneLine_iff.symm

instance (f : Field) : Decidable f.AnnotationsOneLine := decidable_of_iff _ annotationsOneLine_iff.symm

end Field

theorem Naming.IsWord.oneLine {name : String} (h : IsWord name) : Text.OneLine name where
  lineFeed hc := absurd (h.2 _ hc) (by decide)
  carriageReturn hc := absurd (h.2 _ hc) (by decide)

theorem Scope.names_mapArguments {s : Scope} {owner : String} {used : List String} {values : List Schema.InputValue}
    {arguments : List Argument} (h : s.mapArguments owner used values = .ok arguments) :
    arguments.map Argument.name = values.map Schema.InputValue.name := by
  induction values generalizing used arguments with
  | nil =>
    cases h
    rfl
  | cons value values ih =>
    obtain ⟨type, -, h⟩ := bind_eq_ok_iff.1 h
    obtain ⟨others, hothers, rfl⟩ := bind_pure_eq_ok_iff.1 h
    exact congrArg (value.name :: ·) (ih hothers)

/-- The names in a schema are words, so those in its classes stand on one line. -/
theorem Scope.namesOneLine_of_mapFields {s : Scope} {owner : String} {used : List String}
    {definitions : List Schema.FieldDefinition} {fields : List Field}
    (h : s.mapFields owner used definitions = .ok fields)
    (hwords : ∀ d ∈ definitions, Naming.IsWord d.name ∧ ∀ a ∈ d.arguments, Naming.IsWord a.name) :
    ∀ f ∈ fields, f.NamesOneLine := by
  intro f hf
  obtain ⟨definition, hdefinition, hfield⟩ := exists_of_mem_mapM h hf
  obtain ⟨type, -, hfield⟩ := bind_eq_ok_iff.1 hfield
  obtain ⟨arguments, harguments, rfl⟩ := bind_pure_eq_ok_iff.1 hfield
  obtain ⟨hname, hargumentNames⟩ := hwords definition hdefinition
  refine ⟨hname.safeIdentifier.oneLine, fun a ha => ?_⟩
  have ha : a.name ∈ definition.arguments.map Schema.InputValue.name :=
    names_mapArguments harguments ▸ List.mem_map_of_mem ha
  obtain ⟨value, hvalue, hname⟩ := List.mem_map.1 ha
  exact hname ▸ (hargumentNames value hvalue).oneLine

namespace Layout

variable {o : Options} {m : Module} {f : Field} {kind : RecordKind} {fields : List Field} {bases : List Reference}

/-! ### Blocks -/

/-- Is a field set to this, in the text behind its annotation? -/
inductive SetTo (o : Options) (f : Field) : String → Prop
  /-- A renamed field keeps its name as an alias. -/
  | renamedRequired (hname : f.identifier ≠ f.name) (hrequired : f.type.required = true) :
      SetTo o f (" = Field(..., alias=" ++ Text.quoted f.name ++ ")")
  | renamed (hname : f.identifier ≠ f.name) (hrequired : f.type.required = false) :
      SetTo o f (" = Field(None, alias=" ++ Text.quoted f.name ++ ")")
  /-- The options have a value for required fields. -/
  | value {value : String} (hname : f.identifier = f.name) (hrequired : f.type.required = true)
      (hvalue : o.requiredValue = some value) (hne : value ≠ "") : SetTo o f (" = " ++ value)
  | nothing (hname : f.identifier = f.name) (hrequired : f.type.required = true)
      (hvalue : o.requiredValue.getD "" = "") : SetTo o f ""
  | null (hname : f.identifier = f.name) (hrequired : f.type.required = false) : SetTo o f " = None"

/-- Is this the declaration of the field, on one line? -/
structure Declares (o : Options) (f : Field) (line : String) : Prop where
  exists_setTo : ∃ value, SetTo o f value ∧ line = "    " ++ f.identifier ++ ": " ++ f.type.annotation ++ value
  oneLine : Text.OneLine line

/-- Is this a comment in a class, on one line? -/
structure IsRemark (line : String) : Prop where
  exists_text : ∃ text, line = "    # " ++ text
  oneLine : Text.OneLine line

/-- Are the lines a block for the field: at most two comments, and then its declaration? -/
inductive IsBlock (o : Options) (f : Field) : List String → Prop
  | intro {remarks : List String} {declaration : String} (hlength : remarks.length ≤ 2)
      (hremarks : ∀ remark ∈ remarks, IsRemark remark) (hdeclares : Declares o f declaration) :
      IsBlock o f (remarks ++ [declaration])

theorem setTo_fieldValue (o : Options) (f : Field) : SetTo o f (fieldValue o f) := by
  have hrenamed : f.isRenamed = true ↔ f.identifier ≠ f.name := bne_iff_ne
  unfold fieldValue
  split
  · next hname =>
    have hname := hrenamed.1 hname
    cases hrequired : f.type.required with
    | true => exact .renamedRequired hname hrequired
    | false => exact .renamed hname hrequired
  · next hname =>
    have hname : f.identifier = f.name := not_ne_iff.1 (mt hrenamed.2 hname)
    split
    · next hrequired =>
      split
      · next value hvalue =>
        obtain ⟨hvalue, hne⟩ := Option.filter_eq_some_iff.1 hvalue
        exact .value hname hrequired hvalue (by simpa using hne)
      · next hvalue =>
        refine .nothing hname hrequired ?_
        cases hoption : o.requiredValue with
        | none => rfl
        | some value =>
          rw [nonempty?, hoption] at hvalue
          simpa using hvalue
    · next hrequired => exact .null hname (by simpa using hrequired)

/-- What a field is set to stands on one line if the value of the options does. -/
theorem SetTo.oneLine {value : String} (h : SetTo o f value) (hvalue : ∀ v ∈ o.requiredValue, Text.OneLine v) :
    Text.OneLine value := by
  have halias (before : String) (hbefore : Text.OneLine before) :
      Text.OneLine (before ++ Text.quoted f.name ++ ")") := by
    simpa [hbefore, Text.oneLine_quoted] using (by decide : Text.OneLine ")")
  cases h with
  | renamedRequired | renamed => exact halias _ (by decide)
  | value hname hrequired hoption hne => exact Text.oneLine_append.2 ⟨by decide, hvalue _ hoption⟩
  | nothing | null => decide

theorem declares_fieldDeclaration (hnames : f.NamesOneLine) (hannotations : f.AnnotationsOneLine)
    (hvalue : ∀ v ∈ o.requiredValue, Text.OneLine v) : Declares o f (fieldDeclaration o f) := by
  have hset := setTo_fieldValue o f
  have hline : fieldDeclaration o f = "    " ++ f.identifier ++ ": " ++ f.type.annotation ++ fieldValue o f := by
    simp only [fieldDeclaration, indented, String.append_assoc]
  refine ⟨⟨_, hset, hline⟩, ?_⟩
  simp only [hline, Text.oneLine_append]
  exact ⟨⟨⟨⟨by decide, hnames.identifier⟩, by decide⟩, hannotations.type⟩, hset.oneLine hvalue⟩

private theorem isRemark_indented {text : String} (h : Text.OneLine text) : IsRemark (indented ("# " ++ text)) where
  exists_text := ⟨text, by rw [indented, ← String.append_assoc]; rfl⟩
  oneLine := by
    simp only [indented, Text.oneLine_append]
    exact ⟨by decide, by decide, h⟩

/-- The comments of a field are those of its description and of its arguments, if it has any. -/
theorem isRemark_of_mem_fieldRemarks (hnames : f.NamesOneLine) (hannotations : f.AnnotationsOneLine) {remark : String}
    (h : remark ∈ fieldRemarks f) : IsRemark remark := by
  rcases List.mem_append.1 h with h | h
  · obtain ⟨description, -, rfl⟩ := Option.map_eq_some_iff.1 (Option.mem_toList.1 h)
    exact isRemark_indented (Naming.oneLine_safeComment description)
  · split at h
    · cases h
    · have hone : ∀ text ∈ f.arguments.map fun a => a.name ++ ": " ++ a.type.annotation, Text.OneLine text := by
        intro text htext
        obtain ⟨a, ha, rfl⟩ := List.mem_map.1 htext
        simp only [Text.oneLine_append]
        exact ⟨⟨hnames.arguments a ha, by decide⟩, hannotations.arguments a ha⟩
      have htext : argumentsRemark f.arguments = "# " ++ ("Arguments: " ++
          ", ".intercalate (f.arguments.map fun a => a.name ++ ": " ++ a.type.annotation)) := by
        rw [argumentsRemark, ← String.append_assoc]
        rfl
      rw [List.mem_singleton.1 h, htext]
      exact isRemark_indented (Text.oneLine_append.2 ⟨by decide, Text.oneLine_intercalate (by decide) hone⟩)

theorem length_fieldRemarks (f : Field) : (fieldRemarks f).length ≤ 2 := by
  have hdescription :
      ((nonempty? f.description).map fun d => indented ("# " ++ Naming.safeComment d)).toList.length ≤ 1 :=
    Option.length_toList_le
  have harguments : (if f.arguments.isEmpty then [] else [indented (argumentsRemark f.arguments)]).length ≤ 1 := by
    split <;> simp
  rw [fieldRemarks, List.length_append]
  omega

theorem isBlock_fieldLines (hnames : f.NamesOneLine) (hannotations : f.AnnotationsOneLine)
    (hvalue : ∀ v ∈ o.requiredValue, Text.OneLine v) : IsBlock o f (fieldLines o f) :=
  .intro (length_fieldRemarks f) (fun _ => isRemark_of_mem_fieldRemarks hnames hannotations)
    (declares_fieldDeclaration hnames hannotations hvalue)

theorem IsBlock.oneLine {lines : List String} (h : IsBlock o f lines) : ∀ line ∈ lines, Text.OneLine line := by
  cases h with
  | intro hlength hremarks hdeclares =>
    intro line hline
    rcases List.mem_append.1 hline with hline | hline
    · exact (hremarks line hline).oneLine
    · exact List.mem_singleton.1 hline ▸ hdeclares.oneLine

/-! ### Texts of classes -/

/-- The lines before the fields of a class. -/
def recordTop (o : Options) (m : Module) (kind : RecordKind) (bases : List Reference) : List String :=
  recordBanner kind m.className ++ [""] ++ futureImport ++
    (if m.typeImports.isEmpty then [] else ["from typing import " ++ typeCondition, ""]) ++
    ["from pydantic import BaseModel, ConfigDict, Field"] ++ importLines m ++ gap ++
    [classLine m.className (recordBases bases)] ++
    ((nonempty? m.description).map fun d => [indented (docstring d), ""]).getD [] ++
    if o.frozen.getD false then [indented "model_config = ConfigDict(frozen=True)", ""] else []

/-- The lines after the fields of a class. -/
def recordEnd (o : Options) (m : Module) (fields : List Field) : List String :=
  if o.printing.getD false then printingLines m.className fields
  else if (nonempty? m.description).isNone && !o.frozen.getD false && fields.isEmpty then emptyBody else []

theorem recordLines_eq (o : Options) (m : Module) (kind : RecordKind) (fields : List Field) (bases : List Reference) :
    recordLines o m kind fields bases =
      recordTop o m kind bases ++ fields.flatMap (fieldLines o) ++ recordEnd o m fields := by
  have hbody : recordBody o m fields = ((nonempty? m.description).map fun d => [indented (docstring d), ""]).getD [] ++
      (if o.frozen.getD false then [indented "model_config = ConfigDict(frozen=True)", ""] else []) ++
        fields.flatMap (fieldLines o) ++ recordEnd o m fields := by
    unfold recordBody recordEnd
    by_cases hprinting : o.printing.getD false = true
    · simp [hprinting, printingLines]
    · -- the body is empty if none of its parts is there
      cases nonempty? m.description with
      | some description => simp [hprinting]
      | none =>
        cases o.frozen.getD false with
        | true => simp [hprinting]
        | false =>
          cases fields with
          | nil => simp [hprinting]
          | cons f fields => simp [hprinting, fieldLines]
  simp only [recordLines, hbody, recordTop, List.append_assoc]

/-- The text for the fields of a class is one block for each of them, in order, and the lines of the blocks are lines of
the text. -/
theorem fields_line_by_line (hbody : m.body = .record kind fields bases) (hnames : ∀ f ∈ fields, f.NamesOneLine)
    (hannotations : ∀ f ∈ fields, f.AnnotationsOneLine) (hvalue : ∀ v ∈ o.requiredValue, Text.OneLine v) :
    (∀ f ∈ fields, IsBlock o f (fieldLines o f)) ∧
      m.text o = text (recordTop o m kind bases) ++ String.join (fields.map fun f => text (fieldLines o f)) ++
        text (recordEnd o m fields) ∧
      Text.lines (m.text o).toList = (Text.lines (text (recordTop o m kind bases)).toList).dropLast ++
        (fields.flatMap (fieldLines o)).map String.toList ++ Text.lines (text (recordEnd o m fields)).toList := by
  have hblocks : ∀ f ∈ fields, IsBlock o f (fieldLines o f) :=
    fun f hf => isBlock_fieldLines (hnames f hf) (hannotations f hf) hvalue
  have hone : ∀ line ∈ fields.flatMap (fieldLines o), Text.OneLine line := by
    intro line hline
    obtain ⟨f, hf, hline⟩ := List.mem_flatMap.1 hline
    exact (hblocks f hf).oneLine line hline
  have htext : m.text o = text (recordTop o m kind bases) ++ text (fields.flatMap (fieldLines o)) ++
      text (recordEnd o m fields) := by
    rw [Module.text, lines, hbody]
    simp only [recordLines_eq, text_append]
  have htop : recordTop o m kind bases ≠ [] := by simp [recordTop]
  refine ⟨hblocks, by rw [htext, text_flatMap], ?_⟩
  rw [htext, String.toList_append, String.toList_append, List.append_assoc, lines_text_append_rest htop,
    lines_text_append hone, List.append_assoc]

/-- Fields in all forms: with a description on several lines, with arguments, renamed, required, and neither. -/
theorem fields_line_by_line_user :
    let o : Options := { Options.unset with requiredValue := some "Field()" }
    let definitions : List Schema.FieldDefinition :=
      [⟨"class", some "The kind,\nor class.", [], .named "String" true⟩,
        ⟨"posts", some "Posts.", [⟨"first", none, .named "Int" false, none⟩, ⟨"after", none, .named "ID" true, none⟩],
          .list (.named "String" true) false⟩,
        ⟨"id", none, [], .named "ID" true⟩, ⟨"_low", none, [], .named "Int" false⟩]
    let s := Scope.ofRun o []
    ∃ fields, s.mapFields "User" ["self"] definitions = .ok fields ∧
      let m := s.modelModule "User" none (.record .object fields [])
      (∀ f ∈ fields, f.NamesOneLine) ∧ (∀ f ∈ fields, f.AnnotationsOneLine) ∧
        (∀ v ∈ o.requiredValue, Text.OneLine v) ∧
        fields.flatMap (fieldLines o) = ["    # The kind, or class.",
          "    class_: str = Field(..., alias='class')", "    # Posts.",
          "    # Arguments: first: int | None, after: str", "    posts: list[str] | None = None",
          "    id: str = Field()", "    low_: int | None = Field(None, alias='_low')"] ∧
        (∀ f ∈ fields, IsBlock o f (fieldLines o f)) ∧
          m.text o = text (recordTop o m .object []) ++ String.join (fields.map fun f => text (fieldLines o f)) ++
            text (recordEnd o m fields) ∧
          Text.lines (m.text o).toList = (Text.lines (text (recordTop o m .object [])).toList).dropLast ++
            (fields.flatMap (fieldLines o)).map String.toList ++ Text.lines (text (recordEnd o m fields)).toList := by
  intro o definitions s
  have hchecked : (s.mapFields "User" ["self"] definitions).toOption.any (fun fields =>
      decide ((∀ f ∈ fields, f.AnnotationsOneLine) ∧
        fields.flatMap (fieldLines o) = ["    # The kind, or class.",
          "    class_: str = Field(..., alias='class')", "    # Posts.",
          "    # Arguments: first: int | None, after: str", "    posts: list[str] | None = None",
          "    id: str = Field()", "    low_: int | None = Field(None, alias='_low')"])) = true := by
    decide +kernel
  obtain ⟨fields, h⟩ := exists_eq_ok_of_isSome (x := s.mapFields "User" ["self"] definitions) (by decide +kernel)
  rw [h] at hchecked
  obtain ⟨hannotations, hlines⟩ := of_decide_eq_true hchecked
  have hnames := Scope.namesOneLine_of_mapFields h (by decide)
  have hvalue : ∀ v ∈ o.requiredValue, Text.OneLine v := by decide
  exact ⟨fields, h, hnames, hannotations, hvalue, hlines, fields_line_by_line rfl hnames hannotations hvalue⟩

end Layout

end SchemaBindings
