import SchemaBindings.Proofs.Identifiers
import SchemaBindings.Proofs.SnakeCase

/-!
# Usable names

Attributes, methods and parameters get names that are not reserved, whatever the name in the schema is. But moving the
low lines from the start of a name to its end uncovers what stands behind them: a digit, which starts no identifier, or
nothing at all, and then the low line that was added comes first again. So a name becomes usable exactly if a letter
follows the low lines at its start (`usable_iff`).
-/

namespace SchemaBindings.Naming

/-! ### Usable names -/

/-- Is the first character, if there is one, of some kind? -/
def opensWith (kind : Char → Bool) (name : String) : Bool := name.toList.head?.any kind

/-- Can the text name a public attribute? -/
structure IsUsable (name : String) : Prop where
  identifier : Text.isIdentifier name.toList = true
  notReserved : isKeyword name = false
  startsPublic : opensWith (· == '_') name = false

theorem isUsable_iff {name : String} : IsUsable name ↔
    Text.isIdentifier name.toList = true ∧ isKeyword name = false ∧ opensWith (· == '_') name = false :=
  ⟨fun h => ⟨h.identifier, h.notReserved, h.startsPublic⟩, fun ⟨hi, hr, hp⟩ => ⟨hi, hr, hp⟩⟩

instance (name : String) : Decidable (IsUsable name) := decidable_of_iff _ isUsable_iff.symm

/-! ### Words as identifiers -/

private theorem isAlpha_iff {c : Char} (h : Text.isNameChar c = true) :
    c.isAlpha = true ↔ c.isDigit = false ∧ (c == '_') = false :=
  of_isNameChar (P := fun c => c.isAlpha = true ↔ c.isDigit = false ∧ (c == '_') = false) (by decide +kernel) h

private theorem startsIdentifier_iff {c : Char} (h : Text.isNameChar c = true) :
    Text.startsIdentifier c = true ↔ c.isDigit = false :=
  of_isNameChar (P := fun c => Text.startsIdentifier c = true ↔ c.isDigit = false) (by decide +kernel) h

private theorem continuesIdentifier_of_isNameChar {c : Char} (h : Text.isNameChar c = true) :
    Text.continuesIdentifier c = true := by
  rw [Text.continuesIdentifier, if_pos (toNat_lt_of_isNameChar h), h]

/-- A word is an identifier unless a digit comes first. -/
theorem IsWord.isIdentifier_iff {name : String} (h : IsWord name) :
    Text.isIdentifier name.toList = true ↔ opensWith Char.isDigit name = false := by
  obtain ⟨hne, hname⟩ := h
  obtain ⟨c, cs, hcs⟩ := List.exists_cons_of_ne_nil (mt String.toList_eq_nil_iff.1 hne)
  rw [hcs] at hname
  obtain ⟨hc, hrest⟩ := List.forall_mem_cons.1 hname
  have hall : cs.all Text.continuesIdentifier = true :=
    List.all_eq_true.2 fun x hx => continuesIdentifier_of_isNameChar (hrest x hx)
  rw [hcs, Text.isIdentifier, hall, Bool.and_true, startsIdentifier_iff hc, opensWith, hcs]
  rfl

/-- The identifier of a word is a word. -/
theorem IsWord.safeIdentifier {name : String} (h : IsWord name) : IsWord (safeIdentifier name) := by
  rw [safeIdentifier_eq]
  split
  · refine ⟨fun he => by simpa using congrArg String.toList he, fun c hc => ?_⟩
    rw [String.toList_append, stem, String.toList_ofList] at hc
    rcases List.mem_append.1 hc with hc | hc
    · exact h.2 c ((List.dropWhile_sublist _).subset hc)
    · rw [List.mem_singleton.1 hc]
      decide
  · exact h

/-! ### Snake case of words -/

/-- Snake case of a word: the low lines of the rule, and small letters. -/
theorem IsWord.exists_snakeCase {name : String} (h : IsWord name) : ∃ a cs, name.toList = a :: cs ∧
    (snakeCase name).toList = (a :: markAfter a cs).map Char.toLower ∧
      ∀ c ∈ a :: markAfter a cs, Text.isNameChar c = true := by
  obtain ⟨hne, hname⟩ := h
  obtain ⟨a, cs, hcs⟩ := List.exists_cons_of_ne_nil (mt String.toList_eq_nil_iff.1 hne)
  rw [hcs] at hname
  have hmarked : ∀ c ∈ a :: markAfter a cs, Text.isNameChar c = true := by
    intro c hc
    rcases List.mem_cons.1 hc with rfl | hc
    · exact hname c List.mem_cons_self
    · rcases mem_markAfter hc with rfl | hc
      · decide
      · exact hname c (List.mem_cons_of_mem a hc)
  refine ⟨a, cs, hcs, ?_, hmarked⟩
  rw [snakeCase, String.toList_ofList, hcs, snakeChars, markCapitals_markWords,
    lower_of_ascii fun c hc => toNat_lt_of_isNameChar (hmarked c hc)]

private theorem isNameChar_toLower {c : Char} (h : Text.isNameChar c = true) : Text.isNameChar c.toLower = true :=
  of_isNameChar (P := fun c => Text.isNameChar c.toLower = true) (by decide +kernel) h

/-- Snake case of a word is a word. -/
theorem IsWord.snakeCase {name : String} (h : IsWord name) : IsWord (snakeCase name) := by
  obtain ⟨a, cs, -, hsnake, hmarked⟩ := h.exists_snakeCase
  refine ⟨fun he => ?_, ?_⟩
  · rw [he] at hsnake
    cases hsnake
  · rw [hsnake]
    intro c hc
    obtain ⟨x, hx, rfl⟩ := List.mem_map.1 hc
    exact isNameChar_toLower (hmarked x hx)

/-- Marks go nowhere but behind low lines and in front of a character that stays, so the first one behind the low lines
at the start is the same. -/
private theorem head?_dropWhile_markAfter (a : Char) (cs : List Char) :
    ((markAfter a cs).dropWhile (· == '_')).head? = (cs.dropWhile (· == '_')).head? := by
  induction cs generalizing a with
  | nil => rfl
  | cons b cs ih =>
    rw [markAfter_cons]
    by_cases hb : b = '_'
    · subst hb
      have hstarts : startsWord a '_' cs = false := by simp [startsWord, show ('_' : Char).isUpper = false by decide]
      simpa [hstarts] using ih '_'
    · split <;> simp [hb]

private theorem toLower_beq_low_line (c : Char) : (c.toLower == '_') = (c == '_') := by
  unfold Char.toLower
  split
  · next h =>
    rw [Bool.eq_iff_iff, beq_iff_eq, beq_iff_eq, ← Char.val_inj, ← Char.val_inj, ← UInt32.toNat_inj, ← UInt32.toNat_inj]
    simp [UInt32.le_iff_toNat_le] at h ⊢
    omega
  · rfl

/-- The stem of the snake case starts like the stem, in lower case. -/
theorem IsWord.head?_stem_snakeCase {name : String} (h : IsWord name) :
    (stem (Naming.snakeCase name)).toList.head? = (stem name).toList.head?.map Char.toLower := by
  obtain ⟨a, cs, hcs, hsnake, -⟩ := h.exists_snakeCase
  have hlow : (fun c : Char => c == '_') ∘ Char.toLower = fun c => c == '_' := funext toLower_beq_low_line
  rw [stem, stem, String.toList_ofList, String.toList_ofList, hsnake, hcs, List.dropWhile_map, List.head?_map, hlow]
  by_cases ha : a = '_'
  · subst ha
    simp [head?_dropWhile_markAfter]
  · simp [ha]

/-! ### What stands behind the low lines -/

/-- An identifier starts like the stem, or with a low line if the stem is empty. -/
theorem head?_safeIdentifier {name : String} (h : name ≠ "") :
    (safeIdentifier name).toList.head? = some ((stem name).toList.head?.getD '_') := by
  cases hescaped : isEscaped name with
  | true =>
    rw [safeIdentifier_of_isEscaped hescaped, String.toList_append]
    cases (stem name).toList <;> rfl
  | false =>
    have hlow : name.toList.head? ≠ some '_' := by
      simpa using (Bool.or_eq_false_iff.1 hescaped).1
    obtain ⟨c, cs, hcs⟩ := List.exists_cons_of_ne_nil (mt String.toList_eq_nil_iff.1 h)
    rw [safeIdentifier_of_not_isEscaped hescaped, stem_of_head_ne hlow, hcs]
    rfl

theorem not_isKeyword_safeIdentifier (name : String) : isKeyword (safeIdentifier name) = false := by
  cases h : isEscaped name with
  | true => rw [safeIdentifier_of_isEscaped h, not_isKeyword_append]
  | false =>
    rw [safeIdentifier_of_not_isEscaped h]
    exact (Bool.or_eq_false_iff.1 h).2

private theorem head?_toList_eq_none_iff {text : String} : text.toList.head? = none ↔ text = "" := by
  rw [List.head?_eq_none_iff, String.toList_eq_nil_iff]

/-- The first character of the stem of a word is a letter or a digit. -/
private theorem IsWord.head?_stem {name : String} (h : IsWord name) {c : Char}
    (hc : (stem name).toList.head? = some c) :
    Text.isNameChar c = true ∧ (c == '_') = false := by
  refine ⟨h.2 c ?_, ?_⟩
  · rw [stem, String.toList_ofList] at hc
    exact (List.dropWhile_sublist _).subset (List.mem_of_mem_head? hc)
  · rw [beq_eq_false_iff_ne]
    rintro rfl
    exact head_stem_ne name hc

private theorem IsWord.opensWith_isAlpha_stem_iff {name : String} (h : IsWord name) :
    opensWith Char.isAlpha (stem name) = true ↔ opensWith Char.isDigit (stem name) = false ∧ stem name ≠ "" := by
  rw [ne_eq, ← head?_toList_eq_none_iff, opensWith, opensWith]
  cases hc : (stem name).toList.head? with
  | none => simp
  | some c => simpa [(h.head?_stem hc).2] using isAlpha_iff (h.head?_stem hc).1

/-- The identifier of a word is usable exactly if its stem starts with a letter. -/
private theorem IsWord.usable_safeIdentifier_iff {name : String} (h : IsWord name) :
    (Text.isIdentifier (Naming.safeIdentifier name).toList = true ↔ opensWith Char.isDigit (stem name) = false) ∧
      (opensWith (· == '_') (Naming.safeIdentifier name) = true ↔ stem name = "") ∧
      (IsUsable (Naming.safeIdentifier name) ↔ opensWith Char.isAlpha (stem name) = true) := by
  have hidentifier : Text.isIdentifier (Naming.safeIdentifier name).toList = true ↔
      opensWith Char.isDigit (stem name) = false := by
    rw [h.safeIdentifier.isIdentifier_iff, opensWith, opensWith, head?_safeIdentifier h.1]
    cases (stem name).toList.head? with
    | none => decide
    | some c => rfl
  have hlow : opensWith (· == '_') (Naming.safeIdentifier name) = true ↔ stem name = "" := by
    rw [opensWith, head?_safeIdentifier h.1, ← head?_toList_eq_none_iff]
    cases hc : (stem name).toList.head? with
    | none => decide
    | some c => simpa using (h.head?_stem hc).2
  refine ⟨hidentifier, hlow, ?_⟩
  rw [isUsable_iff, hidentifier, h.opensWith_isAlpha_stem_iff, ← Bool.not_eq_true (opensWith (· == '_') _), hlow]
  simp [not_isKeyword_safeIdentifier]

/-- Small letters are of the same kind, so the stem of the snake case starts with a character of the same kind. -/
private theorem IsWord.opensWith_stem_snakeCase {name : String} (h : IsWord name) {kind : Char → Bool}
    (hkind : ∀ c, Text.isNameChar c = true → kind c.toLower = kind c) :
    opensWith kind (stem (Naming.snakeCase name)) = opensWith kind (stem name) := by
  rw [opensWith, opensWith, h.head?_stem_snakeCase]
  cases hc : (stem name).toList.head? with
  | none => rfl
  | some c => simpa using hkind c (h.head?_stem hc).1

private theorem IsWord.stem_snakeCase_eq_empty_iff {name : String} (h : IsWord name) :
    stem (Naming.snakeCase name) = "" ↔ stem name = "" := by
  rw [← head?_toList_eq_none_iff, h.head?_stem_snakeCase, Option.map_eq_none_iff, head?_toList_eq_none_iff]

/-- The identifier and the method name of a word are never reserved. Each of them is an identifier unless a digit
follows the low lines at the start of the word, and is public unless nothing follows them; so it is usable exactly if a
letter does. -/
theorem usable_iff {name : String} (h : IsWord name) : ∀ f ∈ [safeIdentifier, methodName],
    isKeyword (f name) = false ∧
      (Text.isIdentifier (f name).toList = true ↔ opensWith Char.isDigit (stem name) = false) ∧
      (opensWith (· == '_') (f name) = true ↔ stem name = "") ∧
      (IsUsable (f name) ↔ opensWith Char.isAlpha (stem name) = true) := by
  intro f hf
  rcases List.mem_pair.1 hf with rfl | rfl
  · exact ⟨not_isKeyword_safeIdentifier name, h.usable_safeIdentifier_iff⟩
  · have hdigit : ∀ c, Text.isNameChar c = true → c.toLower.isDigit = c.isDigit := fun c hc =>
      of_isNameChar (P := fun c => c.toLower.isDigit = c.isDigit) (by decide +kernel) hc
    have halpha : ∀ c, Text.isNameChar c = true → c.toLower.isAlpha = c.isAlpha := fun c hc =>
      of_isNameChar (P := fun c => c.toLower.isAlpha = c.isAlpha) (by decide +kernel) hc
    have husable := h.snakeCase.usable_safeIdentifier_iff
    rw [h.opensWith_stem_snakeCase hdigit, h.opensWith_stem_snakeCase halpha, h.stem_snakeCase_eq_empty_iff] at husable
    exact ⟨not_isKeyword_safeIdentifier _, husable⟩

/-- A name with low lines and capitals that becomes usable: the low lines move, and the word that is reserved in small
letters gets another one. -/
theorem usable_class : IsWord "__Class" ∧ (∀ f ∈ [safeIdentifier, methodName], IsUsable (f "__Class")) ∧
    safeIdentifier "__Class" = "Class_" ∧ methodName "__Class" = "class_" := by
  have hword : IsWord "__Class" := by decide +kernel
  have hletter : opensWith Char.isAlpha (stem "__Class") = true := by decide +kernel
  exact ⟨hword, fun f hf => (usable_iff hword f hf).2.2.2.2 hletter, by decide +kernel, by decide +kernel⟩

/-- A digit behind a low line, and low lines alone, are names that do not become usable. -/
theorem unusable_low_lines :
    (IsWord "_1" ∧ Text.isIdentifier "_1".toList = true ∧
      ∀ f ∈ [safeIdentifier, methodName], f "_1" = "1_" ∧ ¬ Text.isIdentifier (f "_1").toList = true) ∧
    (IsWord "__" ∧ Text.isIdentifier "__".toList = true ∧
      ∀ f ∈ [safeIdentifier, methodName], f "__" = "_" ∧ ¬ IsUsable (f "__")) := by
  decide +kernel

end SchemaBindings.Naming
