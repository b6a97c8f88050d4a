import SchemaBindings.CustomTypes
import SchemaBindings.Proofs.Failure
import SchemaBindings.Proofs.TableLaws
import SchemaBindings.Proofs.Words

/-!
# Reading custom types

A text is read as a name and a target exactly if it is written as the two with an equals sign between them
(`customType?_eq_ok_iff`); any other text lacks the sign, the name or the target (`customType?_eq_error_iff`). So texts
that write pairs are read back as the table of the pairs, and otherwise the first text that is no custom type is told
(`customTypes_texts`).
-/

namespace SchemaBindings

namespace Text

variable {cs before after : List Char} {separator : Char}

theorem cutFirst?_eq_none_iff : cutFirst? separator cs = none ↔ separator ∉ cs := by
  induction cs with
  | nil => simp [cutFirst?]
  | cons c cs ih =>
    by_cases hc : c = separator
    · simp [cutFirst?, hc]
    · simp [cutFirst?, hc, ih, Ne.symm hc]

theorem cutFirst?_eq_some_iff : cutFirst? separator cs = some (before, after) ↔
    cs = before ++ separator :: after ∧ separator ∉ before := by
  induction cs generalizing before with
  | nil => simp [cutFirst?]
  | cons c cs ih =>
    by_cases hc : c = separator
    · subst hc
      rw [cutFirst?, if_pos (beq_self_eq_true c), Option.some.injEq, Prod.mk.injEq]
      constructor
      · rintro ⟨rfl, rfl⟩
        exact ⟨rfl, List.not_mem_nil⟩
      · rintro ⟨hcs, hbefore⟩
        cases before with
        | nil => exact ⟨rfl, (List.cons.inj hcs).2⟩
        | cons b before => exact absurd ((List.cons.inj hcs).1 ▸ List.mem_cons_self) hbefore
    · rw [cutFirst?, if_neg (by simpa using hc), Option.map_eq_some_iff]
      constructor
      · rintro ⟨⟨before', after'⟩, hcut, hpair⟩
        cases hpair
        obtain ⟨rfl, hbefore⟩ := ih.1 hcut
        exact ⟨rfl, by simp [hbefore, Ne.symm hc]⟩
      · rintro ⟨hcs, hbefore⟩
        cases before with
        | nil => exact absurd (List.cons.inj hcs).1 hc
        | cons b before =>
          obtain ⟨rfl, htail⟩ := List.cons.inj hcs
          exact ⟨(before, after), ih.2 ⟨htail, fun h => hbefore (List.mem_cons_of_mem _ h)⟩, rfl⟩

theorem trim_eq_nil_iff : trim cs = [] ↔ ∀ c ∈ cs, isBlank c = true := by
  rw [trim_eq_iff]
  constructor
  · rintro ⟨-, before, after, hbefore, hafter, rfl⟩ c hc
    rw [List.append_nil] at hc
    exact (List.mem_append.1 hc).elim (hbefore c) (hafter c)
  · intro h
    exact ⟨⟨nofun, nofun⟩, cs, [], h, nofun, by simp⟩

end Text

open Text

/-! ### One text -/

/-- A name and a target that can be written: neither is empty or has blanks at its ends, and no sign is in the name. -/
structure IsCustomType (pair : String × String) : Prop where
  name_ne : pair.1.toList ≠ []
  name_trimmed : IsTrimmed pair.1.toList
  name_noSign : '=' ∉ pair.1.toList
  target_ne : pair.2.toList ≠ []
  target_trimmed : IsTrimmed pair.2.toList

/-- The text is the name, an equals sign and the target, with any blanks around the two. -/
def Writes (text : String) (pair : String × String) : Prop :=
  ∃ b₁ b₂ b₃ b₄ : List Char, (∀ b ∈ [b₁, b₂, b₃, b₄], ∀ c ∈ b, isBlank c = true) ∧
    text.toList = (b₁ ++ pair.1.toList ++ b₂) ++ '=' :: (b₃ ++ pair.2.toList ++ b₄)

/-- The text has no equals sign, or only blanks before its first one, or only blanks after it. -/
inductive IsMalformed (text : String) : Prop
  | noSign (h : '=' ∉ text.toList)
  | noName {before after : List Char} (h : text.toList = before ++ '=' :: after) (hfirst : '=' ∉ before)
    (hblank : ∀ c ∈ before, isBlank c = true)
  | noTarget {before after : List Char} (h : text.toList = before ++ '=' :: after) (hfirst : '=' ∉ before)
    (hblank : ∀ c ∈ after, isBlank c = true)

variable {text : String} {pair : String × String}

private theorem customType?_of_cutFirst? {before after : List Char}
    (h : cutFirst? '=' text.toList = some (before, after)) : customType? text =
      if trim before = [] ∨ trim after = [] then .error ⟨text⟩
      else .ok (String.ofList (trim before), String.ofList (trim after)) := by
  rw [customType?, h]
  simp only [Bool.or_eq_true, List.isEmpty_iff]

private theorem customType?_eq_ok_iff_exists_cut : customType? text = .ok pair ↔ ∃ before after,
    cutFirst? '=' text.toList = some (before, after) ∧ trim before ≠ [] ∧ trim after ≠ [] ∧
      (String.ofList (trim before), String.ofList (trim after)) = pair := by
  constructor
  · intro h
    cases hcut : cutFirst? '=' text.toList with
    | none =>
      rw [customType?, hcut] at h
      cases h
    | some cut =>
      obtain ⟨before, after⟩ := cut
      rw [customType?_of_cutFirst? hcut] at h
      split at h
      · cases h
      · next hne =>
        rw [not_or] at hne
        exact ⟨before, after, rfl, hne.1, hne.2, Except.ok.inj h⟩
  · rintro ⟨before, after, hcut, hname, htarget, rfl⟩
    rw [customType?_of_cutFirst? hcut, if_neg (not_or.2 ⟨hname, htarget⟩)]

theorem customType?_eq_ok_iff : customType? text = .ok pair ↔ IsCustomType pair ∧ Writes text pair := by
  rw [customType?_eq_ok_iff_exists_cut]
  constructor
  · rintro ⟨before, after, hcut, hname, htarget, rfl⟩
    obtain ⟨htext, hbefore⟩ := cutFirst?_eq_some_iff.1 hcut
    obtain ⟨b₁, b₂, hb₁, hb₂, hbeforeText⟩ := exists_trim before
    obtain ⟨b₃, b₄, hb₃, hb₄, hafterText⟩ := exists_trim after
    constructor
    · constructor <;> rw [String.toList_ofList]
      · exact hname
      · exact isTrimmed_trim before
      · exact fun hsign => hbefore (mem_of_mem_trim hsign)
      · exact htarget
      · exact isTrimmed_trim after
    · refine ⟨b₁, b₂, b₃, b₄, ?_, ?_⟩
      · simp only [List.forall_mem_cons]
        exact ⟨hb₁, hb₂, hb₃, hb₄, nofun⟩
      · rw [String.toList_ofList, String.toList_ofList, ← hbeforeText, ← hafterText, htext]
  · rintro ⟨hpair, b₁, b₂, b₃, b₄, hblank, htext⟩
    simp only [List.forall_mem_cons] at hblank
    obtain ⟨hb₁, hb₂, hb₃, hb₄, -⟩ := hblank
    -- the sign is no blank, so the first one stands behind the name
    have hnoSign {b : List Char} (hb : ∀ c ∈ b, isBlank c = true) : '=' ∉ b := fun h => absurd (hb _ h) (by decide)
    have hname := trim_eq_iff.2 ⟨hpair.name_trimmed, b₁, b₂, hb₁, hb₂, rfl⟩
    have htarget := trim_eq_iff.2 ⟨hpair.target_trimmed, b₃, b₄, hb₃, hb₄, rfl⟩
    refine ⟨_, _, cutFirst?_eq_some_iff.2 ⟨htext, ?_⟩, ?_, ?_, ?_⟩
    · simp [hnoSign hb₁, hnoSign hb₂, hpair.name_noSign]
    · rw [hname]
      exact hpair.name_ne
    · rw [htarget]
      exact hpair.target_ne
    · rw [hname, htarget, String.ofList_toList, String.ofList_toList]

theorem customType?_eq_error_iff {e : MalformedCustomType} :
    customType? text = .error e ↔ e = ⟨text⟩ ∧ IsMalformed text := by
  cases hcut : cutFirst? '=' text.toList with
  | none =>
    rw [customType?, hcut, and_iff_left (.noSign (cutFirst?_eq_none_iff.1 hcut)), Except.error.injEq, eq_comm]
  | some cut =>
    obtain ⟨before, after⟩ := cut
    obtain ⟨htext, hbefore⟩ := cutFirst?_eq_some_iff.1 hcut
    have hmalformed : IsMalformed text ↔ trim before = [] ∨ trim after = [] := by
      rw [trim_eq_nil_iff, trim_eq_nil_iff]
      constructor
      · have hsame {before' after' : List Char} (h : text.toList = before' ++ '=' :: after') (hfirst : '=' ∉ before') :
            before = before' ∧ after = after' :=
          Prod.mk.inj (Option.some.inj (hcut.symm.trans (cutFirst?_eq_some_iff.2 ⟨h, hfirst⟩)))
        rintro (h | ⟨h, hfirst, hblank⟩ | ⟨h, hfirst, hblank⟩)
        · exact absurd (htext ▸ List.mem_append_right before List.mem_cons_self) h
        · exact .inl ((hsame h hfirst).1 ▸ hblank)
        · exact .inr ((hsame h hfirst).2 ▸ hblank)
      · rintro (h | h)
        · exact .noName htext hbefore h
        · exact .noTarget htext hbefore h
    rw [customType?_of_cutFirst? hcut, hmalformed]
    split
    · next h => rw [and_iff_left h, Except.error.injEq, eq_comm]
    · next h => exact iff_of_false nofun fun herror => h herror.2

/-! ### All texts -/

/-- Each name stands where it came first, with the target that came last. -/
structure Tabulates (pairs : List (String × String)) (table : Table String String) : Prop where
  keys_eq : table.keys = (pairs.map Prod.fst).eraseDups
  find?_eq : ∀ name, table.find? name = pairs.reverse.lookup name

theorem tabulates_ofList (pairs : List (String × String)) : Tabulates pairs (Table.ofList pairs) where
  keys_eq := by
    have hempty : (Table.empty : Table String String).keys = ([] : List String).eraseDups := rfl
    exact Table.keys_foldl (fun t pair => Table.keys_put t pair.1 pair.2) pairs hempty
  find?_eq := Table.find?_ofList pairs

theorem customTypes_eq_ok_iff {texts : List String} {table : Table String String} : customTypes texts = .ok table ↔
    ∃ pairs, List.Forall₂ (fun text pair => IsCustomType pair ∧ Writes text pair) texts pairs ∧
      Table.ofList pairs = table := by
  have hread : (fun text pair => customType? text = .ok pair) = fun text pair => IsCustomType pair ∧ Writes text pair :=
    funext₂ fun _ _ => propext customType?_eq_ok_iff
  rw [customTypes, bind_pure_eq_ok_iff, ← hread]
  exact exists_congr fun pairs => and_congr_left fun _ => mapM_eq_ok_iff

theorem customTypes_eq_error_iff {texts : List String} {e : MalformedCustomType} : customTypes texts = .error e ↔
    ∃ before after, texts = before ++ e.text :: after ∧ (∀ text ∈ before, ¬ IsMalformed text) ∧
      IsMalformed e.text := by
  have hfine {text : String} : (∃ pair, customType? text = .ok pair) ↔ ¬ IsMalformed text := by
    cases h : customType? text with
    | ok pair =>
      refine iff_of_true ⟨pair, rfl⟩ fun hmalformed => ?_
      rw [customType?_eq_error_iff.2 ⟨rfl, hmalformed⟩] at h
      cases h
    | error e => exact iff_of_false nofun fun hfine => hfine (customType?_eq_error_iff.1 h).2
  rw [← failure?_eq_some_iff, customTypes, failure?_bind_pure, failure?_eq_some_iff, mapM_eq_error_iff]
  constructor
  · rintro ⟨before, text, after, htexts, hbefore, herror⟩
    obtain ⟨rfl, hmalformed⟩ := customType?_eq_error_iff.1 herror
    exact ⟨before, after, htexts, fun text htext => hfine.1 (hbefore text htext), hmalformed⟩
  · rintro ⟨before, after, htexts, hbefore, hmalformed⟩
    exact ⟨before, e.text, after, htexts, fun text htext => hfine.2 (hbefore text htext),
      customType?_eq_error_iff.2 ⟨rfl, hmalformed⟩⟩

/-- Texts give no table exactly if one of them is no custom type, and then the first such text is quoted. A table that
they give is the one of pairs that they write; and whatever pairs they write, with any blanks around names and targets
and also with further signs in targets, they give the table of these pairs. -/
theorem customTypes_texts (texts : List String) :
    ((∃ e, customTypes texts = .error e) ↔ ∃ text ∈ texts, IsMalformed text) ∧
    (∀ e, customTypes texts = .error e → ∃ before after, texts = before ++ e.text :: after ∧
      (∀ text ∈ before, ¬ IsMalformed text) ∧ IsMalformed e.text ∧
      e.message = "Invalid value for --custom-type: expected NAME=TARGET, got " ++ Text.quoted e.text) ∧
    (∀ table, customTypes texts = .ok table → ∃ pairs,
      List.Forall₂ (fun text pair => IsCustomType pair ∧ Writes text pair) texts pairs ∧ Tabulates pairs table) ∧
    (∀ pairs, List.Forall₂ (fun text pair => IsCustomType pair ∧ Writes text pair) texts pairs →
      ∃ table, customTypes texts = .ok table ∧ Tabulates pairs table) := by
  refine ⟨⟨?_, ?_⟩, ?_, ?_, ?_⟩
  · rintro ⟨e, he⟩
    obtain ⟨before, after, rfl, -, hmalformed⟩ := customTypes_eq_error_iff.1 he
    exact ⟨e.text, by simp, hmalformed⟩
  · rintro ⟨text, htext, hmalformed⟩
    cases h : customTypes texts with
    | error e => exact ⟨e, rfl⟩
    | ok table =>
      obtain ⟨pairs, hpairs, -⟩ := customTypes_eq_ok_iff.1 h
      obtain ⟨pair, -, hpair⟩ := exists_right_of_forall₂ hpairs htext
      have herror := customType?_eq_error_iff.2 ⟨rfl, hmalformed⟩
      rw [customType?_eq_ok_iff.2 hpair] at herror
      cases herror
  · intro e he
    obtain ⟨before, after, htexts, hbefore, hmalformed⟩ := customTypes_eq_error_iff.1 he
    exact ⟨before, after, htexts, hbefore, hmalformed, rfl⟩
  · intro table htable
    obtain ⟨pairs, hpairs, rfl⟩ := customTypes_eq_ok_iff.1 htable
    exact ⟨pairs, hpairs, tabulates_ofList pairs⟩
  · intro pairs hpairs
    exact ⟨Table.ofList pairs, customTypes_eq_ok_iff.2 ⟨pairs, hpairs, rfl⟩, tabulates_ofList pairs⟩

/-- The first sign divides the text, the name keeps its place, and its last target counts. -/
example : (customTypes [" A = f(x=1)\t", "B=b", "A=dict[a=b]"]).map Table.entries =
    .ok [("A", "dict[a=b]"), ("B", "b")] := by decide +kernel

end SchemaBindings
