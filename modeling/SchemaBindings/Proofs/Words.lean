import Mathlib.Data.List.Chain
import Mathlib.Data.List.DropRight
import SchemaBindings.Proofs.TextLines

/-!
# Words of a text

The words of a text stand between its blanks. Trimming takes away just the blanks at the ends (`trim_eq_iff`), and
collapsing leaves one space of each run of blanks, so both keep the words. What they leave together is the words with
one space between them (`trim_collapse`).
-/

namespace SchemaBindings.Text

variable {cs core before after : List Char}

theorem isBlank_space : isBlank ' ' = true := by decide +kernel

theorem isBlank_fullStop : isBlank '.' = false := by decide +kernel

/-! ### Trimming -/

/-- No blank stands at either end. -/
structure IsTrimmed (cs : List Char) : Prop where
  first : ∀ c ∈ cs.head?, isBlank c = false
  last : ∀ c ∈ cs.getLast?, isBlank c = false

private theorem isBlank_of_mem_head?_dropWhile {c : Char} (h : c ∈ (cs.dropWhile isBlank).head?) :
    isBlank c = false := by
  have hhead := List.head?_dropWhile_not isBlank cs
  rw [Option.mem_def.1 h] at hhead
  exact hhead

theorem isTrimmed_trim (cs : List Char) : IsTrimmed (trim cs) where
  first c hc := by
    obtain ⟨rest, hrest⟩ : trim cs <+: trimStart cs := List.rdropWhile_prefix isBlank (trimStart cs)
    have hstart : (trimStart cs).head? = some c := by
      rw [← hrest, List.head?_append, Option.mem_def.1 hc, Option.some_or]
    exact isBlank_of_mem_head?_dropWhile hstart
  last c hc := by
    rw [trim, trimEnd, List.getLast?_reverse] at hc
    exact isBlank_of_mem_head?_dropWhile hc

theorem exists_trim (cs : List Char) : ∃ before after, (∀ c ∈ before, isBlank c = true) ∧
    (∀ c ∈ after, isBlank c = true) ∧ cs = before ++ trim cs ++ after := by
  refine ⟨cs.takeWhile isBlank, (trimStart cs).rtakeWhile isBlank, fun _ => List.mem_takeWhile_imp,
    fun _ => List.mem_rtakeWhile_imp, ?_⟩
  have hend : trim cs ++ (trimStart cs).rtakeWhile isBlank = trimStart cs := List.rdropWhile_append_rtakeWhile
  rw [List.append_assoc, hend]
  exact List.takeWhile_append_dropWhile.symm

theorem length_trim_le (cs : List Char) : (trim cs).length ≤ cs.length := by
  obtain ⟨before, after, -, -, hcs⟩ := exists_trim cs
  have hlength := congrArg List.length hcs
  simp only [List.length_append] at hlength
  omega

private theorem trimStart_eq (h : ∀ c ∈ cs.head?, isBlank c = false) : trimStart cs = cs := by
  cases cs with
  | nil => rfl
  | cons c cs => exact List.dropWhile_cons_of_neg (by simp [h c rfl])

private theorem trimEnd_eq (h : ∀ c ∈ cs.getLast?, isBlank c = false) : trimEnd cs = cs := by
  obtain rfl | ⟨init, c, rfl⟩ := List.eq_nil_or_concat' cs
  · rfl
  · exact List.rdropWhile_concat_neg isBlank init c (by simp [h c List.getLast?_concat])

private theorem trimEnd_append (cs : List Char) (h : ∀ c ∈ after, isBlank c = true) :
    trimEnd (cs ++ after) = trimEnd cs := by
  rw [trimEnd, List.reverse_append, List.dropWhile_append_of_pos (by simpa using h)]
  rfl

theorem IsTrimmed.trim_eq (h : IsTrimmed cs) : trim cs = cs := by
  rw [trim, trimStart_eq h.first, trimEnd_eq h.last]

/-- Trimming takes the blanks from both ends, and nothing else. -/
theorem trim_eq_iff : trim cs = core ↔ IsTrimmed core ∧ ∃ before after, (∀ c ∈ before, isBlank c = true) ∧
    (∀ c ∈ after, isBlank c = true) ∧ cs = before ++ core ++ after := by
  constructor
  · rintro rfl
    exact ⟨isTrimmed_trim cs, exists_trim cs⟩
  · rintro ⟨hcore, before, after, hbefore, hafter, rfl⟩
    have hstart : trimStart (before ++ core ++ after) = trimStart (core ++ after) := by
      rw [List.append_assoc]
      exact List.dropWhile_append_of_pos hbefore
    rw [trim, hstart]
    cases core with
    | nil =>
      have hnil : trimStart after = [] := List.dropWhile_eq_nil_iff.2 hafter
      rw [List.nil_append, hnil]
      rfl
    | cons c core =>
      have hfirst : trimStart (c :: core ++ after) = c :: core ++ after := trimStart_eq hcore.first
      rw [hfirst, trimEnd_append _ hafter, trimEnd_eq hcore.last]

/-! ### Words -/

/-- The texts between blanks. -/
def words (cs : List Char) : List (List Char) := (cs.splitOnP isBlank).filter (!·.isEmpty)

theorem words_append_cons {b : Char} (hb : isBlank b = true) (before after : List Char) :
    words (before ++ b :: after) = words before ++ words after := by
  rw [words, List.splitOnP_append_cons before after hb, List.filter_append]
  rfl

theorem words_of_forall {word : List Char} (h : ∀ c ∈ word, isBlank c = false) (hne : word ≠ []) :
    words word = [word] := by
  rw [words, List.splitOnP_eq_singleton h, List.filter_cons_of_pos (by simpa using hne), List.filter_nil]

theorem words_blanks_append (h : ∀ c ∈ before, isBlank c = true) (cs : List Char) :
    words (before ++ cs) = words cs := by
  induction before with
  | nil => rfl
  | cons b before ih =>
    obtain ⟨hb, hbefore⟩ := List.forall_mem_cons.1 h
    exact (words_append_cons hb [] (before ++ cs)).trans (ih hbefore)

theorem words_of_blanks (h : ∀ c ∈ cs, isBlank c = true) : words cs = [] := by
  have hnil := words_blanks_append h []
  rwa [List.append_nil] at hnil

theorem words_append_blanks (cs : List Char) (h : ∀ c ∈ after, isBlank c = true) :
    words (cs ++ after) = words cs := by
  cases after with
  | nil => rw [List.append_nil]
  | cons b after =>
    obtain ⟨hb, hafter⟩ := List.forall_mem_cons.1 h
    rw [words_append_cons hb, words_of_blanks hafter, List.append_nil]

theorem words_trim (cs : List Char) : words (trim cs) = words cs := by
  obtain ⟨before, after, hbefore, hafter, hcs⟩ := exists_trim cs
  calc
    words (trim cs) = words (before ++ trim cs) := (words_blanks_append hbefore _).symm
    _ = words (before ++ trim cs ++ after) := (words_append_blanks _ hafter).symm
    _ = words cs := by rw [← hcs]

/-- A run that goes on is skipped; otherwise a word may have begun before. -/
private theorem words_collapseFrom (cs : List Char) :
    (∀ before, words (before ++ collapseFrom false cs) = words (before ++ cs)) ∧
      words (collapseFrom true cs) = words cs := by
  induction cs with
  | nil => exact ⟨fun _ => rfl, rfl⟩
  | cons c cs ih =>
    obtain ⟨ihword, ihrun⟩ := ih
    by_cases hc : isBlank c = true
    · have hrun : words (collapseFrom true (c :: cs)) = words (c :: cs) := by
        rw [collapseFrom, if_pos hc, if_pos rfl, ihrun]
        exact (words_append_cons hc [] cs).symm
      refine ⟨fun before => ?_, hrun⟩
      rw [collapseFrom, if_pos hc, if_neg Bool.false_ne_true, words_append_cons isBlank_space, ihrun,
        words_append_cons hc]
    · have hword (inRun : Bool) (before : List Char) :
          words (before ++ collapseFrom inRun (c :: cs)) = words (before ++ c :: cs) := by
        have hnext := ihword (before ++ [c])
        rw [List.append_assoc, List.append_assoc] at hnext
        rw [collapseFrom, if_neg hc]
        exact hnext
      exact ⟨hword false, hword true []⟩

theorem words_collapse (cs : List Char) : words (collapse cs) = words cs := (words_collapseFrom cs).1 []

/-! ### Spaced texts -/

/-- The only blanks are spaces, and no two of them are next to each other. -/
structure IsSpaced (cs : List Char) : Prop where
  space : ∀ c ∈ cs, isBlank c = true → c = ' '
  apart : cs.IsChain fun c d => isBlank c = false ∨ isBlank d = false

/-- The only blanks are single spaces between other characters. -/
structure IsSingleSpaced (cs : List Char) : Prop extends IsSpaced cs, IsTrimmed cs

theorem IsSpaced.of_isInfix {part : List Char} (h : IsSpaced cs) (hpart : part <:+: cs) : IsSpaced part where
  space c hc := h.space c (hpart.subset hc)
  apart := h.apart.infix hpart

private theorem isChain_collapseFrom (inRun : Bool) (cs : List Char) :
    (collapseFrom inRun cs).IsChain (fun c d => isBlank c = false ∨ isBlank d = false) ∧
      (inRun = true → ∀ c ∈ (collapseFrom inRun cs).head?, isBlank c = false) := by
  induction cs generalizing inRun with
  | nil => exact ⟨.nil, fun _ _ hc => absurd hc (Option.not_mem_none _)⟩
  | cons c cs ih =>
    by_cases hc : isBlank c = true
    · rw [collapseFrom, if_pos hc]
      cases inRun with
      | true => exact ih true
      | false =>
        refine ⟨List.isChain_cons.2 ⟨fun d hd => .inr ?_, (ih true).1⟩, fun h => absurd h Bool.false_ne_true⟩
        exact (ih true).2 rfl d hd
    · rw [collapseFrom, if_neg hc]
      have hc : isBlank c = false := by simpa using hc
      exact ⟨List.isChain_cons.2 ⟨fun _ _ => .inl hc, (ih false).1⟩, fun _ d hd => Option.some.inj hd ▸ hc⟩

theorem isSpaced_collapse (cs : List Char) : IsSpaced (collapse cs) where
  space c hc hblank := (isBlank_of_mem_collapseFrom hc).resolve_left (by simp [hblank])
  apart := (isChain_collapseFrom false cs).1

private theorem IsSpaced.collapseFrom_eq (h : IsSpaced cs) (inRun : Bool)
    (hrun : inRun = true → ∀ c ∈ cs.head?, isBlank c = false) : collapseFrom inRun cs = cs := by
  induction cs generalizing inRun with
  | nil => rfl
  | cons c cs ih =>
    obtain ⟨hnext, hchain⟩ := List.isChain_cons.1 h.apart
    have hrest : IsSpaced cs := ⟨fun d hd => h.space d (List.mem_cons_of_mem _ hd), hchain⟩
    by_cases hc : isBlank c = true
    · have hfirst : ¬ inRun = true := fun htrue => by simp [hrun htrue c rfl] at hc
      have hbehind := ih hrest true fun _ d hd => (hnext d hd).resolve_left (by simp [hc])
      rw [collapseFrom, if_pos hc, if_neg hfirst, hbehind, h.space c List.mem_cons_self hc]
    · have hbehind := ih hrest false nofun
      rw [collapseFrom, if_neg hc, hbehind]

theorem IsSpaced.collapse_eq (h : IsSpaced cs) : collapse cs = cs := h.collapseFrom_eq false nofun

/-- Only words and the spaces between them are left. -/
theorem IsSingleSpaced.eq_intercalate (h : IsSingleSpaced cs) : cs = [' '].intercalate (words cs) := by
  induction hn : cs.length using Nat.strong_induction_on generalizing cs with
  | _ n ih =>
    have hsplit : cs.takeWhile (!isBlank ·) ++ cs.dropWhile (!isBlank ·) = cs := List.takeWhile_append_dropWhile
    have hword : ∀ c ∈ cs.takeWhile (!isBlank ·), isBlank c = false := fun c hc => by
      simpa using List.mem_takeWhile_imp hc
    have hhead := List.head?_dropWhile_not (!isBlank ·) cs
    generalize cs.takeWhile (!isBlank ·) = word at hsplit hword
    generalize cs.dropWhile (!isBlank ·) = rest at hsplit hhead
    cases rest with
    | nil =>
      rw [List.append_nil] at hsplit
      subst hsplit
      by_cases hne : word = []
      · rw [hne]
        rfl
      · rw [words_of_forall hword hne, List.intercalate_singleton]
    | cons b rest =>
      have hb : isBlank b = true := by simpa using hhead
      subst hsplit
      have hspace : b = ' ' := h.space b (by simp) hb
      -- a blank at either end is ruled out, so there is a word on both sides of this one
      have hne : word ≠ [] := by
        rintro rfl
        simpa [hb] using h.first b
      have hrest : rest ≠ [] := by
        rintro rfl
        simpa [hb] using h.last b
      have hlast : (word ++ b :: rest).getLast? = rest.getLast? := by
        rw [List.getLast?_append_cons, List.getLast?_cons_of_ne_nil hrest]
      have hsingle : IsSingleSpaced rest :=
        { h.of_isInfix ⟨word ++ [b], [], by simp⟩ with
          first := fun c hc =>
            ((List.isChain_cons.1 (List.isChain_append.1 h.apart).2.1).1 c hc).resolve_left (by simp [hb])
          last := fun c hc => h.last c (hlast ▸ hc) }
      have heq := ih rest.length (by simp [← hn]; omega) hsingle rfl
      have hwords : words rest ≠ [] := by
        intro hnil
        rw [hnil] at heq
        exact hrest heq
      rw [words_append_cons hb, words_of_forall hword hne, List.singleton_append,
        List.intercalate_cons_of_ne_nil hwords, ← heq, hspace, List.append_assoc, List.singleton_append]

/-! ### Spaced words -/

/-- The words with one space between them. -/
def spacedWords (cs : List Char) : List Char := [' '].intercalate (words cs)

theorem isSingleSpaced_trim_collapse (cs : List Char) : IsSingleSpaced (trim (collapse cs)) := by
  obtain ⟨before, after, -, -, hcs⟩ := exists_trim (collapse cs)
  exact { (isSpaced_collapse cs).of_isInfix ⟨before, after, hcs.symm⟩, isTrimmed_trim (collapse cs) with }

theorem trim_collapse (cs : List Char) : trim (collapse cs) = spacedWords cs := by
  rw [(isSingleSpaced_trim_collapse cs).eq_intercalate, words_trim, words_collapse]
  rfl

theorem isSingleSpaced_spacedWords (cs : List Char) : IsSingleSpaced (spacedWords cs) :=
  trim_collapse cs ▸ isSingleSpaced_trim_collapse cs

theorem words_spacedWords (cs : List Char) : words (spacedWords cs) = words cs := by
  rw [← trim_collapse, words_trim, words_collapse]

end SchemaBindings.Text
