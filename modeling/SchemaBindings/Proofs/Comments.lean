import SchemaBindings.Proofs.Words

/-!
# Comments

Whatever a comment is made from, it fits its width, and its only blanks are single spaces between other characters
(`safeComment_fits`). A text that fits when its runs of blanks are collapsed keeps its words. The width is tested
before the ends are trimmed, so a space that is not written counts; this tells when blanks at the ends change a comment
(`safeComment_stripped_iff`).
-/

namespace SchemaBindings.Naming

open Text

variable {cs : List Char}

/-! ### Fitting the width -/

theorem length_shorten_le (cs : List Char) : (shorten cs).length ≤ commentWidth := by
  unfold shorten
  split
  · have hwidth : commentWidth = 120 := rfl
    rw [List.length_append, List.length_take]
    simp only [List.length_cons, List.length_nil]
    omega
  · next h => exact Nat.le_of_not_lt h

theorem shorten_of_le (h : cs.length ≤ commentWidth) : shorten cs = cs := if_neg (Nat.not_lt.2 h)

theorem shorten_of_lt (h : commentWidth < cs.length) : shorten cs = cs.take (commentWidth - 3) ++ ['.', '.', '.'] :=
  if_pos h

/-- A text may be cut behind any character: the dots are no blanks. -/
theorem isSpaced_shorten (h : IsSpaced cs) : IsSpaced (shorten cs) := by
  have hdots : ∀ c ∈ ['.', '.', '.'], isBlank c = false := by simp [isBlank_fullStop]
  rcases Nat.lt_or_ge commentWidth cs.length with hlt | hle
  · have htake := h.of_isInfix (List.take_prefix (commentWidth - 3) cs).isInfix
    rw [shorten_of_lt hlt]
    refine ⟨fun c hc hblank => ?_, List.isChain_append.2 ⟨htake.apart, by simp [isBlank_fullStop], fun _ _ d hd => ?_⟩⟩
    · rcases List.mem_append.1 hc with hc | hc
      · exact htake.space c hc hblank
      · simp [hdots c hc] at hblank
    · exact .inr (hdots d (List.mem_of_mem_head? hd))
  · rwa [shorten_of_le hle]

theorem isSingleSpaced_commentChars (cs : List Char) : IsSingleSpaced (commentChars cs) := by
  obtain ⟨before, after, -, -, hcs⟩ := exists_trim (shorten (collapse cs))
  exact { (isSpaced_shorten (isSpaced_collapse cs)).of_isInfix ⟨before, after, hcs.symm⟩, isTrimmed_trim _ with }

theorem length_commentChars_le (cs : List Char) : (commentChars cs).length ≤ commentWidth :=
  (length_trim_le _).trans (length_shorten_le _)

/-- What fits is written with one space between its words. -/
theorem commentChars_of_le (h : (collapse cs).length ≤ commentWidth) : commentChars cs = spacedWords cs := by
  rw [commentChars, shorten_of_le h, trim_collapse]

/-- A comment is a comment on itself. -/
theorem commentChars_commentChars (cs : List Char) : commentChars (commentChars cs) = commentChars cs := by
  have hsingle := isSingleSpaced_commentChars cs
  have hcollapse := hsingle.collapse_eq
  rw [commentChars_of_le (hcollapse.symm ▸ length_commentChars_le cs), spacedWords, ← hsingle.eq_intercalate]

/-- A comment fits its width, its only blanks are single spaces between other characters, and it is a comment on itself.
It has the words of a text that fits when its runs of blanks are collapsed. -/
theorem safeComment_fits (text : String) :
    (safeComment text).length ≤ 120 ∧ IsSingleSpaced (safeComment text).toList ∧
      safeComment (safeComment text) = safeComment text ∧
      ((collapse text.toList).length ≤ 120 → words (safeComment text).toList = words text.toList) := by
  simp only [safeComment, String.toList_ofList, String.length_ofList]
  refine ⟨length_commentChars_le _, isSingleSpaced_commentChars _, ?_, fun h => ?_⟩
  · rw [commentChars_commentChars]
  · rw [commentChars_of_le h, words_spacedWords]

/-- Words on two lines, with a wide space before them. -/
theorem safeComment_fits_two_lines : (collapse "\u3000two\r\n\tlines ".toList).length ≤ 120 ∧
    words (safeComment "\u3000two\r\n\tlines ").toList = ["two".toList, "lines".toList] := by
  have hle : (collapse "\u3000two\r\n\tlines ".toList).length ≤ 120 := by decide +kernel
  refine ⟨hle, ?_⟩
  rw [(safeComment_fits "\u3000two\r\n\tlines ").2.2.2 hle]
  decide +kernel

/-! ### Blanks at the ends -/

/-- The space that blanks at the start of a text leave. -/
def leadingSpace (cs : List Char) : List Char := if cs.head?.any isBlank then [' '] else []

theorem leadingSpace_of_isTrimmed (h : IsTrimmed cs) : leadingSpace cs = [] := by
  cases cs with
  | nil => rfl
  | cons c cs => simp [leadingSpace, h.first c rfl]

theorem leadingSpace_append (h : cs ≠ []) (after : List Char) : leadingSpace (cs ++ after) = leadingSpace cs := by
  rw [leadingSpace, List.head?_append_of_ne_nil cs h, leadingSpace]

theorem leadingSpace_collapse (cs : List Char) : leadingSpace (collapse cs) = leadingSpace cs := by
  cases cs with
  | nil => rfl
  | cons c cs =>
    by_cases hc : isBlank c = true <;> simp [leadingSpace, collapse, collapseFrom, hc, isBlank_space]

private theorem eq_nil_or_space {run : List Char} (h : IsSpaced run) (hblank : ∀ c ∈ run, isBlank c = true) :
    run = [] ∨ run = [' '] := by
  cases run with
  | nil => exact .inl rfl
  | cons b run =>
    cases run with
    | nil => exact .inr (congrArg (· :: []) (h.space b List.mem_cons_self (hblank b List.mem_cons_self)))
    | cons b' run =>
      have hapart := (List.isChain_cons.1 h.apart).1 b' rfl
      simp [hblank b (by simp), hblank b' (by simp)] at hapart

/-- At each end of its words, a collapsed text has at most one space. -/
theorem exists_collapse_eq (cs : List Char) : ∃ before after, before.length ≤ 1 ∧ after.length ≤ 1 ∧
    collapse cs = before ++ spacedWords cs ++ after ∧ (spacedWords cs ≠ [] → before = leadingSpace cs) := by
  obtain ⟨before, after, hbefore, hafter, hcs⟩ := exists_trim (collapse cs)
  rw [trim_collapse, List.append_assoc] at hcs
  have hspaced := isSpaced_collapse cs
  have hstart := eq_nil_or_space (hspaced.of_isInfix ⟨[], _, hcs.symm⟩) hbefore
  have hend := eq_nil_or_space (hspaced.of_isInfix ⟨before ++ spacedWords cs, [], by simp [hcs]⟩) hafter
  refine ⟨before, after, ?_, ?_, by rw [List.append_assoc, ← hcs], fun hne => ?_⟩
  · rcases hstart with rfl | rfl <;> simp
  · rcases hend with rfl | rfl <;> simp
  · rw [← leadingSpace_collapse, hcs]
    rcases hstart with rfl | rfl
    · exact (leadingSpace_of_isTrimmed (isSingleSpaced_spacedWords cs).toIsTrimmed).symm.trans
        (leadingSpace_append hne after).symm
    · rfl

/-- What does not fit is cut where its spaces say, that at its start included. -/
theorem commentChars_of_lt (h : commentWidth < (collapse cs).length) : commentChars cs =
    (spacedWords cs).take (commentWidth - 3 - (leadingSpace cs).length) ++ ['.', '.', '.'] := by
  have hwidth : commentWidth = 120 := rfl
  obtain ⟨before, after, hbefore, hafter, hcs, hlead⟩ := exists_collapse_eq cs
  have hlength := congrArg List.length hcs
  simp only [List.length_append] at hlength
  have hne : spacedWords cs ≠ [] := List.ne_nil_of_length_pos (by omega)
  obtain rfl := hlead hne
  have hspace : (leadingSpace cs).length ≤ commentWidth - 3 := by omega
  have hlong : commentWidth - 3 - (leadingSpace cs).length ≤ (spacedWords cs).length := by omega
  have hpos : commentWidth - 3 - (leadingSpace cs).length ≠ 0 := by omega
  have htake : (collapse cs).take (commentWidth - 3) =
      leadingSpace cs ++ (spacedWords cs).take (commentWidth - 3 - (leadingSpace cs).length) := by
    rw [hcs, List.append_assoc, List.take_append, List.take_of_length_le hspace,
      List.take_append_of_le_length hlong]
  rw [commentChars, shorten_of_lt h, htake, List.append_assoc]
  refine trim_eq_iff.2 ⟨⟨fun c hc => ?_, fun c hc => ?_⟩, leadingSpace cs, [], ?_, nofun, by simp⟩
  · obtain ⟨d, rest, hwords⟩ := List.exists_cons_of_ne_nil hne
    obtain ⟨k, hk⟩ := Nat.exists_eq_add_one_of_ne_zero hpos
    refine (isSingleSpaced_spacedWords cs).first c ?_
    rw [hwords] at hc ⊢
    rw [hk] at hc
    exact hc
  · rw [List.getLast?_append] at hc
    cases hc
    exact isBlank_fullStop
  · unfold leadingSpace
    split <;> simp [isBlank_space]

private theorem collapseFrom_concat {c : Char} (hc : isBlank c = false) (inRun : Bool) (init : List Char) :
    collapseFrom inRun (init ++ [c]) = collapseFrom inRun init ++ [c] := by
  induction init generalizing inRun with
  | nil => simp [collapseFrom, hc]
  | cons d init ih =>
    simp only [List.cons_append, collapseFrom, ih]
    split
    · split <;> rfl
    · rfl

theorem isTrimmed_collapse (h : IsTrimmed cs) : IsTrimmed (collapse cs) where
  first c hc := by
    have hlead := leadingSpace_collapse cs
    rw [leadingSpace_of_isTrimmed h, leadingSpace, Option.mem_def.1 hc] at hlead
    simpa using hlead
  last c hc := by
    obtain rfl | ⟨init, d, rfl⟩ := List.eq_nil_or_concat' cs
    · cases hc
    · have hd := h.last d List.getLast?_concat
      rw [collapse, collapseFrom_concat hd, List.getLast?_concat] at hc
      exact Option.some.inj hc ▸ hd

/-- Where blanks stand at no end, collapsing leaves the words with one space between them. -/
theorem collapse_of_isTrimmed (h : IsTrimmed cs) : collapse cs = spacedWords cs := by
  rw [← trim_collapse, (isTrimmed_collapse h).trim_eq]

theorem collapse_trim (cs : List Char) : collapse (trim cs) = spacedWords cs := by
  rw [collapse_of_isTrimmed (isTrimmed_trim cs), spacedWords, words_trim, spacedWords]

/-- Without the blanks at its ends, a text is cut only if its words do not fit. -/
theorem commentChars_trim (cs : List Char) : commentChars (trim cs) =
    if (spacedWords cs).length ≤ commentWidth then spacedWords cs
    else (spacedWords cs).take (commentWidth - 3) ++ ['.', '.', '.'] := by
  have hwords : spacedWords (trim cs) = spacedWords cs := by rw [spacedWords, words_trim, spacedWords]
  split
  · next h => rw [commentChars_of_le (by rwa [collapse_trim]), hwords]
  · next h =>
    rw [commentChars_of_lt (by rwa [collapse_trim, ← Nat.not_le]), hwords,
      leadingSpace_of_isTrimmed (isTrimmed_trim cs)]
    rfl

/-- The dots of a cut text can only be its own where it ends in them and they stand at the end of the width. -/
private theorem take_append_dots_eq_iff {written : List Char} {k : Nat} (hk : k ≤ written.length) :
    written.take k ++ ['.', '.', '.'] = written ↔ k + 3 = written.length ∧ ['.', '.', '.'] <:+ written := by
  constructor
  · intro h
    have hlength := congrArg List.length h
    simp only [List.length_append, List.length_take, List.length_cons, List.length_nil] at hlength
    exact ⟨by omega, _, h⟩
  · rintro ⟨hlength, init, rfl⟩
    have hinit : k = init.length := by simpa using hlength
    rw [hinit, List.take_left]

/-- Blanks at the ends do not matter just where the text fits with them, where it does not fit without them and none
stands at its start, or where the dots replace dots. -/
theorem commentChars_trim_iff (cs : List Char) : commentChars cs = commentChars (trim cs) ↔
    (collapse cs).length ≤ commentWidth ∨ leadingSpace cs = [] ∧ commentWidth < (spacedWords cs).length ∨
      (leadingSpace cs).length + (spacedWords cs).length = commentWidth ∧ ['.', '.', '.'] <:+ spacedWords cs := by
  have hwidth : commentWidth = 120 := rfl
  rw [commentChars_trim]
  rcases Nat.lt_or_ge commentWidth (collapse cs).length with hlt | hle
  · obtain ⟨before, after, hbefore, hafter, hcs, hlead⟩ := exists_collapse_eq cs
    have hlength := congrArg List.length hcs
    simp only [List.length_append] at hlength
    obtain rfl := hlead (List.ne_nil_of_length_pos (by omega))
    rw [commentChars_of_lt hlt]
    split
    · next hfits =>
      rw [take_append_dots_eq_iff (by omega)]
      constructor
      · rintro ⟨h, hdots⟩
        exact .inr (.inr ⟨by omega, hdots⟩)
      · rintro (h | ⟨-, h⟩ | ⟨h, hdots⟩)
        · omega
        · omega
        · exact ⟨by omega, hdots⟩
    · next hlong =>
      constructor
      · intro h
        have hlength := congrArg List.length h
        simp only [List.length_append, List.length_take] at hlength
        exact .inr (.inl ⟨List.length_eq_zero_iff.1 (by omega), by omega⟩)
      · rintro (h | ⟨h, -⟩ | ⟨h, -⟩)
        · omega
        · rw [h]
          rfl
        · omega
  · have hfits : (spacedWords cs).length ≤ commentWidth := by
      rw [← trim_collapse]
      exact (length_trim_le _).trans hle
    rw [commentChars_of_le hle, if_pos hfits]
    exact iff_of_true rfl (.inl hle)

/-- When blanks at the ends of a text leave its comment as it is. Without them, a text is not cut if its words fit with
one space between them. -/
theorem safeComment_stripped_iff (text : String) :
    let written := spacedWords text.toList
    let space := leadingSpace text.toList
    (safeComment text = safeComment (stripped text) ↔ (collapse text.toList).length ≤ 120 ∨
      space = [] ∧ 120 < written.length ∨ space.length + written.length = 120 ∧ ['.', '.', '.'] <:+ written) ∧
    (written.length ≤ 120 → safeComment (stripped text) = String.ofList written) := by
  intro written space
  have hstripped : (stripped text).toList = trim text.toList := String.toList_ofList
  refine ⟨?_, fun h => ?_⟩
  · rw [safeComment, safeComment, hstripped, String.ofList_inj]
    exact commentChars_trim_iff text.toList
  · rw [safeComment, hstripped, commentChars_trim]
    exact congrArg String.ofList (if_pos h)

/-- A text that fits exactly is cut if a space stands before it. -/
theorem safeComment_cut_by_space :
    let text := String.ofList (' ' :: List.replicate 120 'x')
    (spacedWords text.toList).length ≤ 120 ∧ safeComment (stripped text) = String.ofList (List.replicate 120 'x') ∧
      safeComment text = String.ofList (List.replicate 116 'x' ++ ['.', '.', '.']) ∧
      safeComment text ≠ safeComment (stripped text) := by decide +kernel

end SchemaBindings.Naming
