import SchemaBindings.Layout.Lines
import SchemaBindings.Proofs.Locations
import SchemaBindings.Text.Quoted

/-!
# Lines of a text

A text stands on one line if no line ends in it. Comments and literals do, whatever they are made from. Lines that
each stand on one line are read back from the text they make, one by one (`lines_text_append`).
-/

namespace SchemaBindings

namespace Text

/-! ### Texts on one line -/

/-- Does no line end in the text? -/
structure OneLine (s : String) : Prop where
  lineFeed : '\n' ∉ s.toList
  carriageReturn : '\r' ∉ s.toList

theorem oneLine_iff {s : String} : OneLine s ↔ '\n' ∉ s.toList ∧ '\r' ∉ s.toList :=
  ⟨fun h => ⟨h.lineFeed, h.carriageReturn⟩, fun ⟨hn, hr⟩ => ⟨hn, hr⟩⟩

instance (s : String) : Decidable (OneLine s) := decidable_of_iff _ oneLine_iff.symm

@[simp] theorem oneLine_append {s t : String} : OneLine (s ++ t) ↔ OneLine s ∧ OneLine t := by
  simp only [oneLine_iff, String.toList_append, List.mem_append, not_or]
  exact and_and_and_comm

theorem oneLine_ofList {cs : List Char} (h : ∀ c ∈ cs, c ≠ '\n' ∧ c ≠ '\r') : OneLine (String.ofList cs) where
  lineFeed hc := (h _ (by simpa using hc)).1 rfl
  carriageReturn hc := (h _ (by simpa using hc)).2 rfl

theorem oneLine_intercalate {separator : String} (hseparator : OneLine separator) {texts : List String}
    (h : ∀ text ∈ texts, OneLine text) : OneLine (separator.intercalate texts) := by
  induction texts with
  | nil => simpa using (by decide : OneLine "")
  | cons text texts ih =>
    obtain ⟨htext, hrest⟩ := List.forall_mem_cons.1 h
    cases texts with
    | nil => simpa using htext
    | cons text' texts => simpa [String.intercalate_cons_cons, htext, hseparator] using ih hrest

/-! ### Collapsed texts -/

/-- The only blank of a collapsed text is the space. -/
theorem isBlank_of_mem_collapseFrom {inRun : Bool} {cs : List Char} {c : Char} (h : c ∈ collapseFrom inRun cs) :
    isBlank c = false ∨ c = ' ' := by
  induction cs generalizing inRun with
  | nil => cases h
  | cons x cs ih =>
    unfold collapseFrom at h
    split at h
    · split at h
      · exact ih h
      · rcases List.mem_cons.1 h with rfl | h
        · exact .inr rfl
        · exact ih h
    · next hx =>
      rcases List.mem_cons.1 h with rfl | h
      · exact .inl (by simpa using hx)
      · exact ih h

theorem mem_of_mem_trim {cs : List Char} {c : Char} (h : c ∈ trim cs) : c ∈ cs := by
  have hreverse : c ∈ (trimStart cs).reverse := (List.dropWhile_sublist _).subset (List.mem_reverse.1 h)
  exact (List.dropWhile_sublist _).subset (List.mem_reverse.1 hreverse)

end Text

namespace Naming

theorem mem_of_mem_shorten {cs : List Char} {c : Char} (h : c ∈ shorten cs) : c ∈ cs ∨ c = '.' := by
  unfold shorten at h
  split at h
  · rcases List.mem_append.1 h with h | h
    · exact .inl (List.mem_of_mem_take h)
    · simp only [List.mem_cons, List.not_mem_nil, or_false, or_self] at h
      exact .inr h
  · exact .inl h

/-- The only blank of a comment is the space. -/
theorem isBlank_of_mem_safeComment {text : String} {c : Char} (h : c ∈ (safeComment text).toList) :
    Text.isBlank c = false ∨ c = ' ' := by
  rw [safeComment, String.toList_ofList] at h
  rcases mem_of_mem_shorten (Text.mem_of_mem_trim h) with h | rfl
  · exact Text.isBlank_of_mem_collapseFrom h
  · exact .inl (by decide)

theorem oneLine_safeComment (text : String) : Text.OneLine (safeComment text) where
  lineFeed h := absurd (isBlank_of_mem_safeComment h) (by decide)
  carriageReturn h := absurd (isBlank_of_mem_safeComment h) (by decide)

end Naming

/-! ### Literals -/

namespace Text

private theorem mem_hexDigits {width n : Nat} {c : Char} (h : c ∈ hexDigits width n) : ∃ k < 16, c = hexDigit k := by
  induction width generalizing n with
  | zero => cases h
  | succ width ih =>
    rcases List.mem_append.1 h with h | h
    · exact ih h
    · exact ⟨n % 16, Nat.mod_lt _ (by decide), List.mem_singleton.1 h⟩

private theorem ne_of_mem_escape {letter c : Char} {width n : Nat} (hletter : letter ≠ '\n' ∧ letter ≠ '\r')
    (h : c ∈ '\\' :: letter :: hexDigits width n) : c ≠ '\n' ∧ c ≠ '\r' := by
  have hall : ∀ k < 16, hexDigit k ≠ '\n' ∧ hexDigit k ≠ '\r' := by decide
  rcases List.mem_cons.1 h with rfl | h
  · decide
  · rcases List.mem_cons.1 h with rfl | h
    · exact hletter
    · obtain ⟨k, hk, rfl⟩ := mem_hexDigits h
      exact hall k hk

/-- In a literal, ends of lines are escaped. -/
private theorem ne_of_mem_quotedChar {mark c x : Char} (hmark : mark ≠ '\n' ∧ mark ≠ '\r') (h : x ∈ quotedChar mark c) :
    x ≠ '\n' ∧ x ≠ '\r' := by
  have hpair {letter : Char} (hletter : letter ≠ '\n' ∧ letter ≠ '\r') (h : x ∈ ['\\', letter]) :
      x ≠ '\n' ∧ x ≠ '\r' := @ne_of_mem_escape letter x 0 0 hletter h
  unfold quotedChar at h
  split at h
  · next hc =>
    rcases (Bool.or_eq_true_iff.1 hc).imp beq_iff_eq.1 beq_iff_eq.1 with rfl | rfl
    · exact hpair hmark h
    · exact hpair (by decide) h
  · split at h
    · exact hpair (by decide) h
    · next hfeed =>
      split at h
      · exact hpair (by decide) h
      · next hreturn =>
        split at h
        · exact hpair (by decide) h
        · split at h
          · -- the character stays, and the ends of lines have been dealt with
            rw [List.mem_singleton.1 h]
            exact ⟨by simpa using hfeed, by simpa using hreturn⟩
          · split at h
            · exact ne_of_mem_escape (by decide) h
            · split at h <;> exact ne_of_mem_escape (by decide) h

theorem oneLine_quoted (s : String) : OneLine (quoted s) := by
  have hmark : quoteMark s.toList ≠ '\n' ∧ quoteMark s.toList ≠ '\r' := by
    unfold quoteMark
    split <;> decide
  refine oneLine_ofList fun c hc => ?_
  rw [quotedChars, List.mem_append, List.mem_cons, List.mem_flatMap, List.mem_singleton] at hc
  rcases hc with (rfl | ⟨x, -, hc⟩) | rfl
  · exact hmark
  · exact ne_of_mem_quotedChar hmark hc
  · exact hmark

/-! ### Reading lines -/

/-- What has no carriage return is left alone. -/
theorem unifyLineEnds_append {before : List Char} (h : '\r' ∉ before) (after : List Char) :
    unifyLineEnds (before ++ after) = before ++ unifyLineEnds after := by
  induction before with
  | nil => rfl
  | cons c before ih =>
    rw [List.mem_cons, not_or] at h
    rw [List.cons_append, unifyLineEnds, ih h.2]
    · simp [Ne.symm h.1]
    · exact fun _ hc _ => h.1 hc.symm

theorem unifyLineEnds_append_lineFeed (before after : List Char) :
    ∃ unified, unifyLineEnds (before ++ ['\n']) = unified ++ ['\n'] ∧
      unifyLineEnds (before ++ '\n' :: after) = unified ++ '\n' :: unifyLineEnds after := by
  induction before using unifyLineEnds.induct with
  | case1 => exact ⟨[], rfl, by simp [unifyLineEnds]⟩
  | case2 before ih =>
    obtain ⟨unified, hbefore, hall⟩ := ih
    exact ⟨'\n' :: unified, by simp [unifyLineEnds, hbefore], by simp [unifyLineEnds, hall]⟩
  | case3 c before hpair ih =>
    obtain ⟨unified, hbefore, hall⟩ := ih
    by_cases hend : c = '\r' ∧ before = []
    · -- the carriage return and the line feed behind it end one line
      obtain ⟨rfl, rfl⟩ := hend
      exact ⟨[], rfl, by simp [unifyLineEnds]⟩
    · have hnext (rest cs : List Char) (hc : c = '\r') (hcs : before ++ '\n' :: rest = '\n' :: cs) : False := by
        cases before with
        | nil => exact hend ⟨hc, rfl⟩
        | cons b before => exact hpair before hc (congrArg (· :: before) (List.cons.inj hcs).1)
      refine ⟨(if c == '\r' then '\n' else c) :: unified, ?_, ?_⟩
      · rw [List.cons_append, unifyLineEnds, hbefore]
        · rfl
        · exact hnext []
      · rw [List.cons_append, unifyLineEnds, hall]
        · rfl
        · exact hnext after

/-- Behind the end of a line, the lines of a text are those of what is left. -/
theorem lines_append_lineFeed (before after : List Char) :
    lines (before ++ '\n' :: after) = (lines (before ++ ['\n'])).dropLast ++ lines after := by
  obtain ⟨unified, hbefore, hall⟩ := unifyLineEnds_append_lineFeed before after
  have hend : parts '\n' [] = [[]] := rfl
  rw [lines, lines, lines, hbefore, hall, parts_append_separator, parts_append_separator, hend, List.dropLast_concat]

theorem lines_oneLine_append {line : String} (h : OneLine line) (rest : List Char) :
    lines (line.toList ++ '\n' :: rest) = line.toList :: lines rest := by
  have hrest : unifyLineEnds ('\n' :: rest) = '\n' :: unifyLineEnds rest := by simp [unifyLineEnds]
  rw [lines, unifyLineEnds_append h.carriageReturn, hrest, parts_append_separator, parts_of_not_mem h.lineFeed]
  rfl

end Text

/-! ### Lines of layouts -/

namespace Layout

theorem text_append (before after : List String) : text (before ++ after) = text before ++ text after := by
  simp [text, String.join_append]

theorem text_flatMap {α : Type} (written : α → List String) (l : List α) :
    text (l.flatMap written) = String.join (l.map fun a => text (written a)) := by
  induction l with
  | nil => rfl
  | cons a l ih => rw [List.flatMap_cons, text_append, ih, List.map_cons, String.join_cons]

/-- Lines that stand on one line each are read back. -/
theorem lines_text_append {written : List String} (h : ∀ line ∈ written, Text.OneLine line) (rest : List Char) :
    Text.lines ((text written).toList ++ rest) = written.map String.toList ++ Text.lines rest := by
  induction written with
  | nil => rfl
  | cons line written ih =>
    obtain ⟨hline, hwritten⟩ := List.forall_mem_cons.1 h
    have htext : (text (line :: written)).toList ++ rest = line.toList ++ '\n' :: ((text written).toList ++ rest) := by
      simp [text, String.join_cons]
    rw [htext, Text.lines_oneLine_append hline, ih hwritten]
    rfl

/-- Every line of a layout ends, so what comes behind starts a line of its own. -/
theorem lines_text_append_rest {before : List String} (hne : before ≠ []) (rest : List Char) :
    Text.lines ((text before).toList ++ rest) = (Text.lines (text before).toList).dropLast ++ Text.lines rest := by
  obtain ⟨init, last, rfl⟩ := (List.eq_nil_or_concat' before).resolve_left hne
  have hlast : (text (init ++ [last])).toList = (text init).toList ++ last.toList ++ ['\n'] := by simp [text]
  rw [hlast, List.append_assoc _ ['\n'] rest]
  exact Text.lines_append_lineFeed _ rest

end Layout

end SchemaBindings
