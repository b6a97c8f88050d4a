import SchemaBindings.Naming
import SchemaBindings.Text.Word

/-!
# Snake case as a local rule

The two passes that mark words and capitals put together follow one rule: a low line goes before a capital after a
small letter or digit, and before a capital with a small letter after it unless the capital starts a line
(`markCapitals_markWords`). So a name in front of a capitalized word becomes its own snake case and the word
(`snakeChars_append`).
-/

namespace SchemaBindings.Naming

/-! ### The rule -/

/-- Is the first character a small letter? -/
def startsSmall (cs : List Char) : Bool := (cs.head?.map Char.isLower).getD false

/-- Does a low line go before the capital `b`, between `a` and `cs`? -/
def startsWord (a b : Char) (cs : List Char) : Bool :=
  b.isUpper && (a.isLower || a.isDigit || (a != '\n' && startsSmall cs))

/-- The characters after `a`, with their low lines. -/
def markAfter (a : Char) : List Char → List Char
  | [] => []
  | b :: cs => (if startsWord a b cs then ['_', b] else [b]) ++ markAfter b cs

theorem markAfter_cons (a b : Char) (cs : List Char) :
    markAfter a (b :: cs) = (if startsWord a b cs then ['_', b] else [b]) ++ markAfter b cs := rfl

theorem isUpper_iff {c : Char} : c.isUpper = true ↔ 65 ≤ c.toNat ∧ c.toNat ≤ 90 := by
  show decide (c.val ≥ 65 ∧ c.val ≤ 90) = true ↔ _
  simp [UInt32.le_iff_toNat_le]

theorem isLower_iff {c : Char} : c.isLower = true ↔ 97 ≤ c.toNat ∧ c.toNat ≤ 122 := by
  show (decide (c.val ≥ 97) && decide (c.val ≤ 122)) = true ↔ _
  simp [UInt32.le_iff_toNat_le]

theorem isDigit_iff {c : Char} : c.isDigit = true ↔ 48 ≤ c.toNat ∧ c.toNat ≤ 57 := by
  show (decide (c.val ≥ 48) && decide (c.val ≤ 57)) = true ↔ _
  simp [UInt32.le_iff_toNat_le]

theorem isNameChar_iff {c : Char} :
    Text.isNameChar c = true ↔ c.isUpper = true ∨ c.isLower = true ∨ c.isDigit = true ∨ c = '_' := by
  show ((c.isUpper || c.isLower) || c.isDigit || c == '_') = true ↔ _
  simp [or_assoc]

private theorem not_small_or_digit_of_isUpper {c : Char} (h : c.isUpper = true) : (c.isLower || c.isDigit) = false := by
  rw [← Bool.not_eq_true, Bool.or_eq_true, isLower_iff, isDigit_iff]
  have := isUpper_iff.1 h
  omega

theorem not_isUpper_of_isLower {c : Char} (h : c.isLower = true) : c.isUpper = false := by
  rw [← Bool.not_eq_true, isUpper_iff]
  have := isLower_iff.1 h
  omega

private theorem markCapitals_cons (a b : Char) (cs : List Char) :
    markCapitals (a :: b :: cs) =
      a :: ((if (a.isLower || a.isDigit) && b.isUpper then ['_'] else []) ++ markCapitals (b :: cs)) := by
  by_cases h : ((a.isLower || a.isDigit) && b.isUpper) = true
  · have hb := not_small_or_digit_of_isUpper (Bool.and_eq_true_iff.1 h).2
    cases cs with
    | nil => simp [markCapitals, h]
    | cons c cs => simp [markCapitals, h, hb]
  · simp [markCapitals, h]

private theorem exists_markWords_cons (inRun : Bool) (a : Char) (cs : List Char) :
    ∃ rest, markWords inRun (a :: cs) = a :: rest := by
  match cs with
  | [] | [_] => exact ⟨_, rfl⟩
  | b :: c :: cs =>
    rw [markWords]
    split
    · exact ⟨_, rfl⟩
    · split <;> exact ⟨_, rfl⟩

theorem markWords_of_isLower {c : Char} (h : c.isLower = true) (cs : List Char) :
    markWords true (c :: cs) = c :: markWords true cs := by
  match cs with
  | [] | [_] => rfl
  | b :: c' :: cs => simp [markWords, h]

/-- Outside of a word that starts here, the second pass sees the low lines that the rule asks for. -/
private theorem markCapitals_step {a b : Char} {cs rest : List Char}
    (hrest : markCapitals (b :: rest) = b :: markAfter b cs)
    (h : startsWord a b cs = ((a.isLower || a.isDigit) && b.isUpper)) :
    markCapitals (a :: b :: rest) = a :: markAfter a (b :: cs) := by
  rw [markCapitals_cons, hrest, markAfter_cons, h]
  split <;> rfl

/-- Both passes together mark by the rule, whether or not they go on a run. -/
theorem markCapitals_markWords (inRun : Bool) (a : Char) (cs : List Char) :
    markCapitals (markWords inRun (a :: cs)) = a :: markAfter a cs := by
  induction hn : cs.length using Nat.strongRecOn generalizing inRun a cs with
  | ind n ih =>
    match cs, hn with
    | [], _ => rfl
    | [b], _ =>
      refine markCapitals_step rfl ?_
      simp [startsWord, startsSmall, Bool.and_comm]
    | b :: c :: cs, hn =>
      have hlength : (c :: cs).length < n := by
        simp only [List.length_cons] at hn ⊢
        omega
      rw [markWords]
      split
      · next hrun =>
        -- inside a run, a capital after the small letter `a` is left to the second pass
        obtain ⟨rest, hrest⟩ := exists_markWords_cons true b (c :: cs)
        rw [hrest]
        refine markCapitals_step (hrest ▸ ih _ hlength true b (c :: cs) rfl) ?_
        simp [startsWord, (Bool.and_eq_true_iff.1 hrun).2]
      · split
        · next hword =>
          -- a word starts here: the first pass takes `b` and `c` along, and the run goes on after them
          simp only [Bool.and_eq_true, bne_iff_ne, ne_eq] at hword
          obtain ⟨⟨ha, hb⟩, hc⟩ := hword
          have hnext : markCapitals (c :: markWords true cs) = c :: markAfter c cs := by
            rw [← markWords_of_isLower hc]
            exact ih _ (by simp only [List.length_cons] at hlength; omega) true c cs rfl
          have hafter : markAfter b (c :: cs) = c :: markAfter c cs := by
            simp [markAfter_cons, startsWord, not_isUpper_of_isLower hc]
          have hstarts : startsWord a b (c :: cs) = true := by simp [startsWord, startsSmall, ha, hb, hc]
          rw [markCapitals_cons, markCapitals_cons, markCapitals_cons, hnext, markAfter_cons, hstarts, hafter]
          simp [not_small_or_digit_of_isUpper hb]
        · next hword =>
          obtain ⟨rest, hrest⟩ := exists_markWords_cons false b (c :: cs)
          rw [hrest]
          refine markCapitals_step (hrest ▸ ih _ hlength false b (c :: cs) rfl) ?_
          cases hb : b.isUpper
          · simp [startsWord, hb]
          · simp only [hb, Bool.and_true, Bool.and_eq_true, not_and, Bool.not_eq_true] at hword
            cases hn : a != '\n' <;> simp [startsWord, startsSmall, hb, hn, hword]

/-! ### A word after a name -/

private theorem markAfter_of_isLower {a : Char} {cs : List Char} (h : ∀ c ∈ cs, c.isLower = true) :
    markAfter a cs = cs := by
  induction cs generalizing a with
  | nil => rfl
  | cons b cs ih =>
    obtain ⟨hb, hcs⟩ := List.forall_mem_cons.1 h
    simp [markAfter_cons, startsWord, not_isUpper_of_isLower hb, ih hcs]

/-- A capitalized word is marked, and nothing changes before it. -/
theorem markAfter_append_word {a u : Char} {cs small : List Char} (hu : u.isUpper = true) (hne : small ≠ [])
    (hsmall : ∀ c ∈ small, c.isLower = true) (hlines : '\n' ∉ a :: cs) :
    markAfter a (cs ++ u :: small) = markAfter a cs ++ '_' :: u :: small := by
  induction cs generalizing a with
  | nil =>
    obtain ⟨l, rest, rfl⟩ := List.exists_cons_of_ne_nil hne
    have hl := hsmall l List.mem_cons_self
    have ha : (a != '\n') = true := by
      simp only [List.mem_cons, List.not_mem_nil, or_false] at hlines
      simpa using Ne.symm hlines
    have hstarts : startsWord a u (l :: rest) = true := by simp [startsWord, startsSmall, hu, hl, ha]
    rw [List.nil_append, markAfter_cons, hstarts, markAfter_of_isLower hsmall]
    rfl
  | cons b cs ih =>
    have hstarts : startsSmall (cs ++ u :: small) = startsSmall cs := by
      cases cs with
      | nil => simpa [startsSmall] using (Bool.or_eq_false_iff.1 (not_small_or_digit_of_isUpper hu)).1
      | cons c cs => rfl
    have hlines : '\n' ∉ b :: cs := fun hmem => hlines (List.mem_cons_of_mem a hmem)
    rw [List.cons_append, markAfter_cons, markAfter_cons, ih hlines, startsWord, startsWord, hstarts, List.append_assoc]

theorem mem_markAfter {a c : Char} {cs : List Char} (h : c ∈ markAfter a cs) : c = '_' ∨ c ∈ cs := by
  induction cs generalizing a with
  | nil => cases h
  | cons b cs ih =>
    rw [markAfter_cons] at h
    rcases List.mem_append.1 h with h | h
    · split at h
      · rcases List.mem_cons.1 h with rfl | h
        · exact .inl rfl
        · exact .inr (List.mem_singleton.1 h ▸ List.mem_cons_self)
      · exact .inr (List.mem_singleton.1 h ▸ List.mem_cons_self)
    · exact (ih h).imp_right (List.mem_cons_of_mem b)

private theorem lowerFrom_of_ascii {before cs : List Char} (h : ∀ c ∈ cs, c.toNat < 0x80) :
    Text.lowerFrom before cs = cs.map Char.toLower := by
  induction cs generalizing before with
  | nil => rfl
  | cons c cs ih =>
    obtain ⟨hc, hcs⟩ := List.forall_mem_cons.1 h
    have hsigma : (c == 'Σ') = false := by
      rw [beq_eq_false_iff_ne]
      rintro rfl
      exact absurd hc (by decide)
    simp [Text.lowerFrom, Text.lowerOf, hsigma, hc, ih hcs]

theorem lower_of_ascii {cs : List Char} (h : ∀ c ∈ cs, c.toNat < 0x80) : Text.lower cs = cs.map Char.toLower :=
  lowerFrom_of_ascii h

theorem toNat_lt_of_isNameChar {c : Char} (h : Text.isNameChar c = true) : c.toNat < 0x80 := by
  rw [isNameChar_iff, isUpper_iff, isLower_iff, isDigit_iff] at h
  rcases h with h | h | h | rfl
  · omega
  · omega
  · omega
  · decide

/-- What holds of all ASCII characters of names holds of all characters of names. -/
theorem of_isNameChar {P : Char → Prop} (h : ∀ n < 0x80, Text.isNameChar (Char.ofNat n) = true → P (Char.ofNat n))
    {c : Char} (hc : Text.isNameChar c = true) : P c := by
  have hP := h c.toNat (toNat_lt_of_isNameChar hc)
  rw [Char.ofNat_toNat] at hP
  exact hP hc

/-- Snake case of a name and a capitalized word after it. -/
theorem snakeChars_append {u : Char} {cs small : List Char} (hcs : cs ≠ []) (hname : ∀ c ∈ cs, Text.isNameChar c = true)
    (hu : u.isUpper = true) (hne : small ≠ []) (hsmall : ∀ c ∈ small, c.isLower = true) :
    snakeChars (cs ++ u :: small) = snakeChars cs ++ '_' :: Text.lower (u :: small) := by
  obtain ⟨a, cs, rfl⟩ := List.exists_cons_of_ne_nil hcs
  have hlines : '\n' ∉ a :: cs := fun hmem => absurd (hname _ hmem) (by decide)
  have hbefore : ∀ c ∈ a :: markAfter a cs, c.toNat < 0x80 := by
    intro c hc
    rcases List.mem_cons.1 hc with rfl | hc
    · exact toNat_lt_of_isNameChar (hname c List.mem_cons_self)
    · rcases mem_markAfter hc with rfl | hc
      · decide
      · exact toNat_lt_of_isNameChar (hname c (List.mem_cons_of_mem a hc))
  have hword : ∀ c ∈ u :: small, c.toNat < 0x80 := by
    intro c hc
    refine toNat_lt_of_isNameChar ?_
    rcases List.mem_cons.1 hc with rfl | hc
    · exact isNameChar_iff.2 (.inl hu)
    · exact isNameChar_iff.2 (.inr (.inl (hsmall c hc)))
  have hafter : ∀ c ∈ a :: (markAfter a cs ++ '_' :: u :: small), c.toNat < 0x80 := by
    intro c hc
    rw [← List.cons_append] at hc
    rcases List.mem_append.1 hc with hc | hc
    · exact hbefore c hc
    · rcases List.mem_cons.1 hc with rfl | hc
      · decide
      · exact hword c hc
  rw [snakeChars, snakeChars, List.cons_append, markCapitals_markWords, markCapitals_markWords,
    markAfter_append_word hu hne hsmall hlines, lower_of_ascii hafter, lower_of_ascii hbefore, lower_of_ascii hword]
  simp

/-! ### Names of operations -/

/-- Is the text one of letters, digits and low lines, and not empty? -/
def IsWord (name : String) : Prop := name ≠ "" ∧ ∀ c ∈ name.toList, Text.isNameChar c = true

instance (name : String) : Decidable (IsWord name) :=
  decidable_of_iff (name ≠ "" ∧ name.toList.all Text.isNameChar = true) (by simp [IsWord])

private theorem isNameChar_toUpper {c : Char} (h : Text.isNameChar c = true) : Text.isNameChar c.toUpper = true :=
  of_isNameChar (P := fun c => Text.isNameChar c.toUpper = true) (by decide +kernel) h

theorem IsWord.capitalize {name : String} (h : IsWord name) : IsWord (capitalize name) := by
  obtain ⟨hne, hname⟩ := h
  obtain ⟨c, cs, hcs⟩ := List.exists_cons_of_ne_nil (mt String.toList_eq_nil_iff.1 hne)
  rw [hcs] at hname
  obtain ⟨hc, hrest⟩ := List.forall_mem_cons.1 hname
  have hascii := toNat_lt_of_isNameChar hc
  have hcapital : Naming.capitalize name = String.ofList (c.toUpper :: cs) := by
    simp [Naming.capitalize, hcs, Text.upperOf, hascii]
  rw [hcapital]
  refine ⟨?_, ?_⟩
  · intro he
    have := congrArg String.toList he
    simp at this
  · rw [String.toList_ofList]
    exact List.forall_mem_cons.2 ⟨isNameChar_toUpper hc, hrest⟩

end SchemaBindings.Naming
