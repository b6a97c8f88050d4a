import SchemaBindings.Proofs.Chains
import SchemaBindings.Proofs.Patterns

/-!
# The patterns of custom targets

A custom target is told from its text by two patterns: a text that the first one matches as a whole is imported by its
last component, and in any other text each match of the second one names a module. A match of the second pattern has
to give back the component that it took last (`findSome?_repeated`), and matches do not overlap; still, the first
pattern matches just the dotted names (`fits_dottedNamePattern_iff`), and the second one finds just the modules of the
longest chains (`mem_moduleMatches_iff`).
-/

namespace SchemaBindings.Target

open Text (Pattern)
open Text.Pattern (Cursor)

/-! ### The patterns -/

/-- A component of a chain. -/
def componentPattern : Pattern := .seq (.one Text.isNameStart) (.many (.one Text.isWord))

/-- A component behind a dot. -/
def dottedPattern : Pattern := .seq (.one (· == '.')) componentPattern

/-- Components joined by dots, two at least. -/
def dottedNamePattern : Pattern := .seq componentPattern (.seq dottedPattern (.many dottedPattern))

/-- A module in front of a component; no word character and no dot comes before. -/
def modulePattern : Pattern :=
  .seq (.notAfter fun c => Text.isWord c || c == '.')
    (.seq (.group (.seq componentPattern (.many dottedPattern))) dottedPattern)

/-- The modules that a text mentions by the pattern, in order. -/
def moduleMatches (cs : List Char) : List String :=
  (modulePattern.findAll cs).map fun groups => String.ofList groups.flatten

/-! ### Patterns that read -/

/-- The first way of the pattern takes what the reader takes, and every other one stops inside of a word. -/
def FirstReads (p : Pattern) (read : List Char → Option (List Char × List Char)) : Prop :=
  ∀ c : Cursor, ∃ partials, p.ways c = (read c.rest).elim [] (fun taken => c.past taken.1 taken.2 :: partials) ∧
    ∀ d ∈ partials, d.rest.head?.any Text.isWord = true

section

variable {p : Pattern} {read : List Char → Option (List Char × List Char)}

theorem FirstReads.head?_ways (h : FirstReads p read) (c : Cursor) :
    (p.ways c).head? = (read c.rest).map fun taken => c.past taken.1 taken.2 := by
  obtain ⟨partials, hways, -⟩ := h c
  rw [hways]
  cases read c.rest <;> rfl

theorem FirstReads.ways_eq_nil (h : FirstReads p read) {c : Cursor} (hc : read c.rest = none) : p.ways c = [] := by
  obtain ⟨partials, hways, -⟩ := h c
  rw [hways, hc]
  rfl

theorem FirstReads.mem_ways (h : FirstReads p read) {c : Cursor} {taken rest : List Char}
    (hc : read c.rest = some (taken, rest)) : c.past taken rest ∈ p.ways c := by
  obtain ⟨partials, hways, -⟩ := h c
  rw [hways, hc]
  exact List.mem_cons_self

/-- Where nothing goes on from inside of a word, only the first way counts. -/
theorem FirstReads.findSome?_ways {α : Type} (h : FirstReads p read) (c : Cursor) {g : Cursor → Option α}
    (hg : ∀ d : Cursor, d.rest.head?.any Text.isWord = true → g d = none) :
    (p.ways c).findSome? g = (read c.rest).bind fun taken => g (c.past taken.1 taken.2) := by
  obtain ⟨partials, hways, hpartials⟩ := h c
  have hnone : partials.findSome? g = none := List.findSome?_eq_none_iff.2 fun d hd => hg d (hpartials d hd)
  rw [hways]
  cases read c.rest with
  | none => rfl
  | some taken =>
    rw [Option.elim_some, List.findSome?_cons, hnone, Option.bind_some]
    cases g (c.past taken.1 taken.2) <;> rfl

end

theorem firstReads_component : FirstReads componentPattern component? := by
  intro c
  cases hrest : c.rest with
  | nil =>
    refine ⟨[], ?_, by simp⟩
    rw [componentPattern, Pattern.ways, Pattern.ways_one_nil _ hrest]
    rfl
  | cons x xs =>
    rw [componentPattern, Pattern.ways, Pattern.ways_one_cons _ hrest, component?]
    by_cases hx : Text.isNameStart x = true
    · obtain ⟨partials, hways, hpartials⟩ := Pattern.ways_many_one Text.isWord (c.past [x] xs)
      refine ⟨partials, ?_, hpartials⟩
      rw [if_pos hx, if_pos hx, List.flatMap_singleton, hways, Cursor.past_past]
      rfl
    · refine ⟨[], ?_, by simp⟩
      rw [if_neg hx, if_neg hx]
      rfl

/-- What the pattern of a component behind a dot takes. -/
def nextTaken? (cs : List Char) : Option (List Char × List Char) :=
  (nextComponent? cs).map fun read => ('.' :: read.1, read.2)

theorem firstReads_dotted : FirstReads dottedPattern nextTaken? := by
  intro c
  cases hrest : c.rest with
  | nil =>
    refine ⟨[], ?_, by simp⟩
    rw [dottedPattern, Pattern.ways, Pattern.ways_one_nil _ hrest]
    rfl
  | cons x xs =>
    rw [dottedPattern, Pattern.ways, Pattern.ways_one_cons _ hrest]
    by_cases hx : x = '.'
    · subst hx
      obtain ⟨partials, hways, hpartials⟩ := firstReads_component (c.past ['.'] xs)
      refine ⟨partials, ?_, hpartials⟩
      rw [if_pos (by rfl), List.flatMap_singleton, hways, Cursor.rest_past, nextTaken?, nextComponent?_dot]
      cases component? xs with
      | none => rfl
      | some read => simp [Cursor.past_past]
    · refine ⟨[], ?_, by simp⟩
      rw [if_neg (by simpa using hx), nextTaken?, nextComponent?_of_ne hx]
      rfl

theorem nextTaken?_of_next {cs component rest : List Char} (h : nextComponent? cs = some (component, rest)) :
    nextTaken? cs = some ('.' :: component, rest) := by
  rw [nextTaken?, h, Option.map_some]

theorem nextTaken?_of_next_eq_none {cs : List Char} (h : nextComponent? cs = none) : nextTaken? cs = none := by
  rw [nextTaken?, h, Option.map_none]

private theorem nextTaken?_of_word {cs : List Char} (h : cs.head?.any Text.isWord = true) : nextTaken? cs = none := by
  cases cs with
  | nil => rfl
  | cons x xs =>
    have hx : x ≠ '.' := by
      rintro rfl
      rw [List.head?_cons, Option.any_some, isWord_dot] at h
      cases h
    rw [nextTaken?, nextComponent?_of_ne hx]
    rfl

private theorem length_lt_of_nextTaken? {cs taken rest : List Char} (h : nextTaken? cs = some (taken, rest)) :
    rest.length < cs.length := by
  obtain ⟨⟨component, after⟩, hnext, he⟩ := Option.map_eq_some_iff.1 h
  cases he
  simp only [eq_append_of_next hnext, List.length_cons, List.length_append]
  omega

/-! ### Repeated components -/

theorem repeated_of_nextTaken?_eq_none (n : Nat) {c : Cursor} (h : nextTaken? c.rest = none) :
    Pattern.repeated dottedPattern.ways n c = [c] := by
  cases n with
  | zero => rfl
  | succ n =>
    rw [Pattern.repeated, firstReads_dotted.ways_eq_nil h]
    rfl

/-- The components that are read one by one are one way to repeat. -/
private theorem mem_repeated_dotted (n : Nat) (c : Cursor) (hn : c.rest.length ≤ n) :
    c.past (behindDots (moreComponents c.rest).1) (moreComponents c.rest).2 ∈
      Pattern.repeated dottedPattern.ways n c := by
  induction n generalizing c with
  | zero =>
    have hrest : c.rest = [] := List.eq_nil_of_length_eq_zero (Nat.le_zero.1 hn)
    rw [Pattern.repeated, List.mem_singleton, hrest, moreComponents_of_next_eq_none rfl]
    exact Cursor.past_nil hrest
  | succ n ih =>
    cases hnext : nextComponent? c.rest with
    | none =>
      have hstop := nextTaken?_of_next_eq_none hnext
      rw [repeated_of_nextTaken?_eq_none _ hstop, List.mem_singleton, moreComponents_of_next_eq_none hnext]
      exact Cursor.past_nil rfl
    | some read =>
      obtain ⟨component, rest⟩ := read
      have htaken := nextTaken?_of_next hnext
      have hshorter := length_lt_of_nextTaken? htaken
      have hmem := ih (c.past ('.' :: component) rest) (by rw [Cursor.rest_past]; omega)
      rw [Cursor.past_past] at hmem
      rw [Pattern.repeated, List.mem_append, List.mem_flatMap, moreComponents_of_next hnext, behindDots_cons]
      refine .inl ⟨c.past ('.' :: component) rest, firstReads_dotted.mem_ways htaken, ?_⟩
      rw [Cursor.rest_past, if_pos hshorter]
      exact hmem

/-- Where one more component ends after the repetition has given back the last one. `mark` may change what a position
has reported. -/
def givenBack? (mark : Cursor → Cursor) (c : Cursor) : Option Cursor :=
  (moreComponents c.rest).1.getLast?.map fun last =>
    (mark (c.past (behindDots (moreComponents c.rest).1.dropLast) ('.' :: last ++ (moreComponents c.rest).2))).past
      ('.' :: last) (moreComponents c.rest).2

theorem givenBack?_of_next_eq_none (mark : Cursor → Cursor) {c : Cursor} (h : nextComponent? c.rest = none) :
    givenBack? mark c = none := by
  rw [givenBack?, moreComponents_of_next_eq_none h]
  rfl

/-- What follows a component may give back its last one; where nothing follows, the component itself is given back. -/
theorem givenBack?_of_next (mark : Cursor → Cursor) {c : Cursor} {component rest : List Char}
    (h : nextComponent? c.rest = some (component, rest)) :
    givenBack? mark c =
      (givenBack? mark (c.past ('.' :: component) rest)).or (some ((mark c).past ('.' :: component) rest)) := by
  rw [givenBack?, givenBack?, moreComponents_of_next h, Cursor.rest_past]
  rcases List.eq_nil_or_concat' (moreComponents rest).1 with hnil | ⟨init, last, hlast⟩
  · have hrest := eq_append_moreComponents rest
    rw [hnil] at hrest ⊢
    have hrest : (moreComponents rest).2 = rest := hrest.symm
    have hstay : c.past (behindDots []) ('.' :: (component ++ rest)) = c := Cursor.past_nil (eq_append_of_next h)
    simp [hrest, hstay]
  · rw [hlast, ← List.cons_append, List.getLast?_concat, List.getLast?_concat, List.dropLast_concat,
      List.dropLast_concat, behindDots_cons, Option.map_some, Option.map_some, Option.some_or, Cursor.past_past]
    rfl

/-- Of the ways to repeat, the first one counts after which one more component follows. -/
theorem findSome?_repeated (mark : Cursor → Cursor) (hmark : ∀ d, (mark d).rest = d.rest) (n : Nat) (c : Cursor)
    (hn : c.rest.length ≤ n) :
    (Pattern.repeated dottedPattern.ways n c).findSome? (fun d => (dottedPattern.ways (mark d)).head?) =
      givenBack? mark c := by
  have hhead (d : Cursor) : (dottedPattern.ways (mark d)).head? =
      (nextTaken? d.rest).map fun taken => (mark d).past taken.1 taken.2 := by
    rw [firstReads_dotted.head?_ways, hmark]
  have hstop (n : Nat) {d : Cursor} (hd : nextTaken? d.rest = none) :
      (Pattern.repeated dottedPattern.ways n d).findSome? (fun d => (dottedPattern.ways (mark d)).head?) = none := by
    rw [repeated_of_nextTaken?_eq_none n hd, List.findSome?_singleton, hhead, hd, Option.map_none]
  induction n generalizing c with
  | zero =>
    have hrest : c.rest = [] := List.eq_nil_of_length_eq_zero (Nat.le_zero.1 hn)
    have hnext : nextComponent? c.rest = none := by rw [hrest]; rfl
    rw [hstop 0 (nextTaken?_of_next_eq_none hnext), givenBack?_of_next_eq_none mark hnext]
  | succ n ih =>
    cases hnext : nextComponent? c.rest with
    | none => rw [hstop (n + 1) (nextTaken?_of_next_eq_none hnext), givenBack?_of_next_eq_none mark hnext]
    | some read =>
      obtain ⟨component, rest⟩ := read
      have htaken := nextTaken?_of_next hnext
      have hshorter := length_lt_of_nextTaken? htaken
      have hafter := ih (c.past ('.' :: component) rest) (by rw [Cursor.rest_past]; omega)
      -- only the way that takes the whole component can go on, since a dot has to follow
      have hpartial (d : Cursor) (hd : d.rest.head?.any Text.isWord = true) :
          (if d.rest.length < c.rest.length then Pattern.repeated dottedPattern.ways n d else []).findSome?
            (fun d => (dottedPattern.ways (mark d)).head?) = none := by
        split
        · exact hstop n (nextTaken?_of_word hd)
        · rfl
      rw [Pattern.repeated, List.findSome?_append, Pattern.findSome?_flatMap,
        firstReads_dotted.findSome?_ways c hpartial, htaken, Option.bind_some, Cursor.rest_past, if_pos hshorter, hafter,
        List.findSome?_singleton, hhead, htaken, givenBack?_of_next mark hnext]
      rfl

/-! ### Matches of the module pattern -/

private theorem head?_ways_module (c : Cursor) :
    ((Pattern.seq (.group (.seq componentPattern (.many dottedPattern))) dottedPattern).ways c).head? =
      (component? c.rest).bind fun read => givenBack? c.closing (c.past read.1 read.2) := by
  rw [Pattern.head?_ways_seq, Pattern.findSome?_ways_group, Pattern.ways, Pattern.findSome?_flatMap,
    firstReads_component.findSome?_ways]
  · congr 1
    funext read
    exact findSome?_repeated c.closing (fun d => rfl) read.2.length (c.past read.1 read.2) (Nat.le_refl _)
  · intro d hd
    have hstop := nextTaken?_of_word hd
    rw [Pattern.ways, repeated_of_nextTaken?_eq_none _ hstop, List.findSome?_singleton,
      firstReads_dotted.head?_ways, Cursor.rest_closing, hstop, Option.map_none]

/-- The group reports the chain up to the last component. -/
private theorem closing_past {c d : Cursor} {components : List (List Char)} {last final : List Char}
    (hlast : last ≠ []) (hd : d.rest = '.' :: last ++ final)
    (hc : c.rest = chainText components ++ ('.' :: last ++ final)) :
    (c.closing d).past ('.' :: last) final =
      { before := last.getLast?, rest := final, groups := d.groups ++ [chainText components] } := by
  have hreport : c.upTo d = chainText components := Cursor.upTo_eq (by rw [hd, hc])
  have hends : ('.' :: last).getLast? = some (last.getLast hlast) := by
    rw [List.getLast?_cons, List.getLast?_eq_some_getLast hlast, Option.getD_some]
  rw [Cursor.closing, hreport, Cursor.past, hends, List.getLast?_eq_some_getLast hlast, Option.some_or]

/-- The pattern matches the longest chain, if it has two components, and reports all of it but the last one. -/
theorem match?_modulePattern (before : Option Char) (cs : List Char) :
    modulePattern.match? before cs =
      if startsChainAfter before then
        (chain? cs).bind fun read =>
          if 2 ≤ read.1.length then
            some { before := (read.1.getLastD []).getLast?, rest := read.2, groups := [chainText read.1.dropLast] }
          else none
      else none := by
  have hrefuses : before.any (fun c => Text.isWord c || c == '.') = !startsChainAfter before := by
    cases before <;> simp [startsChainAfter]
  rw [Pattern.match?, modulePattern, Pattern.head?_ways_seq, Pattern.ways, hrefuses]
  by_cases hstarts : startsChainAfter before = true
  · rw [hstarts, Bool.not_true, if_neg Bool.false_ne_true, List.findSome?_singleton, head?_ways_module, if_pos rfl,
      chain?]
    cases hfirst : component? cs with
    | none => rfl
    | some read =>
      obtain ⟨first, rest⟩ := read
      have hcs := (eq_append_of_component? hfirst).1
      have hrest := eq_append_moreComponents rest
      simp only [Option.bind_some, Option.map_some, givenBack?, Cursor.rest_past]
      rcases List.eq_nil_or_concat' (moreComponents rest).1 with hnil | ⟨init, last, hmore⟩
      · simp [hnil]
      · have hlast : last ≠ [] := by
          have hmem : last ∈ (moreComponents rest).1 := by simp [hmore]
          exact (isComponent_of_mem_moreComponents hmem).ne_nil
        have htext : cs = chainText (first :: init) ++ ('.' :: last ++ (moreComponents rest).2) := by
          rw [hmore, behindDots, List.flatMap_append, List.flatMap_singleton, List.append_assoc] at hrest
          rw [chainText_cons, behindDots, List.append_assoc, ← hrest, ← hcs]
        have hlength : 2 ≤ (first :: (init ++ [last])).length := by simp
        have hgetLast : (first :: (init ++ [last])).getLastD [] = last := by
          rw [← List.cons_append, List.getLastD_concat]
        rw [hmore, List.getLast?_concat, List.dropLast_concat, Option.map_some, if_pos hlength, hgetLast,
          ← List.cons_append, List.dropLast_concat, closing_past hlast rfl htext]
        rfl
  · simp [hstarts]

/-- The module that a piece of a text mentions. -/
def mentioned? (piece : Pattern.Piece) : Option String := piece.groups?.map fun groups => String.ofList groups.flatten

/-- Behind characters after which no chain may begin, the search goes on behind the last of them. -/
private theorem filterMap_pieces_append {x : Char} {taken : List Char}
    (h : ∀ y ∈ x :: taken, startsChainAfter (some y) = false) (cs : List Char) :
    (modulePattern.pieces (some x) (taken ++ cs)).filterMap mentioned? =
      (modulePattern.pieces (x :: taken).getLast? cs).filterMap mentioned? := by
  induction taken generalizing x with
  | nil => rfl
  | cons y taken ih =>
    obtain ⟨hx, hrest⟩ := List.forall_mem_cons.1 h
    have hnone : modulePattern.match? (some x) (y :: (taken ++ cs)) = none := by
      rw [match?_modulePattern, hx, if_neg Bool.false_ne_true]
    rw [List.cons_append, Pattern.pieces_of_match?_eq_none hnone, List.filterMap_cons_none (by rfl), ih hrest,
      List.getLast?_cons_cons]

private theorem filterMap_pieces {fuel : Nat} {before : Option Char} {cs : List Char} (hfuel : cs.length ≤ fuel) :
    (modulePattern.pieces before cs).filterMap mentioned? = mentionedFrom fuel before cs := by
  fun_induction mentionedFrom fuel before cs with
  | case1 before cs =>
    rw [List.eq_nil_of_length_eq_zero (Nat.le_zero.1 hfuel), Pattern.pieces_nil, List.filterMap_nil]
  | case2 fuel before => rw [Pattern.pieces_nil, List.filterMap_nil]
  | case3 fuel before c cs components rest hread onward hlength ih =>
    obtain ⟨hstarts, hchain⟩ := Option.ite_none_right_eq_some.1 hread
    have hshorter := length_lt_of_chain? hchain
    have hmatch := match?_modulePattern before (c :: cs)
    rw [if_pos hstarts, hchain, Option.bind_some, if_pos hlength] at hmatch
    rw [List.length_cons] at hfuel
    have hrest : rest.length ≤ fuel := by
      rw [List.length_cons] at hshorter
      omega
    rw [Pattern.pieces_of_match? hmatch hshorter, List.filterMap_cons_some (by rfl), ih hrest]
    simp [dotted, chainText, onward]
  | case4 fuel before c cs components rest hread onward hlength ih =>
    obtain ⟨hstarts, hchain⟩ := Option.ite_none_right_eq_some.1 hread
    obtain ⟨hlongest, hcs⟩ := chain?_eq_some_iff.1 hchain
    have hnone := match?_modulePattern before (c :: cs)
    rw [if_pos hstarts, hchain, Option.bind_some, if_neg hlength] at hnone
    obtain ⟨first, taken, htext⟩ := List.exists_cons_of_ne_nil hlongest.toIsChain.chainText_ne_nil
    have hskip (y : Char) (hy : y ∈ first :: taken) : startsChainAfter (some y) = false :=
      not_startsChainAfter_of_mem hlongest.isComponent (htext ▸ hy)
    have hlast := getLast?_chainText hlongest.ne_nil hlongest.isComponent
    rw [htext, List.cons_append] at hcs
    obtain ⟨rfl, rfl⟩ := List.cons_eq_cons.1 hcs
    have hrest : rest.length ≤ fuel := by
      rw [List.length_cons, List.length_append] at hfuel
      omega
    rw [Pattern.pieces_of_match?_eq_none hnone, List.filterMap_cons_none (by rfl), filterMap_pieces_append hskip,
      ← htext, hlast, ih hrest]
  | case5 fuel before c cs hread ih =>
    have hnone : modulePattern.match? before (c :: cs) = none := by
      rw [match?_modulePattern]
      split
      · next hstarts =>
        rw [if_pos hstarts] at hread
        rw [hread, Option.bind_none]
      · rfl
    rw [Pattern.pieces_of_match?_eq_none hnone, List.filterMap_cons_none (by rfl)]
    exact ih (Nat.le_of_succ_le_succ hfuel)

/-- The matches of the pattern are the chains that the scan reads. -/
theorem moduleMatches_eq (cs : List Char) : moduleMatches cs = mentionedFrom (cs.length + 1) none cs := by
  rw [← filterMap_pieces (Nat.le_succ _), moduleMatches, Pattern.findAll, List.map_filterMap]
  rfl

/-! ### Matches of the name pattern -/

private theorem takes_component : componentPattern.Takes IsComponent := by
  intro c d hd
  obtain ⟨taken, ⟨first, word, ⟨x, hx, rfl⟩, ⟨parts, hparts, rfl⟩, rfl⟩, hc⟩ :=
    ((Pattern.takes_one Text.isNameStart).seq (Pattern.takes_one Text.isWord).many) c d hd
  refine ⟨[x] ++ parts.flatten, ⟨x, parts.flatten, rfl, hx, fun y hy => ?_⟩, hc⟩
  obtain ⟨part, hpart, hy⟩ := List.mem_flatten.1 hy
  obtain ⟨z, hz, rfl⟩ := hparts part hpart
  rw [List.mem_singleton.1 hy]
  exact hz

private theorem takes_dotted : dottedPattern.Takes fun taken => ∃ component, IsComponent component ∧
    taken = '.' :: component := by
  intro c d hd
  obtain ⟨taken, ⟨first, component, ⟨x, hx, rfl⟩, hcomponent, rfl⟩, hc⟩ :=
    ((Pattern.takes_one (· == '.')).seq takes_component) c d hd
  rw [eq_of_beq hx] at hc
  exact ⟨'.' :: component, ⟨component, hcomponent, rfl⟩, hc⟩

private theorem exists_components_of_parts {parts : List (List Char)}
    (h : ∀ part ∈ parts, ∃ component, IsComponent component ∧ part = '.' :: component) :
    ∃ components, (∀ component ∈ components, IsComponent component) ∧ parts.flatten = behindDots components := by
  induction parts with
  | nil => exact ⟨[], by simp, rfl⟩
  | cons part parts ih =>
    obtain ⟨⟨component, hcomponent, rfl⟩, hparts⟩ := List.forall_mem_cons.1 h
    obtain ⟨components, hcomponents, hflatten⟩ := ih hparts
    refine ⟨component :: components, List.forall_mem_cons.2 ⟨hcomponent, hcomponents⟩, ?_⟩
    rw [List.flatten_cons, hflatten, behindDots_cons, List.cons_append]

private theorem isDottedName_of_fits {cs : List Char} (h : dottedNamePattern.fits cs = true) : IsDottedName cs := by
  obtain ⟨d, hd, hend⟩ := List.any_eq_true.1 h
  obtain ⟨taken, ⟨first, others, hfirst, ⟨second, last, ⟨component, hcomponent, rfl⟩, ⟨parts, hparts, rfl⟩, rfl⟩, rfl⟩,
    hcs⟩ := (takes_component.seq (takes_dotted.seq takes_dotted.many)) _ d hd
  obtain ⟨components, hcomponents, hflatten⟩ := exists_components_of_parts hparts
  refine ⟨first :: component :: components, by simp, ?_, ?_⟩
  · exact List.forall_mem_cons.2 ⟨hfirst, List.forall_mem_cons.2 ⟨hcomponent, hcomponents⟩⟩
  · rw [List.isEmpty_iff.1 hend, List.append_nil, hflatten] at hcs
    rw [chainText_cons, behindDots_cons]
    exact hcs

/-- A text that is read as a chain of two components or more, with nothing after it, is matched as a whole. -/
private theorem fits_of_next {cs first rest second after : List Char} (hfirst : component? cs = some (first, rest))
    (hnext : nextComponent? rest = some (second, after)) (hend : (moreComponents after).2 = []) :
    dottedNamePattern.fits cs = true := by
  let start : Cursor := { before := none, rest := cs, groups := [] }
  have hmany := mem_repeated_dotted after.length ((start.past first rest).past ('.' :: second) after) (Nat.le_refl _)
  have hway : _ ∈ dottedNamePattern.ways start :=
    List.mem_flatMap.2 ⟨start.past first rest, firstReads_component.mem_ways hfirst,
      List.mem_flatMap.2 ⟨_, firstReads_dotted.mem_ways (nextTaken?_of_next hnext), hmany⟩⟩
  exact List.any_eq_true.2 ⟨_, hway, List.isEmpty_iff.2 hend⟩

/-- The pattern matches the dotted names and no other text. -/
theorem fits_dottedNamePattern_iff (cs : List Char) : dottedNamePattern.fits cs = true ↔ IsDottedName cs := by
  constructor
  · exact isDottedName_of_fits
  · rintro ⟨components, hlength, hcomponents, rfl⟩
    have hne : components ≠ [] := List.ne_nil_of_length_pos (by omega)
    have hchain : chain? (chainText components) = some (components, []) :=
      chain?_eq_some_iff.2 ⟨isLongestChain_chainText hne hcomponents, (List.append_nil _).symm⟩
    obtain ⟨⟨first, rest⟩, hfirst, hread⟩ := Option.map_eq_some_iff.1 hchain
    have hread : (first :: (moreComponents rest).1, (moreComponents rest).2) = (components, []) := hread
    cases hnext : nextComponent? rest with
    | none =>
      -- a chain of one component is too short
      rw [moreComponents_of_next_eq_none hnext] at hread
      cases hread
      simp at hlength
    | some read =>
      rw [moreComponents_of_next hnext] at hread
      exact fits_of_next hfirst hnext (Prod.mk.inj hread).2

theorem mem_moduleMatches_iff {cs : List Char} {module : String} : module ∈ moduleMatches cs ↔ Mentions cs module := by
  rw [moduleMatches_eq, mem_mentionedFrom_iff (Nat.le_succ _), mentionsAfter_none]

end SchemaBindings.Target
