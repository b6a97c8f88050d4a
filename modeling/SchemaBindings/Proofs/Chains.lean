import SchemaBindings.Proofs.Components
import SchemaBindings.Proofs.PackageFiles

/-!
# Longest chains

A chain at the front of a text is a list of components joined by dots with which the text begins. The reader of
targets finds the longest one (`chain?_eq_some_iff`), so a target is split just if it is a chain as a whole
(`split?_eq_some_iff`), and the scan of an expression, which skips each chain it has read, still sees every longest
chain that may start where it stands (`mem_mentionedFrom_iff`): inside of a chain, none may.
-/

namespace SchemaBindings.Target

/-! ### Components at the front -/

theorem isWord_dot : Text.isWord '.' = false := by decide +kernel

/-- A component goes on as far as word characters do. -/
theorem component?_append {component : List Char} (h : IsComponent component) (cs : List Char) :
    component? (component ++ cs) = some (component ++ cs.takeWhile Text.isWord, cs.dropWhile Text.isWord) := by
  obtain ⟨c, word, rfl, hc, hword⟩ := h
  rw [List.cons_append, component?, if_pos hc, List.takeWhile_append_of_pos hword, List.dropWhile_append_of_pos hword]
  rfl

theorem eq_append_of_component? {cs component rest : List Char} (h : component? cs = some (component, rest)) :
    cs = component ++ rest ∧ rest.head?.any Text.isWord = false := by
  match cs, h with
  | c :: cs, h =>
    simp only [component?] at h
    split at h
    · obtain ⟨rfl, rfl⟩ := Prod.mk.inj (Option.some.inj h)
      refine ⟨by rw [List.cons_append, List.takeWhile_append_dropWhile], ?_⟩
      have hhead := List.head?_dropWhile_not Text.isWord cs
      cases hrest : (cs.dropWhile Text.isWord).head? with
      | none => rfl
      | some x =>
        rw [hrest] at hhead
        simpa using hhead
    · cases h

/-- The component behind a dot. -/
def nextComponent? : List Char → Option (List Char × List Char)
  | '.' :: cs => component? cs
  | _ => none

theorem nextComponent?_dot (cs : List Char) : nextComponent? ('.' :: cs) = component? cs := rfl

theorem nextComponent?_of_ne {x : Char} (h : x ≠ '.') (xs : List Char) : nextComponent? (x :: xs) = none := by
  unfold nextComponent?
  split
  · next he => exact absurd (List.cons_eq_cons.1 he).1 h
  · rfl

theorem eq_append_of_next {cs component rest : List Char} (h : nextComponent? cs = some (component, rest)) :
    cs = '.' :: (component ++ rest) := by
  unfold nextComponent? at h
  split at h
  · rw [← (eq_append_of_component? h).1]
  · cases h

theorem moreComponents_of_next {cs component rest : List Char} (h : nextComponent? cs = some (component, rest)) :
    moreComponents cs = (component :: (moreComponents rest).1, (moreComponents rest).2) := by
  unfold nextComponent? at h
  split at h
  · next cs =>
    rw [moreComponents]
    split
    · next hc => rw [h] at hc; cases hc; rfl
    · next hc => rw [h] at hc; cases hc
  · cases h

theorem moreComponents_of_next_eq_none {cs : List Char} (h : nextComponent? cs = none) :
    moreComponents cs = ([], cs) := by
  unfold nextComponent? at h
  split at h
  · next cs =>
    rw [moreComponents]
    split
    · next hc => rw [h] at hc; cases hc
    · rfl
  · next hcs => rw [moreComponents]; exact hcs

/-! ### Components behind dots -/

/-- Components, with a dot before each. -/
def behindDots (components : List (List Char)) : List Char := components.flatMap ('.' :: ·)

theorem behindDots_cons (component : List Char) (components : List (List Char)) :
    behindDots (component :: components) = '.' :: (component ++ behindDots components) := List.flatMap_cons

/-- Components, with dots between them. -/
def chainText (components : List (List Char)) : List Char := ['.'].intercalate components

theorem chainText_cons (component : List Char) (components : List (List Char)) :
    chainText (component :: components) = component ++ behindDots components := by
  induction components generalizing component with
  | nil => simp [chainText, behindDots]
  | cons next components ih =>
    have hcons : chainText (component :: next :: components) = component ++ ['.'] ++ chainText (next :: components) :=
      List.intercalate_cons_cons
    rw [hcons, ih, behindDots_cons, List.append_assoc, List.singleton_append]

theorem chainText_concat {components : List (List Char)} (hne : components ≠ []) (last : List Char) :
    chainText (components ++ [last]) = chainText components ++ '.' :: last := by
  obtain ⟨component, components, rfl⟩ := List.exists_cons_of_ne_nil hne
  rw [List.cons_append, chainText_cons, chainText_cons, behindDots, behindDots, List.flatMap_append,
    List.flatMap_singleton, List.append_assoc]

theorem dot_cons_chainText {components : List (List Char)} (h : components ≠ []) :
    '.' :: chainText components = behindDots components := by
  obtain ⟨component, components, rfl⟩ := List.exists_cons_of_ne_nil h
  rw [chainText_cons, behindDots_cons]

theorem eq_append_moreComponents (cs : List Char) :
    cs = behindDots (moreComponents cs).1 ++ (moreComponents cs).2 := by
  fun_induction moreComponents cs with
  | case1 afterDot component rest hcomponent hlt components last hmore ih =>
    have hcs := (eq_append_of_component? hcomponent).1
    rw [hmore] at ih
    rw [behindDots_cons, List.cons_append, List.append_assoc, ← ih, ← hcs]
  | case2 => rfl
  | case3 => rfl

/-- No list of components behind dots is longer than the one that is read. -/
theorem length_behindDots_le {components : List (List Char)} (h : ∀ component ∈ components, IsComponent component)
    (cs : List Char) :
    (behindDots components).length ≤ (behindDots (moreComponents (behindDots components ++ cs)).1).length := by
  induction components with
  | nil => exact Nat.zero_le _
  | cons component components ih =>
    obtain ⟨hcomponent, hcomponents⟩ := List.forall_mem_cons.1 h
    have hnext := component?_append hcomponent (behindDots components ++ cs)
    rw [← List.append_assoc, ← nextComponent?_dot] at hnext
    rw [behindDots_cons, List.cons_append, moreComponents_of_next hnext, behindDots_cons, List.length_cons,
      List.length_cons]
    cases components with
    | nil => simp [behindDots]
    | cons next components =>
      -- the component ends where the next dot stands
      have hdot : behindDots (next :: components) ++ cs = '.' :: (next ++ behindDots components ++ cs) := by
        rw [behindDots_cons, List.cons_append]
      have hneg : ¬ Text.isWord '.' = true := by simp [isWord_dot]
      have htake : (behindDots (next :: components) ++ cs).takeWhile Text.isWord = [] := by
        rw [hdot, List.takeWhile_cons_of_neg hneg]
      have hdrop : (behindDots (next :: components) ++ cs).dropWhile Text.isWord =
          behindDots (next :: components) ++ cs := by
        rw [hdot, List.dropWhile_cons_of_neg hneg]
      have hle := ih hcomponents
      rw [htake, hdrop, List.append_nil, List.length_append, List.length_append]
      omega

/-! ### Chains -/

/-- A chain at the front of a text. -/
structure IsChain (components : List (List Char)) (cs : List Char) : Prop where
  ne_nil : components ≠ []
  isComponent : ∀ component ∈ components, IsComponent component
  front : chainText components <+: cs

/-- A chain at the front of a text that no other one there is longer than. -/
structure IsLongestChain (components : List (List Char)) (cs : List Char) : Prop extends IsChain components cs where
  longest : ∀ others, IsChain others cs → (chainText others).length ≤ (chainText components).length

theorem IsChain.chainText_ne_nil {components : List (List Char)} {cs : List Char} (h : IsChain components cs) :
    chainText components ≠ [] := by
  obtain ⟨component, components', rfl⟩ := List.exists_cons_of_ne_nil h.ne_nil
  rw [chainText_cons]
  exact List.append_ne_nil_of_left_ne_nil (h.isComponent component List.mem_cons_self).ne_nil _

theorem chainText_inj {components others : List (List Char)} (hne : components ≠ []) (hne' : others ≠ [])
    (h : ∀ component ∈ components, IsComponent component) (h' : ∀ component ∈ others, IsComponent component)
    (htext : chainText components = chainText others) : components = others := by
  have hparts (l : List (List Char)) (hl : l ≠ []) (hcomponents : ∀ component ∈ l, IsComponent component) :
      Text.parts '.' (chainText l) = l := by
    have hsingle : l.flatMap (Text.parts '.') = l.flatMap fun component => [component] :=
      List.flatMap_congr fun component hcomponent =>
        Text.parts_of_not_mem (hcomponents component hcomponent).dot_not_mem
    rw [chainText, Text.parts_intercalate hl, hsingle, List.flatMap_singleton']
  rw [← hparts components hne h, htext, hparts others hne' h']

theorem IsLongestChain.unique {components others : List (List Char)} {cs : List Char}
    (h : IsLongestChain components cs) (h' : IsLongestChain others cs) : components = others := by
  have hlength := Nat.le_antisymm (h'.longest components h.toIsChain) (h.longest others h'.toIsChain)
  have htext : chainText components = chainText others :=
    (List.prefix_of_prefix_length_le h.front h'.front (Nat.le_of_eq hlength)).eq_of_length hlength
  exact chainText_inj h.ne_nil h'.ne_nil h.isComponent h'.isComponent htext

/-- The chain that is read is what would be read behind a dot. -/
theorem chain?_eq_some_iff_moreComponents {cs rest : List Char} {components : List (List Char)} :
    chain? cs = some (components, rest) ↔ moreComponents ('.' :: cs) = (components, rest) ∧ components ≠ [] := by
  unfold chain?
  cases h : component? cs with
  | none =>
    have hnext : nextComponent? ('.' :: cs) = none := h
    rw [moreComponents_of_next_eq_none hnext, Option.map_none]
    constructor
    · intro he
      cases he
    · rintro ⟨he, hne⟩
      exact absurd (Prod.mk.inj he).1.symm hne
  | some first =>
    obtain ⟨component, after⟩ := first
    have hnext : nextComponent? ('.' :: cs) = some (component, after) := h
    rw [moreComponents_of_next hnext, Option.map_some, Option.some.injEq]
    constructor
    · intro he
      cases he
      exact ⟨rfl, List.cons_ne_nil _ _⟩
    · exact And.left

theorem eq_append_of_chain? {cs rest : List Char} {components : List (List Char)}
    (h : chain? cs = some (components, rest)) : cs = chainText components ++ rest := by
  obtain ⟨hmore, hne⟩ := chain?_eq_some_iff_moreComponents.1 h
  have hcs := eq_append_moreComponents ('.' :: cs)
  rw [hmore, ← dot_cons_chainText hne, List.cons_append] at hcs
  exact List.tail_eq_of_cons_eq hcs

theorem length_chainText_le {cs rest : List Char} {components others : List (List Char)}
    (h : chain? cs = some (components, rest)) (hothers : IsChain others cs) :
    (chainText others).length ≤ (chainText components).length := by
  obtain ⟨hmore, hne⟩ := chain?_eq_some_iff_moreComponents.1 h
  obtain ⟨after, hafter⟩ := hothers.front
  have hle := length_behindDots_le hothers.isComponent after
  rw [← dot_cons_chainText hothers.ne_nil, List.cons_append, hafter, hmore, ← dot_cons_chainText hne] at hle
  simpa using hle

theorem isLongestChain_of_chain? {cs rest : List Char} {components : List (List Char)}
    (h : chain? cs = some (components, rest)) : IsLongestChain components cs where
  ne_nil := (chain?_eq_some_iff_moreComponents.1 h).2
  isComponent := isComponent_of_chain? h
  front := ⟨rest, (eq_append_of_chain? h).symm⟩
  longest _ := length_chainText_le h

/-- The reader finds the longest chain. -/
theorem chain?_eq_some_iff {cs rest : List Char} {components : List (List Char)} :
    chain? cs = some (components, rest) ↔ IsLongestChain components cs ∧ cs = chainText components ++ rest := by
  constructor
  · intro h
    exact ⟨isLongestChain_of_chain? h, eq_append_of_chain? h⟩
  · rintro ⟨hlongest, hcs⟩
    -- the first component of the chain shows that some chain is read
    obtain ⟨component, components', hcons⟩ := List.exists_cons_of_ne_nil hlongest.ne_nil
    have hfirst := component?_append (hlongest.isComponent component (hcons ▸ List.mem_cons_self))
      (behindDots components' ++ rest)
    rw [← List.append_assoc, ← chainText_cons, ← hcons, ← hcs] at hfirst
    obtain ⟨⟨found, after⟩, hfound⟩ : ∃ found, chain? cs = some found := by
      rw [chain?, hfirst]
      exact ⟨_, rfl⟩
    have heq : found = components := (isLongestChain_of_chain? hfound).unique hlongest
    subst heq
    have hafter : after = rest := List.append_cancel_left ((eq_append_of_chain? hfound).symm.trans hcs)
    rw [hfound, hafter]

theorem length_lt_of_chain? {cs rest : List Char} {components : List (List Char)}
    (h : chain? cs = some (components, rest)) : rest.length < cs.length := by
  obtain ⟨hlongest, hcs⟩ := chain?_eq_some_iff.1 h
  have hpos := List.length_pos_iff.2 hlongest.toIsChain.chainText_ne_nil
  rw [hcs, List.length_append]
  omega

theorem chain?_eq_none_iff {cs : List Char} : chain? cs = none ↔ ∀ components, ¬ IsLongestChain components cs := by
  constructor
  · rintro h components hlongest
    obtain ⟨rest, hrest⟩ := hlongest.front
    have hsome := chain?_eq_some_iff.2 ⟨hlongest, hrest.symm⟩
    rw [h] at hsome
    cases hsome
  · intro h
    cases hchain : chain? cs with
    | none => rfl
    | some found => exact absurd (isLongestChain_of_chain? hchain) (h found.1)

/-! ### Dotted names -/

/-- A text that is a chain of at least two components. -/
def IsDottedName (cs : List Char) : Prop :=
  ∃ components, 2 ≤ components.length ∧ (∀ component ∈ components, IsComponent component) ∧ cs = chainText components

theorem isLongestChain_chainText {components : List (List Char)} (hne : components ≠ [])
    (h : ∀ component ∈ components, IsComponent component) : IsLongestChain components (chainText components) where
  ne_nil := hne
  isComponent := h
  front := List.prefix_rfl
  longest _ hothers := hothers.front.length_le

/-- A target is split just if it is a dotted name, before its last component. -/
theorem split?_eq_some_iff {target module imported : String} :
    split? target = some (module, imported) ↔
      ∃ components, 2 ≤ components.length ∧ (∀ component ∈ components, IsComponent component) ∧
        target.toList = chainText components ∧ module = dotted components.dropLast ∧
        imported = String.ofList (components.getLastD []) := by
  unfold split?
  constructor
  · intro h
    split at h
    · next components hchain =>
      split at h
      · next hlength =>
        cases h
        refine ⟨components, hlength, isComponent_of_chain? hchain, ?_, rfl, rfl⟩
        rw [eq_append_of_chain? hchain, List.append_nil]
      · cases h
    · cases h
  · rintro ⟨components, hlength, hcomponents, htarget, rfl, rfl⟩
    have hne : components ≠ [] := List.ne_nil_of_length_pos (by omega)
    have hchain : chain? target.toList = some (components, []) :=
      chain?_eq_some_iff.2 ⟨htarget ▸ isLongestChain_chainText hne hcomponents, by rw [htarget, List.append_nil]⟩
    simp only [hchain]
    rw [if_pos hlength]

/-! ### Mentions -/

/-- Where a chain may begin, in a text that follows `before`, a longest chain of at least two components begins, and all
of it but the last component is the module. -/
def MentionsAfter (before : Option Char) (cs : List Char) (module : String) : Prop :=
  ∃ front back components, cs = front ++ back ∧ startsChainAfter (front.getLast?.or before) = true ∧
    IsLongestChain components back ∧ 2 ≤ components.length ∧ module = dotted components.dropLast

theorem not_mentionsAfter_nil (before : Option Char) (module : String) : ¬ MentionsAfter before [] module := by
  rintro ⟨front, back, components, hcs, -, hlongest, -⟩
  obtain ⟨rfl, rfl⟩ := List.append_eq_nil_iff.1 hcs.symm
  have hchain : chain? [] = some (components, []) :=
    chain?_eq_some_iff.2 ⟨hlongest, by rw [List.prefix_nil.1 hlongest.front]; rfl⟩
  cases hchain

theorem mentionsAfter_cons (before : Option Char) (c : Char) (cs : List Char) (module : String) :
    MentionsAfter before (c :: cs) module ↔
      (startsChainAfter before = true ∧ ∃ components, IsLongestChain components (c :: cs) ∧ 2 ≤ components.length ∧
        module = dotted components.dropLast) ∨ MentionsAfter (some c) cs module := by
  have hlast (front : List Char) : (c :: front).getLast?.or before = front.getLast?.or (some c) := by
    rw [List.getLast?_cons]
    cases front.getLast? <;> rfl
  constructor
  · rintro ⟨front, back, components, hcs, hstarts, hchain⟩
    cases front with
    | nil =>
      rw [List.nil_append] at hcs
      exact .inl ⟨hstarts, components, hcs ▸ hchain⟩
    | cons first front =>
      obtain ⟨rfl, rfl⟩ := List.cons_eq_cons.1 hcs
      exact .inr ⟨front, back, components, rfl, hlast front ▸ hstarts, hchain⟩
  · rintro (⟨hstarts, components, hchain⟩ | ⟨front, back, components, rfl, hstarts, hchain⟩)
    · exact ⟨[], c :: cs, components, rfl, hstarts, hchain⟩
    · exact ⟨c :: front, back, components, rfl, (hlast front).symm ▸ hstarts, hchain⟩

/-- Behind characters after which no chain may begin, the text is read on behind the last of them. -/
theorem mentionsAfter_append {x : Char} {taken : List Char} (h : ∀ y ∈ x :: taken, startsChainAfter (some y) = false)
    (cs : List Char) (module : String) :
    MentionsAfter (some x) (taken ++ cs) module ↔ MentionsAfter (x :: taken).getLast? cs module := by
  induction taken generalizing x with
  | nil => rfl
  | cons y taken ih =>
    obtain ⟨hx, hrest⟩ := List.forall_mem_cons.1 h
    rw [List.cons_append, mentionsAfter_cons, hx, ih hrest, List.getLast?_cons_cons]
    simp

theorem not_startsChainAfter_of_mem {components : List (List Char)}
    (h : ∀ component ∈ components, IsComponent component) {c : Char} (hc : c ∈ chainText components) :
    startsChainAfter (some c) = false := by
  cases components with
  | nil => cases hc
  | cons component components =>
    have hword : Text.isWord c = true ∨ c = '.' := by
      rw [chainText_cons, List.mem_append, behindDots, List.mem_flatMap] at hc
      rcases hc with hc | ⟨other, hother, hc⟩
      · exact .inl ((h component List.mem_cons_self).isWord c hc)
      · rcases List.mem_cons.1 hc with hc | hc
        · exact .inr hc
        · exact .inl ((h other (List.mem_cons_of_mem component hother)).isWord c hc)
    rcases hword with hword | rfl
    · simp [startsChainAfter, hword]
    · rfl

theorem getLast?_chainText {components : List (List Char)} (hne : components ≠ [])
    (h : ∀ component ∈ components, IsComponent component) :
    (chainText components).getLast? = (components.getLastD []).getLast? := by
  obtain ⟨init, last, rfl⟩ := List.eq_nil_or_concat' components |>.resolve_left hne
  obtain ⟨before, hbefore⟩ := Text.exists_intercalate_append ['.'] init
  have hlast : IsComponent last := h last (by simp)
  rw [chainText, hbefore, List.getLast?_append_of_ne_nil _ hlast.ne_nil]
  simp

/-- What is mentioned after a chain is mentioned behind it. -/
private theorem mentionsAfter_of_chain? {before : Option Char} {c : Char} {cs rest : List Char}
    {components : List (List Char)} (hstarts : startsChainAfter before = true)
    (h : chain? (c :: cs) = some (components, rest)) (module : String) :
    MentionsAfter before (c :: cs) module ↔
      (2 ≤ components.length ∧ module = dotted components.dropLast) ∨
        MentionsAfter (components.getLastD []).getLast? rest module := by
  obtain ⟨hlongest, hcs⟩ := chain?_eq_some_iff.1 h
  have hmem {y : Char} (hy : y ∈ chainText components) : startsChainAfter (some y) = false :=
    not_startsChainAfter_of_mem hlongest.isComponent hy
  have hlast := getLast?_chainText hlongest.ne_nil hlongest.isComponent
  have honly : (∃ others, IsLongestChain others (c :: cs) ∧ 2 ≤ others.length ∧ module = dotted others.dropLast) ↔
      2 ≤ components.length ∧ module = dotted components.dropLast := by
    constructor
    · rintro ⟨others, hothers, hrest⟩
      exact hothers.unique hlongest ▸ hrest
    · intro hrest
      exact ⟨components, hlongest, hrest⟩
  rw [mentionsAfter_cons, hstarts, eq_self, true_and, honly]
  obtain ⟨first, taken, htext⟩ := List.exists_cons_of_ne_nil hlongest.toIsChain.chainText_ne_nil
  rw [htext, List.cons_append] at hcs
  obtain ⟨rfl, rfl⟩ := List.cons_eq_cons.1 hcs
  rw [mentionsAfter_append (fun y hy => hmem (htext ▸ hy)), ← htext, hlast]

/-- The scan lists what is mentioned. -/
theorem mem_mentionedFrom_iff {fuel : Nat} {before : Option Char} {cs : List Char} (hfuel : cs.length ≤ fuel)
    (module : String) : module ∈ mentionedFrom fuel before cs ↔ MentionsAfter before cs module := by
  fun_induction mentionedFrom fuel before cs with
  | case1 before cs =>
    rw [List.eq_nil_of_length_eq_zero (Nat.le_zero.1 hfuel)]
    simpa using not_mentionsAfter_nil before module
  | case2 fuel before => simpa using not_mentionsAfter_nil before module
  | case3 fuel before c cs components rest hread onward hlength ih =>
    obtain ⟨hstarts, hchain⟩ := Option.ite_none_right_eq_some.1 hread
    have hshorter := length_lt_of_chain? hchain
    rw [List.length_cons] at hfuel hshorter
    rw [List.mem_cons, ih (by omega), mentionsAfter_of_chain? hstarts hchain]
    simp [hlength]
  | case4 fuel before c cs components rest hread onward hlength ih =>
    obtain ⟨hstarts, hchain⟩ := Option.ite_none_right_eq_some.1 hread
    have hshorter := length_lt_of_chain? hchain
    rw [List.length_cons] at hfuel hshorter
    rw [ih (by omega), mentionsAfter_of_chain? hstarts hchain]
    simp [hlength]
  | case5 fuel before c cs hread ih =>
    have hnone : ¬ (startsChainAfter before = true ∧ ∃ components, IsLongestChain components (c :: cs) ∧
        2 ≤ components.length ∧ module = dotted components.dropLast) := by
      rintro ⟨hstarts, components, hlongest, -⟩
      rw [if_pos hstarts] at hread
      exact chain?_eq_none_iff.1 hread components hlongest
    rw [List.length_cons] at hfuel
    rw [ih (by omega), mentionsAfter_cons, or_iff_right hnone]

/-- The text mentions the module: at a position that follows no word character and no dot, a longest chain of at least
two components begins, and the module is all of it but the last component. -/
def Mentions (cs : List Char) (module : String) : Prop :=
  ∃ front back components, cs = front ++ back ∧ startsChainAfter front.getLast? = true ∧
    IsLongestChain components back ∧ 2 ≤ components.length ∧ module = dotted components.dropLast

theorem mentionsAfter_none (cs : List Char) (module : String) : MentionsAfter none cs module ↔ Mentions cs module := by
  simp [MentionsAfter, Mentions]

theorem mem_modules_iff {target module : String} : module ∈ modules target ↔ Mentions target.toList module := by
  rw [← mentionsAfter_none, ← mem_mentionedFrom_iff (Nat.le_succ _)]
  exact mem_ascendingTexts

end SchemaBindings.Target
