import Mathlib.Data.List.Basic

/-!
# Patterns

A pattern may match at a position of a text in several ways, which come in an order of preference: a repetition would
rather go on than end, and gives back what it took where the rest of the pattern does not follow. The first way
counts. A text is searched from left to right, and after a match the search goes on behind it.

The first way to repeat a character class takes the whole run, and every other way stops inside of it
(`ways_many_one`).
-/

namespace SchemaBindings.Text

/-- Patterns of texts. -/
inductive Pattern
  | one (accepts : Char → Bool)
  | seq (first second : Pattern)
  | many (body : Pattern)
  | group (body : Pattern)
  | notAfter (refuses : Char → Bool)

namespace Pattern

/-- A position in a text: the character before it, the text after it, and what the groups so far have taken. -/
structure Cursor where
  before : Option Char
  rest : List Char
  groups : List (List Char)

/-- The position behind a text that is taken. -/
def Cursor.past (c : Cursor) (taken rest : List Char) : Cursor :=
  { before := taken.getLast?.or c.before, rest, groups := c.groups }

/-- The text between two positions. -/
def Cursor.upTo (c d : Cursor) : List Char := c.rest.take (c.rest.length - d.rest.length)

/-- The position at which a group ends that starts at `c`. -/
def Cursor.closing (c d : Cursor) : Cursor := { d with groups := d.groups ++ [c.upTo d] }

/-- The ways to repeat a step that takes something, at most `n` times. -/
def repeated (step : Cursor → List Cursor) : Nat → Cursor → List Cursor
  | 0, c => [c]
  | n + 1, c => (step c).flatMap (fun d => if d.rest.length < c.rest.length then repeated step n d else []) ++ [c]

/-- Where a pattern may end that starts at a position, in order of preference. -/
def ways : Pattern → Cursor → List Cursor
  | one accepts, c =>
    match c.rest with
    | [] => []
    | x :: xs => if accepts x then [c.past [x] xs] else []
  | seq first second, c => (first.ways c).flatMap second.ways
  | many body, c => repeated body.ways c.rest.length c
  | group body, c => (body.ways c).map c.closing
  | notAfter refuses, c => if c.before.any refuses then [] else [c]

/-- Where the pattern ends at a position, if it matches there. -/
def match? (p : Pattern) (before : Option Char) (cs : List Char) : Option Cursor :=
  (p.ways { before, rest := cs, groups := [] }).head?

/-- Does the pattern match the whole text? -/
def fits (p : Pattern) (cs : List Char) : Bool :=
  (p.ways { before := none, rest := cs, groups := [] }).any (·.rest.isEmpty)

/-- What a search makes of a text: characters outside of matches, and the groups of each match. -/
inductive Piece
  | kept (c : Char)
  | found (groups : List (List Char))

/-- The pieces of a text after a character. A match takes at least one character. -/
def pieces (p : Pattern) (before : Option Char) (cs : List Char) : List Piece :=
  match cs with
  | [] => []
  | c :: cs =>
    match p.match? before (c :: cs) with
    | some d =>
      if d.rest.length < cs.length + 1 then .found d.groups :: p.pieces d.before d.rest
      else .kept c :: p.pieces (some c) cs
    | none => .kept c :: p.pieces (some c) cs
termination_by cs.length

/-- What a piece is rewritten as. -/
def Piece.rewritten (write : List (List Char) → List Char) : Piece → List Char
  | kept c => [c]
  | found groups => write groups

/-- The text with each match rewritten. -/
def rewrite (p : Pattern) (write : List (List Char) → List Char) (cs : List Char) : List Char :=
  (p.pieces none cs).flatMap (Piece.rewritten write)

def Piece.groups? : Piece → Option (List (List Char))
  | kept _ => none
  | found groups => some groups

/-- The groups of each match in a text. -/
def findAll (p : Pattern) (cs : List Char) : List (List (List Char)) := (p.pieces none cs).filterMap Piece.groups?

/-! ### Positions -/

@[simp]
theorem Cursor.rest_past (c : Cursor) (taken rest : List Char) : (c.past taken rest).rest = rest := rfl

theorem Cursor.past_nil {c : Cursor} {rest : List Char} (h : c.rest = rest) : c.past [] rest = c := by
  subst h
  rfl

theorem Cursor.past_past (c : Cursor) (taken more rest rest' : List Char) :
    (c.past taken rest).past more rest' = c.past (taken ++ more) rest' := by
  simp [past, List.getLast?_append, Option.or_assoc]

@[simp]
theorem Cursor.rest_closing (c d : Cursor) : (c.closing d).rest = d.rest := rfl

theorem Cursor.upTo_eq {c d : Cursor} {taken : List Char} (h : c.rest = taken ++ d.rest) : c.upTo d = taken := by
  simp [upTo, h]

/-! ### Ways -/

theorem findSome?_flatMap {α β γ : Type} (l : List α) (f : α → List β) (g : β → Option γ) :
    (l.flatMap f).findSome? g = l.findSome? fun a => (f a).findSome? g := by
  induction l with
  | nil => rfl
  | cons a l ih =>
    rw [List.flatMap_cons, List.findSome?_append, ih, List.findSome?_cons]
    cases (f a).findSome? g <;> rfl

theorem ways_one_cons (accepts : Char → Bool) {c : Cursor} {x : Char} {xs : List Char} (h : c.rest = x :: xs) :
    (one accepts).ways c = if accepts x then [c.past [x] xs] else [] := by
  rw [ways, h]

theorem ways_one_nil (accepts : Char → Bool) {c : Cursor} (h : c.rest = []) : (one accepts).ways c = [] := by
  rw [ways, h]

private theorem repeated_one (accepts : Char → Bool) (n : Nat) (c : Cursor) (hn : c.rest.length ≤ n) :
    ∃ partials, repeated (one accepts).ways n c =
        c.past (c.rest.takeWhile accepts) (c.rest.dropWhile accepts) :: partials ∧
      ∀ d ∈ partials, d.rest.head?.any accepts = true := by
  -- on the bound, which is no less than what is left, so that it is never what ends the run
  induction n generalizing c with
  | zero =>
    have hrest : c.rest = [] := List.eq_nil_of_length_eq_zero (Nat.le_zero.1 hn)
    refine ⟨[], ?_, by simp⟩
    rw [repeated, hrest, List.takeWhile_nil, List.dropWhile_nil, Cursor.past_nil hrest]
  | succ n ih =>
    cases hrest : c.rest with
    | nil =>
      refine ⟨[], ?_, by simp⟩
      rw [repeated, ways_one_nil accepts hrest, List.takeWhile_nil, List.dropWhile_nil,
        Cursor.past_nil hrest]
      rfl
    | cons x xs =>
      rw [repeated, ways_one_cons accepts hrest]
      by_cases hx : accepts x = true
      · have hlength : xs.length ≤ n := by
          rw [hrest, List.length_cons] at hn
          omega
        obtain ⟨partials, hfull, hpartials⟩ := ih (c.past [x] xs) hlength
        refine ⟨partials ++ [c], ?_, ?_⟩
        · rw [List.takeWhile_cons_of_pos hx, List.dropWhile_cons_of_pos hx]
          simp [hx, hrest, hfull, Cursor.past_past]
        · intro d hd
          rcases List.mem_append.1 hd with hd | hd
          · exact hpartials d hd
          · rw [List.mem_singleton.1 hd, hrest]
            exact hx
      · refine ⟨[], ?_, by simp⟩
        rw [if_neg hx, List.takeWhile_cons_of_neg hx, List.dropWhile_cons_of_neg hx, Cursor.past_nil hrest]
        rfl

/-- The whole run comes first, and the other ways stop inside of it. -/
theorem ways_many_one (accepts : Char → Bool) (c : Cursor) :
    ∃ partials, (many (one accepts)).ways c =
        c.past (c.rest.takeWhile accepts) (c.rest.dropWhile accepts) :: partials ∧
      ∀ d ∈ partials, d.rest.head?.any accepts = true :=
  repeated_one accepts c.rest.length c (Nat.le_refl _)

theorem head?_ways_seq (p q : Pattern) (c : Cursor) :
    ((seq p q).ways c).head? = (p.ways c).findSome? fun d => (q.ways d).head? := List.head?_flatMap

theorem head?_ways_one_seq (accepts : Char → Bool) (p : Pattern) {c : Cursor} {x : Char} {xs : List Char}
    (h : c.rest = x :: xs) :
    ((seq (one accepts) p).ways c).head? = if accepts x then (p.ways (c.past [x] xs)).head? else none := by
  rw [head?_ways_seq, ways_one_cons accepts h]
  by_cases hx : accepts x = true <;> simp [hx]

theorem head?_ways_group (p : Pattern) (c : Cursor) :
    ((group p).ways c).head? = (p.ways c).head?.map c.closing := List.head?_map

theorem head?_ways_many_one (accepts : Char → Bool) (c : Cursor) :
    ((many (one accepts)).ways c).head? = some (c.past (c.rest.takeWhile accepts) (c.rest.dropWhile accepts)) := by
  obtain ⟨partials, hways, -⟩ := ways_many_one accepts c
  rw [hways, List.head?_cons]

theorem findSome?_ways_group {α : Type} (p : Pattern) (c : Cursor) (g : Cursor → Option α) :
    ((group p).ways c).findSome? g = (p.ways c).findSome? fun d => g (c.closing d) := by
  rw [ways, List.findSome?_map]
  rfl

/-! ### Texts that are taken -/

/-- Every way of the pattern takes a text of this kind. -/
def Takes (p : Pattern) (kind : List Char → Prop) : Prop :=
  ∀ c, ∀ d ∈ p.ways c, ∃ taken, kind taken ∧ c.rest = taken ++ d.rest

theorem takes_one (accepts : Char → Bool) : Takes (one accepts) fun taken => ∃ x, accepts x = true ∧ taken = [x] := by
  intro c d hd
  cases hrest : c.rest with
  | nil =>
    rw [ways_one_nil accepts hrest] at hd
    cases hd
  | cons x xs =>
    rw [ways_one_cons accepts hrest, List.mem_ite_nil_right, List.mem_singleton] at hd
    obtain ⟨hx, rfl⟩ := hd
    exact ⟨[x], ⟨x, hx, rfl⟩, rfl⟩

theorem Takes.seq {p q : Pattern} {kind kind' : List Char → Prop} (hp : p.Takes kind) (hq : q.Takes kind') :
    (Pattern.seq p q).Takes fun taken => ∃ first second, kind first ∧ kind' second ∧ taken = first ++ second := by
  intro c e he
  obtain ⟨d, hd, he⟩ := List.mem_flatMap.1 he
  obtain ⟨first, hfirst, hc⟩ := hp c d hd
  obtain ⟨second, hsecond, hd⟩ := hq d e he
  exact ⟨first ++ second, ⟨first, second, hfirst, hsecond, rfl⟩, by rw [hc, hd, List.append_assoc]⟩

theorem Takes.many {p : Pattern} {kind : List Char → Prop} (h : p.Takes kind) :
    (Pattern.many p).Takes fun taken =>
      ∃ parts : List (List Char), (∀ part ∈ parts, kind part) ∧ taken = parts.flatten := by
  have hrepeated (n : Nat) : ∀ c, ∀ e ∈ repeated p.ways n c,
      ∃ parts : List (List Char), (∀ part ∈ parts, kind part) ∧ c.rest = parts.flatten ++ e.rest := by
    induction n with
    | zero =>
      intro c e he
      rw [List.mem_singleton.1 he]
      exact ⟨[], by simp, rfl⟩
    | succ n ih =>
      intro c e he
      rcases List.mem_append.1 he with he | he
      · obtain ⟨d, hd, he⟩ := List.mem_flatMap.1 he
        rw [List.mem_ite_nil_right] at he
        obtain ⟨part, hpart, hc⟩ := h c d hd
        obtain ⟨parts, hparts, hd⟩ := ih d e he.2
        refine ⟨part :: parts, List.forall_mem_cons.2 ⟨hpart, hparts⟩, ?_⟩
        rw [hc, hd, List.flatten_cons, List.append_assoc]
      · rw [List.mem_singleton.1 he]
        exact ⟨[], by simp, rfl⟩
  intro c e he
  obtain ⟨parts, hparts, hc⟩ := hrepeated c.rest.length c e he
  exact ⟨parts.flatten, ⟨parts, hparts, rfl⟩, hc⟩

/-! ### Pieces -/

theorem pieces_nil (p : Pattern) (before : Option Char) : p.pieces before [] = [] := by
  rw [pieces]

theorem pieces_of_match? {p : Pattern} {before : Option Char} {cs : List Char} {d : Cursor}
    (h : p.match? before cs = some d) (htakes : d.rest.length < cs.length) :
    p.pieces before cs = .found d.groups :: p.pieces d.before d.rest := by
  cases cs with
  | nil => cases htakes
  | cons c cs => rw [pieces, h]; exact if_pos htakes

theorem pieces_of_match?_eq_none {p : Pattern} {before : Option Char} {c : Char} {cs : List Char}
    (h : p.match? before (c :: cs) = none) : p.pieces before (c :: cs) = .kept c :: p.pieces (some c) cs := by
  rw [pieces, h]

end Pattern

end SchemaBindings.Text
