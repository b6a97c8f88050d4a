import SchemaBindings.Proofs.Patterns
import SchemaBindings.Proofs.SnakeCase

/-!
# Where snake case puts low lines

Snake case searches a name twice. The first search takes a character and a capitalized word after it, the second one a
small letter or digit and a capital after it, and each puts a low line between the two. A match may take along what
another one would have begun with; still, the two searches together put one low line at each place that a rule on three
neighbouring characters names, and none elsewhere (`snakeCase_local`).
-/

namespace SchemaBindings.Naming

open Text

/-! ### The searches -/

/-- A character of the line, and a capital with small letters after it. -/
def capitalizedWord : Pattern :=
  .seq (.group (.one (· != '\n')))
    (.group (.seq (.one Char.isUpper) (.seq (.one Char.isLower) (.many (.one Char.isLower)))))

/-- A small letter or digit, and a capital. -/
def innerCapital : Pattern :=
  .seq (.group (.one fun c => c.isLower || c.isDigit)) (.group (.one Char.isUpper))

/-- Each match is written with a low line between its two groups. -/
def setApart (p : Pattern) (cs : List Char) : List Char := p.rewrite (List.intercalate ['_']) cs

/-- The first group takes one character. -/
private theorem match?_group_seq (accepts : Char → Bool) (p : Pattern) (before : Option Char) (a : Char)
    (cs : List Char) :
    (Pattern.seq (.group (.one accepts)) p).match? before (a :: cs) =
      if accepts a then (p.ways { before := some a, rest := cs, groups := [[a]] }).head? else none := by
  rw [Pattern.match?, Pattern.head?_ways_seq, Pattern.findSome?_ways_group, Pattern.ways_one_cons _ rfl]
  by_cases ha : accepts a = true
  · simp [ha, Pattern.Cursor.closing, Pattern.Cursor.upTo, Pattern.Cursor.past]
  · simp [ha]

private theorem match?_innerCapital (before : Option Char) (a b : Char) (cs : List Char) :
    innerCapital.match? before (a :: b :: cs) =
      if (a.isLower || a.isDigit) && b.isUpper then some { before := some b, rest := cs, groups := [[a], [b]] }
      else none := by
  rw [innerCapital, match?_group_seq, Pattern.head?_ways_group, Pattern.ways_one_cons _ rfl]
  by_cases ha : (a.isLower || a.isDigit) = true
  · by_cases hb : b.isUpper = true
    · simp [ha, hb, Pattern.Cursor.closing, Pattern.Cursor.upTo, Pattern.Cursor.past]
    · simp [hb]
  · simp [ha]

private theorem match?_capitalizedWord (before : Option Char) (a b c : Char) (cs : List Char) :
    capitalizedWord.match? before (a :: b :: c :: cs) =
      if a != '\n' && b.isUpper && c.isLower then
        some { before := (c :: cs.takeWhile Char.isLower).getLast?, rest := cs.dropWhile Char.isLower,
               groups := [[a], b :: c :: cs.takeWhile Char.isLower] }
      else none := by
  rw [capitalizedWord, match?_group_seq, Pattern.head?_ways_group, Pattern.head?_ways_one_seq _ _ rfl,
    Pattern.head?_ways_one_seq _ _ rfl, Pattern.head?_ways_many_one]
  have hgroup (d : Pattern.Cursor) (hd : d.rest = cs.dropWhile Char.isLower) :
      Pattern.Cursor.upTo { before := some a, rest := b :: c :: cs, groups := [[a]] } d =
        b :: c :: cs.takeWhile Char.isLower := by
    refine Pattern.Cursor.upTo_eq ?_
    rw [hd, List.cons_append, List.cons_append, List.takeWhile_append_dropWhile]
  by_cases ha : (a != '\n') = true
  · by_cases hb : b.isUpper = true
    · by_cases hc : c.isLower = true
      · simp [ha, hb, hc, Pattern.Cursor.closing, hgroup, Pattern.Cursor.past, List.getLast?_cons]
      · simp [hc]
    · simp [hb]
  · simp [ha]

private theorem match?_capitalizedWord_of_short {before : Option Char} {cs : List Char} (h : cs.length < 3) :
    capitalizedWord.match? before cs = none := by
  match cs, h with
  | [], _ => rfl
  | [a], _ =>
    rw [capitalizedWord, match?_group_seq]
    split <;> rfl
  | [a, b], _ =>
    rw [capitalizedWord, match?_group_seq, Pattern.head?_ways_group, Pattern.head?_ways_one_seq _ _ rfl]
    simp [Pattern.ways, Pattern.Cursor.past]

/-! ### The two passes are the two searches -/

/-- Behind a run of small letters the first pass goes on as at the start. -/
private theorem markWords_run (cs : List Char) :
    markWords true cs = cs.takeWhile Char.isLower ++ markWords false (cs.dropWhile Char.isLower) := by
  induction cs with
  | nil => rfl
  | cons c cs ih =>
    by_cases hc : c.isLower = true
    · rw [markWords_of_isLower hc, ih, List.takeWhile_cons_of_pos hc, List.dropWhile_cons_of_pos hc, List.cons_append]
    · rw [List.takeWhile_cons_of_neg hc, List.dropWhile_cons_of_neg hc, List.nil_append]
      match cs with
      | [] | [_] => rfl
      | b :: c' :: cs => simp [markWords, hc]

private theorem flatMap_pieces_capitalizedWord (before : Option Char) (cs : List Char) :
    (capitalizedWord.pieces before cs).flatMap (Pattern.Piece.rewritten (List.intercalate ['_'])) =
      markWords false cs := by
  -- on the length, since a match goes past a whole word
  induction hn : cs.length using Nat.strongRecOn generalizing before cs with
  | ind n ih =>
    subst hn
    cases cs with
    | nil => rw [Pattern.pieces_nil]; rfl
    | cons a cs =>
      have hkept (hnone : capitalizedWord.match? before (a :: cs) = none)
          (hmark : markWords false (a :: cs) = a :: markWords false cs) :
          (capitalizedWord.pieces before (a :: cs)).flatMap (Pattern.Piece.rewritten (List.intercalate ['_'])) =
            markWords false (a :: cs) := by
        rw [Pattern.pieces_of_match?_eq_none hnone, List.flatMap_cons, ih _ (Nat.lt_succ_self _) (some a) cs rfl, hmark]
        rfl
      match cs with
      | [] | [_] => exact hkept (match?_capitalizedWord_of_short (by simp)) rfl
      | b :: c :: cs =>
        by_cases hword : (a != '\n' && b.isUpper && c.isLower) = true
        · have hmatch := match?_capitalizedWord before a b c cs
          rw [if_pos hword] at hmatch
          have hlength : (cs.dropWhile Char.isLower).length ≤ cs.length := (List.dropWhile_sublist _).length_le
          have htakes : (cs.dropWhile Char.isLower).length < (a :: b :: c :: cs).length := by
            simp only [List.length_cons]
            omega
          rw [Pattern.pieces_of_match? hmatch htakes, List.flatMap_cons, ih _ htakes _ _ rfl]
          simp [Pattern.Piece.rewritten, List.intercalate, markWords, hword, markWords_run cs]
        · refine hkept ?_ ?_
          · rw [match?_capitalizedWord, if_neg hword]
          · simp [markWords, hword]

private theorem flatMap_pieces_innerCapital (before : Option Char) (cs : List Char) :
    (innerCapital.pieces before cs).flatMap (Pattern.Piece.rewritten (List.intercalate ['_'])) = markCapitals cs := by
  fun_induction markCapitals cs generalizing before with
  | case1 a b cs h ih =>
    have hmatch := match?_innerCapital before a b cs
    rw [if_pos h] at hmatch
    have htakes : cs.length < (a :: b :: cs).length := by
      simp only [List.length_cons]
      omega
    rw [Pattern.pieces_of_match? hmatch htakes, List.flatMap_cons, ih]
    simp [Pattern.Piece.rewritten, List.intercalate]
  | case2 a b cs h ih =>
    have hnone := match?_innerCapital before a b cs
    rw [if_neg h] at hnone
    rw [Pattern.pieces_of_match?_eq_none hnone, List.flatMap_cons, ih]
    rfl
  | case3 cs hshort =>
    match cs, hshort with
    | [], _ => rw [Pattern.pieces_nil]; rfl
    | [a], _ =>
      have hnone : innerCapital.match? before [a] = none := by
        rw [innerCapital, match?_group_seq]
        split <;> rfl
      rw [Pattern.pieces_of_match?_eq_none hnone, Pattern.pieces_nil]
      rfl
    | a :: b :: cs, hshort => exact (hshort a b cs rfl).elim

theorem setApart_capitalizedWord (cs : List Char) : setApart capitalizedWord cs = markWords false cs :=
  flatMap_pieces_capitalizedWord none cs

theorem setApart_innerCapital (cs : List Char) : setApart innerCapital cs = markCapitals cs :=
  flatMap_pieces_innerCapital none cs

/-! ### The rule by positions -/

/-- Does the rule put a low line before position `i`? A capital stands there, and before it a small letter or digit,
or anything but a line feed if a small letter follows. -/
def hasLowLineAt (cs : List Char) (i : Nat) : Bool :=
  1 ≤ i && cs[i]?.any Char.isUpper &&
    (cs[i - 1]?.any (fun a => a.isLower || a.isDigit) || (cs[i - 1]?.any (· != '\n') && cs[i + 1]?.any Char.isLower))

/-- The text with a low line before each position that the rule names. -/
def withLowLines (cs : List Char) : List Char :=
  cs.zipIdx.flatMap fun entry => if hasLowLineAt cs entry.2 then ['_', entry.1] else [entry.1]

private theorem hasLowLineAt_append (before : List Char) (a b : Char) (cs : List Char) :
    hasLowLineAt (before ++ a :: b :: cs) (before.length + 1) = startsWord a b cs := by
  have hat (i : Nat) : (before ++ a :: b :: cs)[before.length + i]? = (a :: b :: cs)[i]? := by
    rw [List.getElem?_append_right (Nat.le_add_right ..), Nat.add_sub_cancel_left]
  have hbefore : (before ++ a :: b :: cs)[before.length]? = some a := hat 0
  have hafter : (before ++ a :: b :: cs)[before.length + 1 + 1]? = cs.head? := (hat 2).trans List.head?_eq_getElem?.symm
  rw [hasLowLineAt, hat 1, Nat.add_sub_cancel, hbefore, hafter, startsWord, startsSmall]
  cases cs <;> simp

/-- Position by position, the rule marks what it marks between neighbours. -/
private theorem flatMap_zipIdx_markAfter (before : List Char) (a : Char) (cs : List Char) :
    (cs.zipIdx (before.length + 1)).flatMap
        (fun entry => if hasLowLineAt (before ++ a :: cs) entry.2 then ['_', entry.1] else [entry.1]) =
      markAfter a cs := by
  induction cs generalizing before a with
  | nil => rfl
  | cons b cs ih =>
    have hnext := ih (before ++ [a]) b
    rw [List.length_append, List.length_singleton, List.append_assoc, List.singleton_append] at hnext
    rw [List.zipIdx_cons, List.flatMap_cons, hnext, hasLowLineAt_append, markAfter_cons]

theorem withLowLines_cons (a : Char) (cs : List Char) : withLowLines (a :: cs) = a :: markAfter a cs := by
  have hfirst : hasLowLineAt (a :: cs) 0 = false := rfl
  have hafter := flatMap_zipIdx_markAfter [] a cs
  rw [List.nil_append, List.length_nil, Nat.zero_add] at hafter
  rw [withLowLines, List.zipIdx_cons, List.flatMap_cons, hfirst, Nat.zero_add, hafter]
  rfl

theorem markCapitals_markWords_eq (cs : List Char) : markCapitals (markWords false cs) = withLowLines cs := by
  cases cs with
  | nil => rfl
  | cons a cs => rw [markCapitals_markWords, withLowLines_cons]

/-- Snake case is a rule on three neighbouring characters: the two searches, one after the other, put exactly one low
line before each capital that follows a small letter or digit, or that a small letter follows and no line feed precedes,
and nothing else; then everything becomes lower case. -/
theorem snakeCase_local (name : String) :
    setApart innerCapital (setApart capitalizedWord name.toList) = withLowLines name.toList ∧
      snakeCase name = String.ofList (Text.lower (withLowLines name.toList)) := by
  have hmarked := markCapitals_markWords_eq name.toList
  constructor
  · rw [setApart_capitalizedWord, setApart_innerCapital, hmarked]
  · rw [snakeCase, snakeChars, hmarked]

end SchemaBindings.Naming
