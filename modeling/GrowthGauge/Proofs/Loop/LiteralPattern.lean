import GrowthGauge.Proofs.Loop.Literal
import GrowthGauge.Proofs.Pattern.Requirement
import GrowthGauge.Proofs.Pattern.Spelling

namespace GrowthGauge

open Pattern

/-! ## Literals as matches

The literals of a line are the matches of a pattern: a quote, escaped characters and other
characters but the quote and the backslash, and the quote again, with either of two quotes. -/

namespace StringLiteral

/-- One character of a literal, together with the backslash that escapes it. -/
def item (quote : Char) : Pattern :=
  either (inOrder [char '\\', one isInline])
    (one fun character => character != quote && character != '\\')

def delimitedBy (quote : Char) : Pattern :=
  inOrder [char quote, repeated (item quote), char quote]

def pattern : Pattern :=
  either (delimitedBy '\'') (delimitedBy '"')

/-- The literals of a line from left to right. -/
def allIn (line : Text) : List Match :=
  pattern.allMatches line

example : (allIn "f(\"a 'b\", 'c', d')".toList).map Match.text =
    ["\"a 'b\"".toList, "'c'".toList] := by
  decide +kernel

/-! ### What a literal is -/

theorem spells_item_iff {quote : Char} {run : Text} :
    (item quote).Spells run ↔
      (∃ character, run = ['\\', character] ∧ character ≠ '\n') ∨
        ∃ character, run = [character] ∧ character ≠ quote ∧ character ≠ '\\' := by
  apply or_congr
  · rw [spells_inOrder_cons_iff]
    constructor
    · rintro ⟨before, after, rfl, isEscape, character, rfl, inline⟩
      rw [spells_char_iff.mp isEscape]
      exact ⟨character, rfl, bne_iff_ne.mp inline⟩
    · rintro ⟨character, rfl, inline⟩
      exact ⟨['\\'], [character], rfl, spells_char_iff.mpr rfl, character, rfl,
        bne_iff_ne.mpr inline⟩
  · simp only [Spells, Bool.and_eq_true, bne_iff_ne]

theorem spells_items_iff {quote : Char} {run : Text} :
    (repeated (item quote)).Spells run ↔ LiteralInside quote run := by
  constructor
  · rintro ⟨rounds, rfl, spelt⟩
    induction rounds with
    | nil => exact .empty
    | cons round rounds induction =>
        rcases List.forall_mem_cons.mp spelt with ⟨here, later⟩
        rcases spells_item_iff.mp here with
          ⟨character, rfl, inline⟩ | ⟨character, rfl, unquoted, unescaped⟩
        · exact .escaped inline (induction later)
        · exact .plain unquoted unescaped (induction later)
  · intro isInside
    induction isInside with
    | empty => exact ⟨[], rfl, by simp⟩
    | @plain character rest unquoted unescaped _ induction =>
        rcases induction with ⟨rounds, rfl, spelt⟩
        refine ⟨[character] :: rounds, rfl, List.forall_mem_cons.mpr ⟨?_, spelt⟩⟩
        exact spells_item_iff.mpr (.inr ⟨character, rfl, unquoted, unescaped⟩)
    | @escaped character rest inline _ induction =>
        rcases induction with ⟨rounds, rfl, spelt⟩
        refine ⟨['\\', character] :: rounds, rfl, List.forall_mem_cons.mpr ⟨?_, spelt⟩⟩
        exact spells_item_iff.mpr (.inl ⟨character, rfl, inline⟩)

theorem spells_delimitedBy_iff {quote : Char} {run : Text} :
    (delimitedBy quote).Spells run ↔
      ∃ inside, run = quote :: (inside ++ [quote]) ∧ LiteralInside quote inside := by
  rw [delimitedBy, spells_inOrder_cons_iff]
  constructor
  · rintro ⟨opening, _, rfl, isOpening, spelt⟩
    rcases spells_inOrder_cons_iff.mp spelt with ⟨inside, closing, rfl, isInside, isClosing⟩
    rw [spells_char_iff.mp isOpening, spells_char_iff.mp isClosing]
    exact ⟨inside, rfl, spells_items_iff.mp isInside⟩
  · rintro ⟨inside, rfl, isInside⟩
    refine ⟨[quote], inside ++ [quote], rfl, spells_char_iff.mpr rfl, ?_⟩
    exact spells_inOrder_cons_iff.mpr
      ⟨inside, [quote], rfl, spells_items_iff.mpr isInside, spells_char_iff.mpr rfl⟩

theorem spells_pattern_iff {run : Text} :
    pattern.Spells run ↔
      ∃ quote inside, isQuote quote = true ∧ run = quote :: (inside ++ [quote]) ∧
        LiteralInside quote inside := by
  constructor
  · rintro (spelt | spelt)
    · rcases spells_delimitedBy_iff.mp spelt with ⟨inside, rfl, isInside⟩
      exact ⟨'\'', inside, rfl, rfl, isInside⟩
    · rcases spells_delimitedBy_iff.mp spelt with ⟨inside, rfl, isInside⟩
      exact ⟨'"', inside, rfl, rfl, isInside⟩
  · rintro ⟨quote, inside, quoted, rfl, isInside⟩
    rw [isQuote, Bool.or_eq_true, beq_iff_eq, beq_iff_eq] at quoted
    rcases quoted with rfl | rfl
    · exact .inl (spells_delimitedBy_iff.mpr ⟨inside, rfl, isInside⟩)
    · exact .inr (spells_delimitedBy_iff.mpr ⟨inside, rfl, isInside⟩)

theorem isOpenEnded_pattern : pattern.IsOpenEnded := by
  simp [pattern, delimitedBy, item, inOrder, IsOpenEnded, Pattern.char]

/-! ### Where the literals of a line are -/

theorem mem_ends_pattern_iff {cursor reached : Cursor} :
    reached ∈ pattern.ends cursor ↔
      ∃ quote inside after, cursor.ahead = quote :: (inside ++ quote :: after) ∧
        isQuote quote = true ∧ LiteralInside quote inside ∧
        reached = cursor.behind (quote :: (inside ++ [quote])) after := by
  rw [endsBehind_spells isOpenEnded_pattern cursor reached]
  constructor
  · rintro ⟨_, after, ahead, spelt, rfl⟩
    rcases spells_pattern_iff.mp spelt with ⟨quote, inside, quoted, rfl, isInside⟩
    exact ⟨quote, inside, after, by simpa using ahead, quoted, isInside, rfl⟩
  · rintro ⟨quote, inside, after, ahead, quoted, isInside, rfl⟩
    refine ⟨quote :: (inside ++ [quote]), after, by simpa using ahead, ?_, rfl⟩
    exact spells_pattern_iff.mpr ⟨quote, inside, quoted, rfl, isInside⟩

theorem matchAt_literal {quote : Char} (quoted : isQuote quote = true) {inside : Text}
    (isInside : LiteralInside quote inside) (after : Text) (previous : Option Char) :
    pattern.matchAt ⟨previous, quote :: (inside ++ quote :: after), none⟩ =
      some ⟨⟨previous, quote :: (inside ++ quote :: after), none⟩, ⟨some quote, after, none⟩⟩ := by
  let start : Cursor := ⟨previous, quote :: (inside ++ quote :: after), none⟩
  let stop := start.behind (quote :: (inside ++ [quote])) after
  have reaches : stop ∈ pattern.ends start :=
    mem_ends_pattern_iff.mpr ⟨quote, inside, after, rfl, quoted, isInside, rfl⟩
  have only : ∀ reached ∈ pattern.ends start, reached = stop := by
    intro reached member
    rcases mem_ends_pattern_iff.mp member with
      ⟨other, otherInside, otherAfter, ahead, _, isOther, rfl⟩
    rcases List.cons_eq_cons.mp ahead with ⟨rfl, same⟩
    rcases isInside.unique quoted isOther same with ⟨rfl, rfl⟩
    rfl
  have behind : stop = ⟨some quote, after, none⟩ := by
    simp [stop, start, Cursor.behind, List.getLast?_cons]
  rw [matchAt_eq_some reaches only, behind]

theorem matchAt_plain {character : Char} {rest : Text} (opensNone : OpensNone character rest)
    (previous : Option Char) : pattern.matchAt ⟨previous, character :: rest, none⟩ = none := by
  rw [← Option.not_isSome_iff_eq_none, matchAt_isSome_iff]
  rintro ⟨reached, member⟩
  rcases mem_ends_pattern_iff.mp member with ⟨quote, inside, after, ahead, quoted, isInside, _⟩
  rcases List.cons_eq_cons.mp ahead with ⟨rfl, rfl⟩
  have closes := (closesLiteral_iff quoted _).mpr ⟨inside, after, rfl, isInside⟩
  rw [opensNone quoted] at closes
  cases closes

end StringLiteral

/-- Nothing is looked for in the characters that a match has covered. -/
theorem Pattern.matchesFrom_covered (pattern : Pattern) (run rest : Text)
    (previous : Option Char) :
    pattern.matchesFrom run.length previous (run ++ rest) =
      pattern.matchesFrom 0 (run.getLast?.or previous) rest := by
  induction run generalizing previous with
  | nil => rfl
  | cons character run induction =>
      rw [List.length_cons, List.cons_append, matchesFrom, induction, Cursor.getLast?_cons_or]

namespace StringLiteral

theorem matchesFrom_plain {character : Char} {rest : Text}
    (opensNone : OpensNone character rest) (previous : Option Char) :
    pattern.matchesFrom 0 previous (character :: rest) =
      pattern.matchesFrom 0 (some character) rest := by
  rw [matchesFrom, matchAt_plain opensNone]

theorem matchesFrom_literal {quote : Char} (quoted : isQuote quote = true) {inside : Text}
    (isInside : LiteralInside quote inside) (after : Text) (previous : Option Char) :
    pattern.matchesFrom 0 previous (quote :: (inside ++ quote :: after)) =
      ⟨⟨previous, quote :: (inside ++ quote :: after), none⟩, ⟨some quote, after, none⟩⟩ ::
        pattern.matchesFrom 0 (some quote) after := by
  have width : (Match.mk ⟨previous, quote :: (inside ++ quote :: after), none⟩
      ⟨some quote, after, none⟩).text.length - 1 = (inside ++ [quote]).length := by
    rw [length_matchText]
    simp only [List.length_cons, List.length_append, List.length_nil]
    omega
  have tail : inside ++ quote :: after = (inside ++ [quote]) ++ after :=
    (List.append_cons inside quote after)
  have last : (inside ++ [quote]).getLast?.or (some quote) = some quote := by
    rw [List.getLast?_append, List.getLast?_singleton, Option.some_or, Option.some_or]
  rw [matchesFrom, matchAt_literal quoted isInside]
  simp only
  rw [width, tail, matchesFrom_covered, last, ← tail]

end StringLiteral

/-! ### Columns inside of literals -/

/-- The column at which a match begins, in the text that was searched. -/
def Match.startColumn (found : Match) (searched : Text) : Nat :=
  searched.length - found.start.ahead.length

/-- A literal of the line has its quotes on both sides of the character at this column. -/
def InLiteral (line : Text) (column : Nat) : Prop :=
  ∃ found ∈ StringLiteral.allIn line,
    found.startColumn line < column ∧ column + 1 < found.column line

instance (line : Text) (column : Nat) : Decidable (InLiteral line column) :=
  inferInstanceAs (Decidable (∃ found ∈ StringLiteral.allIn line, _ ∧ _))

example : (List.range 7).filter (InLiteral "a'b''c'".toList ·) = [2, 5] := by decide +kernel

namespace StringLiteral

/-- Inside of a literal, with so many characters from there to the end of the line. Counted
from the end, a column is the same in a line and in what remains of it. -/
def InsideFrom (previous : Option Char) (line : Text) (remaining : Nat) : Prop :=
  ∃ found ∈ pattern.matchesFrom 0 previous line,
    remaining < found.start.ahead.length ∧ found.stop.ahead.length + 1 < remaining

theorem length_ahead_lt {cursor reached : Cursor} (member : reached ∈ pattern.ends cursor) :
    reached.ahead.length < cursor.ahead.length := by
  rcases mem_ends_pattern_iff.mp member with ⟨quote, inside, after, ahead, _, _, rfl⟩
  rw [ahead, Cursor.behind_ahead, List.length_cons, List.length_append, List.length_cons]
  omega

theorem inLiteral_iff {line : Text} {column : Nat} :
    InLiteral line column ↔
      column < line.length ∧ InsideFrom none line (line.length - column) := by
  have fits := (matchesFrom_inOrder (fun _ _ member => length_ahead_lt member) 0 none line).1
  constructor
  · rintro ⟨found, member, starts, stops⟩
    rcases fits found member with ⟨bounded, _⟩
    rw [Match.startColumn] at starts
    rw [Match.column] at stops
    exact ⟨by omega, found, member, by omega, by omega⟩
  · rintro ⟨_, found, member, starts, stops⟩
    rcases fits found member with ⟨bounded, _⟩
    refine ⟨found, member, ?_, ?_⟩
    · rw [Match.startColumn]
      omega
    · rw [Match.column]
      omega

theorem insideFrom_plain {character : Char} {rest : Text} (opensNone : OpensNone character rest)
    (previous : Option Char) (remaining : Nat) :
    InsideFrom previous (character :: rest) remaining ↔
      InsideFrom (some character) rest remaining := by
  rw [InsideFrom, matchesFrom_plain opensNone, InsideFrom]

theorem insideFrom_literal {quote : Char} (quoted : isQuote quote = true) {inside : Text}
    (isInside : LiteralInside quote inside) (after : Text) (previous : Option Char)
    (remaining : Nat) :
    InsideFrom previous (quote :: (inside ++ quote :: after)) remaining ↔
      (remaining < inside.length + after.length + 2 ∧ after.length + 1 < remaining) ∨
        InsideFrom (some quote) after remaining := by
  rw [InsideFrom, matchesFrom_literal quoted isInside, InsideFrom, List.exists_mem_cons_iff]
  apply or_congr_left
  simp only [List.length_cons, List.length_append]
  omega

theorem insideFrom_lt {previous : Option Char} {line : Text} {remaining : Nat}
    (inside : InsideFrom previous line remaining) : remaining < line.length := by
  have fits := (matchesFrom_inOrder (fun _ _ member => length_ahead_lt member) 0 previous line).1
  rcases inside with ⟨found, member, starts, _⟩
  rcases fits found member with ⟨bounded, _⟩
  omega

theorem insideFrom_previous (previous : Option Char) (line : Text) (remaining : Nat) :
    InsideFrom previous line remaining ↔ InsideFrom none line remaining := by
  cases line using literalInduction with
  | empty =>
      have outside : ∀ previous, ¬InsideFrom previous [] remaining :=
        fun _ inside => Nat.not_lt_zero _ (insideFrom_lt inside)
      exact iff_of_false (outside previous) (outside none)
  | plain character rest opensNone => rw [insideFrom_plain opensNone, insideFrom_plain opensNone]
  | literal quote inside after quoted isInside =>
      rw [insideFrom_literal quoted isInside, insideFrom_literal quoted isInside]

end StringLiteral

open StringLiteral

theorem not_inLiteral_zero (line : Text) : ¬InLiteral line 0 := by
  rintro ⟨_, _, starts, _⟩
  exact Nat.not_lt_zero _ starts

theorem inLiteral_plain_iff {character : Char} {rest : Text}
    (opensNone : OpensNone character rest) (column : Nat) :
    InLiteral (character :: rest) (column + 1) ↔ InLiteral rest column := by
  rw [inLiteral_iff, inLiteral_iff, insideFrom_plain opensNone, insideFrom_previous,
    List.length_cons, Nat.add_lt_add_iff_right, Nat.add_sub_add_right]

theorem length_literal_append (quote : Char) (inside after : Text) :
    (quote :: (inside ++ quote :: after)).length = inside.length + 2 + after.length := by
  rw [List.length_cons, List.length_append, List.length_cons]
  omega

theorem inLiteral_literal_iff {quote : Char} (quoted : isQuote quote = true) {inside : Text}
    (isInside : LiteralInside quote inside) (after : Text) (column : Nat) :
    InLiteral (quote :: (inside ++ quote :: after)) column ↔
      (0 < column ∧ column ≤ inside.length) ∨
        ∃ later, column = inside.length + 2 + later ∧ InLiteral after later := by
  rw [inLiteral_iff, insideFrom_literal quoted isInside, insideFrom_previous,
    length_literal_append]
  constructor
  · rintro ⟨bounded, here | later⟩
    · exact .inl ⟨by omega, by omega⟩
    · have behind := insideFrom_lt later
      refine .inr ⟨column - (inside.length + 2), by omega, inLiteral_iff.mpr ⟨by omega, ?_⟩⟩
      have same : after.length - (column - (inside.length + 2)) =
          inside.length + 2 + after.length - column := by omega
      rwa [same]
  · rintro (here | ⟨later, rfl, isLater⟩)
    · exact ⟨by omega, .inl ⟨by omega, by omega⟩⟩
    · rcases inLiteral_iff.mp isLater with ⟨bounded, behind⟩
      rw [Nat.add_sub_add_left]
      exact ⟨by omega, .inr behind⟩

end GrowthGauge
