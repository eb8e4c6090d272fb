import GrowthGauge.Loop.Masked
import GrowthGauge.Proofs.Text.Strip

namespace GrowthGauge

/-! ## Literals in a line

A line falls into literals and the characters between them. Which quotes open a literal is
found from left to right, since a quote inside a literal opens none, and since a quote whose
own literal is never closed is passed over. -/

theorem ne_backslash_of_isQuote {quote : Char} (quoted : isQuote quote = true) :
    quote ≠ '\\' := by
  rintro rfl
  cases quoted

theorem isQuote_eq_false_of_isBlank {character : Char} (blank : isBlank character = true) :
    isQuote character = false := by
  rw [← Bool.not_eq_true, isQuote, Bool.or_eq_true, beq_iff_eq, beq_iff_eq]
  rintro (rfl | rfl) <;> cases blank

/-- What may stand between two quotes: a backslash takes the character behind it along,
other characters stand for themselves. -/
inductive LiteralInside (quote : Char) : Text → Prop
  | empty : LiteralInside quote []
  | plain {character : Char} {rest : Text} (unquoted : character ≠ quote)
      (unescaped : character ≠ '\\') :
      LiteralInside quote rest → LiteralInside quote (character :: rest)
  | escaped {character : Char} {rest : Text} (inline : character ≠ '\n') :
      LiteralInside quote rest → LiteralInside quote ('\\' :: character :: rest)

/-! ### Closing a literal -/

theorem closesLiteral_escaped (quote character : Char) (rest : Text) :
    closesLiteral quote ('\\' :: character :: rest) =
      (character != '\n' && closesLiteral quote rest) := rfl

theorem closesLiteral_cons {character : Char} (unescaped : character ≠ '\\') (quote : Char)
    (rest : Text) :
    closesLiteral quote (character :: rest) =
      (character == quote || closesLiteral quote rest) := by
  rw [closesLiteral]
  · exact fun same => absurd same unescaped
  · exact fun _ _ same => absurd same unescaped

theorem closesLiteral_iff {quote : Char} (quoted : isQuote quote = true) (rest : Text) :
    closesLiteral quote rest = true ↔
      ∃ inside after, rest = inside ++ quote :: after ∧ LiteralInside quote inside := by
  constructor
  · intro closes
    fun_induction closesLiteral quote rest with
    | case1 => cases closes
    | case2 => cases closes
    | case3 character rest induction =>
        rw [Bool.and_eq_true, bne_iff_ne] at closes
        rcases induction closes.2 with ⟨inside, after, rfl, isInside⟩
        exact ⟨'\\' :: character :: inside, after, rfl, .escaped closes.1 isInside⟩
    | case4 character rest unfinished unescaped induction =>
        by_cases same : character = quote
        · exact ⟨[], rest, by rw [same]; rfl, .empty⟩
        · rw [Bool.or_eq_true, beq_iff_eq, or_iff_right same] at closes
          rcases induction closes with ⟨inside, after, rfl, isInside⟩
          refine ⟨character :: inside, after, rfl, .plain same ?_ isInside⟩
          rintro rfl
          cases inside with
          | nil => exact unescaped quote after rfl rfl
          | cons head tail => exact unescaped head (tail ++ quote :: after) rfl rfl
  · rintro ⟨inside, after, rfl, isInside⟩
    induction isInside with
    | empty =>
        rw [List.nil_append, closesLiteral_cons (ne_backslash_of_isQuote quoted), beq_self_eq_true,
          Bool.true_or]
    | plain unquoted unescaped _ induction =>
        rw [List.cons_append, closesLiteral_cons unescaped, induction, Bool.or_true]
    | escaped inline _ induction =>
        rw [List.cons_append, List.cons_append, closesLiteral_escaped, induction, Bool.and_true,
          bne_iff_ne]
        exact inline

/-- A literal ends at the first quote that may close it. -/
theorem LiteralInside.unique {quote : Char} (quoted : isQuote quote = true) {inside other : Text}
    (isInside : LiteralInside quote inside) (otherInside : LiteralInside quote other)
    {after otherAfter : Text} (same : inside ++ quote :: after = other ++ quote :: otherAfter) :
    inside = other ∧ after = otherAfter := by
  have unescaped := ne_backslash_of_isQuote quoted
  induction isInside generalizing other with
  | empty =>
      cases otherInside with
      | empty => exact ⟨rfl, (List.cons_eq_cons.mp same).2⟩
      | plain unquoted => exact absurd (List.cons_eq_cons.mp same).1.symm unquoted
      | escaped => exact absurd (List.cons_eq_cons.mp same).1 unescaped
  | plain unquoted notEscape _ induction =>
      cases otherInside with
      | empty => exact absurd (List.cons_eq_cons.mp same).1 unquoted
      | plain _ _ rest =>
          rcases List.cons_eq_cons.mp same with ⟨rfl, later⟩
          rcases induction rest later with ⟨rfl, sameAfter⟩
          exact ⟨rfl, sameAfter⟩
      | escaped => exact absurd (List.cons_eq_cons.mp same).1 notEscape
  | escaped _ _ induction =>
      cases otherInside with
      | empty => exact absurd (List.cons_eq_cons.mp same).1.symm unescaped
      | plain _ notEscape => exact absurd (List.cons_eq_cons.mp same).1.symm notEscape
      | escaped _ rest =>
          rcases List.cons_eq_cons.mp same with ⟨_, tails⟩
          rcases List.cons_eq_cons.mp tails with ⟨rfl, later⟩
          rcases induction rest later with ⟨rfl, sameAfter⟩
          exact ⟨rfl, sameAfter⟩

/-! ### The cut of a line -/

/-- No literal begins with this character. -/
def OpensNone (character : Char) (rest : Text) : Prop :=
  isQuote character = true → closesLiteral character rest = false

/-- A line is empty, begins with a character that opens no literal, or begins with one. -/
@[elab_as_elim]
theorem literalInduction {motive : Text → Prop} (empty : motive [])
    (plain : ∀ character rest, OpensNone character rest → motive rest →
      motive (character :: rest))
    (literal : ∀ quote inside after, isQuote quote = true → LiteralInside quote inside →
      motive after → motive (quote :: (inside ++ quote :: after)))
    (line : Text) : motive line := by
  induction size : line.length using Nat.strongRecOn generalizing line with
  | _ length induction =>
      cases line with
      | nil => exact empty
      | cons character rest =>
          rw [List.length_cons] at size
          by_cases opens : isQuote character = true ∧ closesLiteral character rest = true
          · rcases (closesLiteral_iff opens.1 rest).mp opens.2 with ⟨inside, after, rfl, isInside⟩
            rw [List.length_append, List.length_cons] at size
            exact literal character inside after opens.1 isInside
              (induction after.length (by omega) after rfl)
          · have opensNone : OpensNone character rest := by
              intro quoted
              rw [← Bool.not_eq_true]
              exact fun closes => opens ⟨quoted, closes⟩
            exact plain character rest opensNone
              (induction rest.length (by omega) rest rfl)

/-! ### Masking, literal by literal -/

theorem masked_plain {character : Char} {rest : Text} (opensNone : OpensNone character rest) :
    Text.masked (character :: rest) = character :: rest.masked := by
  rw [Text.masked, maskFrom]
  have passes : (isQuote character && closesLiteral character rest) = false := by
    cases quoted : isQuote character with
    | false => rfl
    | true => exact opensNone quoted
  rw [passes]
  rfl

theorem maskFrom_inside {quote : Char} (quoted : isQuote quote = true) {inside : Text}
    (isInside : LiteralInside quote inside) (after : Text) :
    maskFrom (some quote) (inside ++ quote :: after) =
      List.replicate inside.length ' ' ++ quote :: after.masked := by
  induction isInside with
  | empty =>
      have unescaped := ne_backslash_of_isQuote quoted
      rw [List.nil_append, maskFrom, beq_self_eq_true]
      · rfl
      · exact fun _ _ same => absurd same unescaped
  | plain unquoted unescaped _ induction =>
      rw [List.cons_append, maskFrom, beq_false_of_ne unquoted, if_neg Bool.false_ne_true, induction]
      · rfl
      · exact fun _ _ same => absurd same unescaped
  | escaped _ _ induction =>
      rw [List.cons_append, List.cons_append, maskFrom, induction]
      rfl

theorem masked_literal {quote : Char} (quoted : isQuote quote = true) {inside : Text}
    (isInside : LiteralInside quote inside) (after : Text) :
    Text.masked (quote :: (inside ++ quote :: after)) =
      quote :: (List.replicate inside.length ' ' ++ quote :: after.masked) := by
  have closes := (closesLiteral_iff quoted (inside ++ quote :: after)).mpr
    ⟨inside, after, rfl, isInside⟩
  rw [Text.masked, maskFrom, quoted, closes, Bool.and_true, if_pos rfl,
    maskFrom_inside quoted isInside]

/-! ### Masking and what stands around a line -/

theorem opensNone_of_unquoted {character : Char} (unquoted : isQuote character = false)
    (rest : Text) : OpensNone character rest := by
  intro quoted
  rw [unquoted] at quoted
  cases quoted

/-- Where no literal begins, nothing is masked. -/
theorem masked_unquoted_append {before : Text} (unquoted : before.any isQuote = false)
    (rest : Text) : Text.masked (before ++ rest) = before ++ rest.masked := by
  induction before with
  | nil => rfl
  | cons character before induction =>
      rw [List.any_cons, Bool.or_eq_false_iff] at unquoted
      rw [List.cons_append, masked_plain (opensNone_of_unquoted unquoted.1 _),
        induction unquoted.2]
      rfl

theorem any_isQuote_of_isAllBlank {gap : Text} (blank : gap.isAllBlank = true) :
    gap.any isQuote = false := by
  rw [List.any_eq_false]
  intro character member
  rw [isQuote_eq_false_of_isBlank (Text.isAllBlank_iff.mp blank character member)]
  exact Bool.false_ne_true

theorem masked_blank_append {before : Text} (blank : before.isAllBlank = true) (rest : Text) :
    Text.masked (before ++ rest) = before ++ rest.masked :=
  masked_unquoted_append (any_isQuote_of_isAllBlank blank) rest

/-- A quote is no blank character, so a literal is closed before the blanks at the end. -/
theorem closesLiteral_append_blank {quote : Char} (quoted : isQuote quote = true) {after : Text}
    (blank : after.isAllBlank = true) (text : Text) :
    closesLiteral quote (text ++ after) = closesLiteral quote text := by
  have notBlank : quote ∉ after := by
    intro member
    have isBlank := isQuote_eq_false_of_isBlank (Text.isAllBlank_iff.mp blank quote member)
    rw [quoted] at isBlank
    cases isBlank
  rw [Bool.eq_iff_iff, closesLiteral_iff quoted, closesLiteral_iff quoted]
  constructor
  · rintro ⟨inside, rest, same, isInside⟩
    rcases List.append_eq_append_iff.mp same with ⟨middle, rfl, blanks⟩ | ⟨middle, rfl, blanks⟩
    · exact absurd (blanks ▸ List.mem_append_right _ List.mem_cons_self) notBlank
    · cases middle with
      | nil =>
          rw [List.nil_append] at blanks
          exact absurd (blanks ▸ List.mem_cons_self) notBlank
      | cons head middle =>
          rcases List.cons_eq_cons.mp blanks with ⟨rfl, _⟩
          exact ⟨inside, middle, rfl, isInside⟩
  · rintro ⟨inside, rest, rfl, isInside⟩
    exact ⟨inside, rest ++ after, by simp, isInside⟩

theorem masked_append_blank {after : Text} (blank : after.isAllBlank = true) (line : Text) :
    Text.masked (line ++ after) = line.masked ++ after := by
  induction line using literalInduction with
  | empty => simpa [Text.masked, maskFrom] using masked_blank_append blank []
  | plain character rest opensNone induction =>
      have opensNoneStill : OpensNone character (rest ++ after) := by
        intro quoted
        rw [closesLiteral_append_blank quoted blank]
        exact opensNone quoted
      rw [List.cons_append, masked_plain opensNoneStill, induction, masked_plain opensNone]
      rfl
  | literal quote inside rest quoted isInside induction =>
      rw [List.cons_append, List.append_assoc, List.cons_append, masked_literal quoted isInside,
        induction, masked_literal quoted isInside]
      simp

/-- A line begins and ends outside of its literals' insides. -/
theorem head?_masked (line : Text) : line.masked.head? = line.head? := by
  cases line using literalInduction with
  | empty => rfl
  | plain character rest opensNone => rw [masked_plain opensNone]; rfl
  | literal quote inside rest quoted isInside => rw [masked_literal quoted isInside]; rfl

theorem getLast?_masked (line : Text) : line.masked.getLast? = line.getLast? := by
  induction line using literalInduction with
  | empty => rfl
  | plain character rest opensNone induction =>
      rw [masked_plain opensNone, List.getLast?_cons, List.getLast?_cons, induction]
  | literal quote inside rest quoted isInside induction =>
      rw [masked_literal quoted isInside]
      simp only [List.getLast?_cons, List.getLast?_append, induction]
      rfl

/-- Stripping a line leaves its literals as they are. -/
theorem strip_masked (line : Text) : line.masked.strip = line.strip.masked := by
  rcases Text.exists_append_strip_append line with ⟨before, after, beforeBlank, afterBlank, split⟩
  calc
    line.masked.strip = (before ++ line.strip.masked ++ after).strip := by
      conv => lhs; rw [split, masked_append_blank afterBlank, masked_blank_append beforeBlank]
    _ = line.strip.masked.strip := Text.strip_blank_append_blank beforeBlank afterBlank _
    _ = line.strip.masked := by
      apply Text.strip_eq_self
      · rw [head?_masked]
        exact Text.all_head?_strip line
      · rw [getLast?_masked]
        exact Text.all_getLast?_strip line

theorem indentation_masked (line : Text) : line.masked.indentation = line.indentation := by
  induction line with
  | nil => rfl
  | cons character rest induction =>
      cases blank : isBlank character with
      | true =>
          have unquoted := isQuote_eq_false_of_isBlank blank
          rw [masked_plain (opensNone_of_unquoted unquoted rest), Text.indentation,
            Text.indentation, List.takeWhile_cons_of_pos blank, List.takeWhile_cons_of_pos blank]
          exact congrArg Nat.succ induction
      | false =>
          have inked : (Text.masked (character :: rest)).takeWhile isBlank = [] := by
            rcases List.head?_eq_some_iff.mp (head?_masked (character :: rest)) with ⟨tail, same⟩
            rw [same]
            exact List.takeWhile_cons_of_neg (by rw [blank]; exact Bool.false_ne_true)
          rw [Text.indentation, inked, Text.indentation,
            List.takeWhile_cons_of_neg (by rw [blank]; exact Bool.false_ne_true)]

end GrowthGauge
