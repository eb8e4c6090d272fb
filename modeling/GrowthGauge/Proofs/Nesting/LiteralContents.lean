import GrowthGauge.Nesting.Column
import GrowthGauge.Proofs.Loop.Refilled

namespace GrowthGauge

/-! ## Nesting does not depend on what literals have inside

The tracker of indented text reads a line as it reads the masked line. Whether the line
begins with a loop keyword is asked of the line itself, but a keyword holds no quote and so
lies before the first literal. -/

theorem isPrefixOf_masked {word : Text} (unquoted : word.any isQuote = false) (line : Text) :
    word.isPrefixOf line.masked = word.isPrefixOf line := by
  induction word generalizing line with
  | nil => rfl
  | cons letter word induction =>
      rcases Bool.or_eq_false_iff.mp unquoted with ⟨here, later⟩
      cases line using literalInduction with
      | empty => rfl
      | plain character rest opensNone =>
          rw [masked_plain opensNone, List.isPrefixOf_cons_cons, List.isPrefixOf_cons_cons,
            induction later]
      | literal quote inside after quoted isInside =>
          have differs : letter ≠ quote := by
            rintro rfl
            rw [quoted] at here
            cases here
          rw [masked_literal quoted isInside, List.isPrefixOf_cons_cons, List.isPrefixOf_cons_cons,
            beq_false_of_ne differs, Bool.false_and, Bool.false_and]

namespace LoopChain

theorem opensLoop_masked (line : Text) : opensLoop line.masked = opensLoop line := by
  rw [opensLoop, isPrefixOf_masked (by decide), isPrefixOf_masked (by decide), opensLoop]

theorem headerColumns_masked (line : Text) :
    headerColumns line.masked = headerColumns line := by
  rw [headerColumns, strip_masked, opensLoop_masked, masked_masked, indentation_masked,
    headerColumns]

end LoopChain

namespace ColumnNesting

theorem readLine_masked (nesting : ColumnNesting) (line : Text) :
    nesting.readLine line.masked = nesting.readLine line := by
  have blank : line.strip.masked.isEmpty = line.strip.isEmpty := by
    rw [Bool.eq_iff_iff, List.isEmpty_iff_length_eq_zero, List.isEmpty_iff_length_eq_zero,
      length_masked]
  rw [readLine, strip_masked, blank, LoopChain.headerColumns_masked, indentation_masked, readLine]

theorem readLine_refilled (nesting : ColumnNesting) {line other : Text}
    (refills : Refills line other) : nesting.readLine other = nesting.readLine line := by
  rw [← readLine_masked, refills.masked_eq, readLine_masked]

/-- Masking keeps every column, changes nothing but the insides of literals and leaves nothing
of them: with its literals filled differently a line is masked alike, and no reading of
indented text tells the two lines apart. -/
theorem literals_unread (original : Text) :
    original.masked.length = original.length ∧
      (∀ column, original.masked[column]? ≠ original[column]? → InLiteral original column) ∧
        original.masked.masked = original.masked ∧
          ∀ other, Refills original other → other.masked = original.masked ∧
            ∀ nesting : ColumnNesting, nesting.readLine other = nesting.readLine original :=
  ⟨length_masked original, fun _ => inLiteral_of_masked_ne, masked_masked original,
    fun _ refills => ⟨refills.masked_eq, fun nesting => nesting.readLine_refilled refills⟩⟩

theorem literals_unread_example :
    let original : Text := "for a in ['\\': for b in c', \"'\"]: for d in e: # isn't".toList
    let other : Text := "for a in ['while x: for y', \":\"]: for d in e: # isn't".toList
    (original.masked[15]? ≠ original[15]? ∧ InLiteral original 15) ∧
      Refills original other ∧ other.masked = original.masked ∧
        initial.readLine original = ⟨[34, 0], ⟨2, 2⟩⟩ ∧
          initial.readLine other = initial.readLine original := by
  intro original other
  have differs : original.masked[15]? ≠ original[15]? := by decide +kernel
  have refills : Refills original other :=
    ⟨by decide +kernel, by decide +kernel, by decide +kernel⟩
  rcases literals_unread original with ⟨_, changesInside, _, alike⟩
  refine ⟨⟨differs, changesInside 15 differs⟩, refills, (alike other refills).1, ?_,
    (alike other refills).2 initial⟩
  decide +kernel

/-- The same of a whole text, read line by line. -/
theorem readLines_refilled (nesting : ColumnNesting) {lines others : List Text}
    (refills : List.Forall₂ Refills lines others) :
    nesting.readLines others = nesting.readLines lines := by
  induction refills generalizing nesting with
  | nil => rfl
  | cons here _ induction =>
      rw [readLines, List.foldl_cons, readLine_refilled nesting here]
      exact induction (nesting.readLine _)

end ColumnNesting

end GrowthGauge
