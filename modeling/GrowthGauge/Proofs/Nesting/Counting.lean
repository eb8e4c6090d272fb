import GrowthGauge.Proofs.Nesting.BracedReading
import GrowthGauge.Proofs.Outline.Reading
import GrowthGauge.Signals

namespace GrowthGauge

/-! ## Consistent tallies

A loop is charged at the nesting it brings about, which is one deeper than the loops that
are open. As those have been counted before, the deepest nesting never overtakes the
number of loops, whichever tracker charges them. -/

structure LoopTally.IsConsistent (tally : LoopTally) : Prop where
  deepest_le : tally.deepest ≤ tally.loops
  loops_eq_zero_iff : tally.loops = 0 ↔ tally.deepest = 0

theorem LoopTally.isConsistent_zero : LoopTally.zero.IsConsistent :=
  ⟨Nat.le_refl 0, Iff.rfl⟩

/-- A loop may be charged inside loops that have been counted. -/
theorem LoopTally.isConsistent_charge {tally : LoopTally} (consistent : tally.IsConsistent)
    {current : Nat} (counted : current ≤ tally.deepest) :
    (tally.charge (current + 1)).IsConsistent := by
  have bound := consistent.deepest_le
  constructor
  · simp only [charge]
    omega
  · simp only [charge]
    omega

namespace ColumnNesting

theorem isConsistent_foldl_meetHeader {nesting : ColumnNesting}
    (counted : nesting.current ≤ nesting.tally.deepest)
    (consistent : nesting.tally.IsConsistent) (columns : List Nat) :
    (columns.foldl meetHeader nesting).tally.IsConsistent := by
  induction columns generalizing nesting with
  | nil => exact consistent
  | cons column rest induction =>
      -- The nesting this header opens has been charged, so the next header may stand in it.
      apply induction
      · exact Nat.le_max_right _ _
      · exact LoopTally.isConsistent_charge consistent counted

theorem isConsistent_readLine {nesting : ColumnNesting}
    (counted : nesting.current ≤ nesting.tally.deepest)
    (consistent : nesting.tally.IsConsistent) (line : Text) :
    (nesting.readLine line).tally.IsConsistent := by
  unfold readLine
  split
  · exact consistent
  · have kept := current_dedentTo_le_deepest counted line.indentation
    exact isConsistent_foldl_meetHeader kept consistent (LoopChain.headerColumns line)

theorem isConsistent_readLines {nesting : ColumnNesting}
    (counted : nesting.current ≤ nesting.tally.deepest)
    (consistent : nesting.tally.IsConsistent) (lines : List Text) :
    (nesting.readLines lines).tally.IsConsistent := by
  induction lines generalizing nesting with
  | nil => exact consistent
  | cons line rest induction =>
      exact induction (current_readLine_le counted line)
        (isConsistent_readLine counted consistent line)

end ColumnNesting

namespace BraceNesting

theorem IsSound.isConsistent {nesting : BraceNesting} (sound : nesting.IsSound) :
    nesting.tally.IsConsistent :=
  ⟨sound.deepest_le, sound.deepest_eq_zero_iff.symm⟩

/-- Each line with ink in it adds at most one loop. -/
theorem loops_readLines_le (nesting : BraceNesting) (lines : List Text) :
    (nesting.readLines lines).tally.loops ≤
      nesting.tally.loops + (lines.filter (!·.isAllBlank)).length := by
  induction lines generalizing nesting with
  | nil => exact Nat.le_refl _
  | cons line rest induction =>
      have later := induction (nesting.readLine line)
      change ((nesting.readLine line).readLines rest).tally.loops ≤ _
      by_cases blank : line.isAllBlank = true
      · rw [readLine_of_isAllBlank blank] at later ⊢
        rwa [List.filter_cons_of_neg (by simp [blank])]
      · rw [List.filter_cons_of_pos (by simp [blank]), List.length_cons]
        rcases readLine_tally nesting line with same | charged
        · rw [same] at later
          omega
        · rw [charged] at later
          simp only [LoopTally.charge] at later
          omega

end BraceNesting

/-- The loops of a snippet are counted consistently in either layout. -/
theorem isConsistent_loopTally (layout : BlockLayout) (snippet : Text) :
    (loopTally layout snippet).IsConsistent := by
  cases layout with
  | braced =>
      exact (BraceNesting.isSound_readLines BraceNesting.isSound_initial snippet.lines).isConsistent
  | indented =>
      have counted : ColumnNesting.initial.current ≤ ColumnNesting.initial.tally.deepest :=
        Nat.le_refl 0
      exact ColumnNesting.isConsistent_readLines counted LoopTally.isConsistent_zero snippet.lines

end GrowthGauge
