import GrowthGauge.Nesting.Column
import GrowthGauge.Proofs.Nesting.BracedCounting
import GrowthGauge.Proofs.Outline.Rendering

namespace GrowthGauge

/-! ## Reading an outline in braces

An outline in braces is one of the programs that the reader of braces counts
exactly. Where its rows are indented makes no difference. -/

namespace Outline

open Braced

def assignment : PlainLine :=
  ⟨"x += 1;".toList, by decide, by decide +kernel⟩

def branchOpener : BlockOpener :=
  ⟨"if (c) ".toList, by decide, by decide +kernel⟩

def loopHeader : Header :=
  .onOneLine "for (;;) ".toList (by decide +kernel) (by decide) (by decide) (by decide)

def loopBrace : Brace loopHeader :=
  .onSameLine (Header.takes_of_later_eq_nil rfl _)

/-- The outline as a program in braces, with more of the program behind it. -/
def toProgram : Outline → Program → Program
  | statement, rest => .plain assignment rest
  | branch body, rest => .block branchOpener (body.toProgram .done) rest
  | loop body, rest => .loop loopHeader loopBrace (body.toProgram .done) rest
  | sequence first second, rest => first.toProgram (second.toProgram rest)

theorem lines_toProgram (outline : Outline) (width column : Nat) (rest : Program) :
    (outline.toProgram rest).lines =
      (outline.bracedRows width column).map Row.words ++ rest.lines := by
  induction outline generalizing column rest with
  | statement =>
      rw [toProgram, Program.lines, bracedRows, List.map_singleton, List.singleton_append]
      congr 1
  | branch body induction =>
      have inside := induction (column + width) .done
      rw [Program.lines, List.append_nil] at inside
      rw [toProgram, Program.lines, inside, bracedRows, List.map_append, List.map_cons,
        List.map_singleton]
      congr 1
  | loop body induction =>
      have inside := induction (column + width) .done
      rw [Program.lines, List.append_nil] at inside
      rw [toProgram, Program.lines, inside, bracedRows, List.map_append, List.map_cons,
        List.map_singleton]
      congr 1
  | sequence first second firstInduction secondInduction =>
      rw [toProgram, firstInduction column, secondInduction column, bracedRows, List.map_append,
        List.append_assoc]

theorem loops_toProgram (outline : Outline) (rest : Program) :
    (outline.toProgram rest).loops = outline.loops + rest.loops := by
  induction outline generalizing rest with
  | statement => exact (Nat.zero_add _).symm
  | branch body induction => simp [toProgram, Program.loops, loops, induction]
  | loop body induction => simp [toProgram, Program.loops, loops, induction]
  | sequence first second firstInduction secondInduction =>
      rw [toProgram, firstInduction, secondInduction, loops, Nat.add_assoc]

theorem depth_toProgram (outline : Outline) (rest : Program) :
    (outline.toProgram rest).depth = max outline.depth rest.depth := by
  induction outline generalizing rest with
  | statement => exact (Nat.zero_max _).symm
  | branch body induction => simp [toProgram, Program.depth, depth, induction]
  | loop body induction => simp [toProgram, Program.depth, depth, induction]
  | sequence first second firstInduction secondInduction =>
      rw [toProgram, firstInduction, secondInduction, depth, Nat.max_assoc]

end Outline

namespace BraceNesting

theorem readLines_words (nesting : BraceNesting) (rows : List Row) :
    nesting.readLines (rows.map Row.words) = nesting.readLines (rows.map Row.line) := by
  have sameInk : Text.ink (rows.map Row.words) = Text.ink (rows.map Row.line) := by
    rw [Text.ink, Text.ink, List.map_map, List.map_map]
    exact congrArg (·.filter (!List.isEmpty ·))
      (List.map_congr_left fun row _ => (Row.strip_line row).symm)
  rw [← readLines_ink, sameInk, readLines_ink]

theorem readLines_bracedRows (outline : Outline) (width column : Nat) :
    (initial.readLines ((outline.bracedRows width column).map Row.line)).tally =
      ⟨outline.loops, outline.depth⟩ := by
  have written := outline.lines_toProgram width column .done
  rw [Braced.Program.lines, List.append_nil] at written
  rw [← readLines_words, ← written, readLines_program _ isSound_initial rfl,
    Outline.loops_toProgram, Outline.depth_toProgram]
  simp [counting, initial, LoopTally.zero, Braced.Program.loops, Braced.Program.depth]

/-- Indented rows that are no loop headers are plain lines to the reader of braces. -/
theorem readLines_plainRows {rows : List Row}
    (plain : ∀ row ∈ rows, row.words ∈ Outline.indentedPlainWords) {nesting : BraceNesting}
    (idle : nesting.waiting = 0) : nesting.readLines (rows.map Row.line) = nesting := by
  have braceless : ∀ words ∈ Outline.indentedPlainWords, words.isBraceless = true := by decide
  have unrecognised : ∀ words ∈ Outline.indentedPlainWords, LoopHeader.ofLine? words = none := by
    decide +kernel
  rw [← readLines_words]
  induction rows with
  | nil => rfl
  | cons row rest induction =>
      rcases List.forall_mem_cons.mp plain with ⟨rowPlain, restPlain⟩
      rw [List.map_cons, readLines_cons,
        readLine_plain ⟨row.words, braceless _ rowPlain, unrecognised _ rowPlain⟩ idle]
      exact induction restPlain

end BraceNesting

/-! ## Reading an indented outline

The columns of the loops that a part of an outline has opened lie at its own column
or right of it, so the next part that begins there finds them gone. -/

namespace ColumnNesting

theorem readLines_cons (nesting : ColumnNesting) (line : Text) (rest : List Text) :
    nesting.readLines (line :: rest) = (nesting.readLine line).readLines rest :=
  rfl

theorem readLines_append (nesting : ColumnNesting) (first second : List Text) :
    nesting.readLines (first ++ second) = (nesting.readLines first).readLines second :=
  List.foldl_append

/-- The columns are open in addition, and so many loops have been counted. -/
def opening (nesting : ColumnNesting) (opened : List Nat) (loops depth : Nat) : ColumnNesting :=
  ⟨opened ++ nesting.columns,
    ⟨nesting.tally.loops + loops, max nesting.tally.deepest (nesting.current + depth)⟩⟩

theorem dedentTo_of_le {column further : Nat} (le : column ≤ further) (nesting : ColumnNesting) :
    (nesting.dedentTo column).dedentTo further = nesting.dedentTo column := by
  have same : (nesting.columns.dropWhile (column ≤ ·)).dropWhile (further ≤ ·) =
      nesting.columns.dropWhile (column ≤ ·) := by
    cases split : nesting.columns.dropWhile (column ≤ ·) with
    | nil => rfl
    | cons head tail =>
        have stops := List.head?_dropWhile_not (column ≤ ·) nesting.columns
        rw [split] at stops
        have left : head < column := by simpa using stops
        exact List.dropWhile_cons_of_neg (by simpa using Nat.lt_of_lt_of_le left le)
  rw [dedentTo, dedentTo, same]

theorem dedentTo_opening {opened : List Nat} {column : Nat}
    (right : ∀ header ∈ opened, column ≤ header) (nesting : ColumnNesting) (loops depth : Nat) :
    ((nesting.dedentTo column).opening opened loops depth).dedentTo column =
      (nesting.dedentTo column).opening [] loops depth := by
  have dropped : (opened ++ (nesting.dedentTo column).columns).dropWhile (column ≤ ·) =
      (nesting.dedentTo column).columns := by
    rw [List.dropWhile_append_of_pos (by simpa using right)]
    exact congrArg ColumnNesting.columns (dedentTo_of_le (Nat.le_refl column) nesting)
  rw [dedentTo, opening, dropped]
  rfl

theorem opening_zero {nesting : ColumnNesting} (kept : nesting.current ≤ nesting.tally.deepest) :
    nesting.opening [] 0 0 = nesting := by
  rw [opening, Nat.add_zero, Nat.add_zero, Nat.max_eq_left kept]
  rfl

theorem opening_opening (nesting : ColumnNesting) (opened : List Nat)
    (loops depth moreLoops moreDepth : Nat) :
    (nesting.opening [] loops depth).opening opened moreLoops moreDepth =
      nesting.opening opened (loops + moreLoops) (max depth moreDepth) := by
  simp only [opening, current, List.nil_append, Nat.add_assoc, Nat.max_assoc,
    Nat.add_max_add_left]

theorem opening_meetHeader (nesting : ColumnNesting) (column : Nat) (opened : List Nat)
    (loops depth : Nat) :
    (nesting.meetHeader column).opening opened loops depth =
      nesting.opening (opened ++ [column]) (loops + 1) (depth + 1) := by
  simp only [opening, meetHeader, current, LoopTally.charge, List.length_cons, List.append_assoc,
    List.singleton_append, ColumnNesting.mk.injEq, LoopTally.mk.injEq, true_and]
  omega

theorem dedentTo_meetHeader {column further : Nat} (less : column < further)
    (nesting : ColumnNesting) :
    (nesting.meetHeader column).dedentTo further = nesting.meetHeader column := by
  have stays : (column :: nesting.columns).dropWhile (further ≤ ·) = column :: nesting.columns :=
    List.dropWhile_cons_of_neg (by simpa using less)
  rw [dedentTo, meetHeader, stays]

/-! ## Open loops have been counted -/

theorem current_dedentTo_le (nesting : ColumnNesting) (column : Nat) :
    (nesting.dedentTo column).current ≤ nesting.current :=
  (List.dropWhile_sublist _).length_le

theorem current_dedentTo_le_deepest {nesting : ColumnNesting}
    (kept : nesting.current ≤ nesting.tally.deepest) (column : Nat) :
    (nesting.dedentTo column).current ≤ (nesting.dedentTo column).tally.deepest :=
  Nat.le_trans (nesting.current_dedentTo_le column) kept

theorem current_foldl_meetHeader_le {nesting : ColumnNesting}
    (kept : nesting.current ≤ nesting.tally.deepest) (columns : List Nat) :
    (columns.foldl meetHeader nesting).current ≤
      (columns.foldl meetHeader nesting).tally.deepest := by
  induction columns generalizing nesting with
  | nil => exact kept
  | cons column rest induction =>
      apply induction
      exact Nat.le_max_right _ _

theorem current_readLine_le {nesting : ColumnNesting}
    (kept : nesting.current ≤ nesting.tally.deepest) (line : Text) :
    (nesting.readLine line).current ≤ (nesting.readLine line).tally.deepest := by
  unfold readLine
  split
  · exact kept
  · apply current_foldl_meetHeader_le
    exact current_dedentTo_le_deepest kept line.indentation

theorem current_readLines_le {nesting : ColumnNesting}
    (kept : nesting.current ≤ nesting.tally.deepest) (lines : List Text) :
    (nesting.readLines lines).current ≤ (nesting.readLines lines).tally.deepest := by
  induction lines generalizing nesting with
  | nil => exact kept
  | cons line rest induction => exact induction (current_readLine_le kept line)

/-! ## Rows -/

/-- A row's line begins at its column, and what it opens is settled by its words. -/
theorem readLine_row {row : Row} (inked : row.words.head?.all (!isBlank ·) = true)
    (nonempty : row.words.strip ≠ []) (nesting : ColumnNesting) :
    nesting.readLine row.line =
      (if LoopChain.opensLoop row.words.strip then
        row.column :: (LoopChain.linkColumns row.words.strip.masked).map (row.column + ·)
      else []).foldl meetHeader (nesting.dedentTo row.column) := by
  have inkedLine : row.line.strip.isEmpty = false := by
    rw [Row.strip_line]
    exact List.isEmpty_eq_false_iff.mpr nonempty
  rw [readLine, inkedLine, if_neg Bool.false_ne_true, LoopChain.headerColumns, Row.strip_line,
    Row.indentation_line inked]

theorem readLine_plainRow {row : Row} (plain : row.words ∈ Outline.indentedPlainWords)
    (nesting : ColumnNesting) : nesting.readLine row.line = nesting.dedentTo row.column := by
  have inked : ∀ words ∈ Outline.indentedPlainWords,
      words.head?.all (!isBlank ·) = true ∧ words.strip ≠ [] ∧
        LoopChain.opensLoop words.strip = false := by decide +kernel
  rcases inked row.words plain with ⟨starts, nonempty, opensNone⟩
  rw [readLine_row starts nonempty, opensNone]
  rfl

theorem readLine_loopRow (nesting : ColumnNesting) (column : Nat) :
    nesting.readLine (Row.line ⟨column, Outline.indentedLoopWords⟩) =
      (nesting.dedentTo column).meetHeader column := by
  have opens : LoopChain.opensLoop Outline.indentedLoopWords.strip = true := by decide +kernel
  have links : LoopChain.linkColumns Outline.indentedLoopWords.strip.masked = [] := by
    decide +kernel
  have row : nesting.readLine (Row.line ⟨column, Outline.indentedLoopWords⟩) = _ :=
    readLine_row rfl (by simp only; decide) nesting
  rw [row, opens, links]
  rfl

theorem readLines_indentedRows (outline : Outline) {nesting : ColumnNesting} (column : Nat)
    (kept : nesting.current ≤ nesting.tally.deepest) :
    ∃ opened : List Nat, (∀ header ∈ opened, column ≤ header) ∧
      nesting.readLines ((outline.indentedRows column).map Row.line) =
        (nesting.dedentTo column).opening opened outline.loops outline.depth := by
  induction outline generalizing nesting column with
  | statement =>
      have keptHere := current_dedentTo_le_deepest kept column
      refine ⟨[], by simp, ?_⟩
      rw [Outline.indentedRows, List.map_singleton, readLines_cons,
        readLine_plainRow List.mem_cons_self]
      exact (opening_zero keptHere).symm
  | branch body induction =>
      have keptHere := current_dedentTo_le_deepest kept column
      have plain : "if c:".toList ∈ Outline.indentedPlainWords :=
        List.mem_cons_of_mem _ List.mem_cons_self
      rcases induction (column + 4) keptHere with ⟨opened, right, read⟩
      refine ⟨opened, fun header member => Nat.le_trans (by omega) (right header member), ?_⟩
      rw [Outline.indentedRows, List.map_cons, readLines_cons, readLine_plainRow plain, read,
        dedentTo_of_le (by omega)]
      rfl
  | loop body induction =>
      let entered := (nesting.dedentTo column).meetHeader column
      have keptInside : entered.current ≤ entered.tally.deepest := Nat.le_max_right _ _
      rcases induction (column + 4) keptInside with ⟨opened, right, read⟩
      refine ⟨opened ++ [column], ?_, ?_⟩
      · intro header member
        rcases List.mem_append.mp member with inOpened | isOwn
        · exact Nat.le_trans (by omega) (right header inOpened)
        · exact Nat.le_of_eq (List.mem_singleton.mp isOwn).symm
      · rw [Outline.indentedRows, List.map_cons, readLines_cons, readLine_loopRow, read,
          dedentTo_meetHeader (by omega), opening_meetHeader]
        rfl
  | sequence first second firstInduction secondInduction =>
      rcases firstInduction column kept with ⟨openedFirst, rightFirst, readFirst⟩
      have keptBetween :=
        current_readLines_le kept ((first.indentedRows column).map Row.line)
      rcases secondInduction column keptBetween with ⟨opened, right, readSecond⟩
      refine ⟨opened, right, ?_⟩
      rw [Outline.indentedRows, List.map_append, readLines_append, readSecond, readFirst,
        dedentTo_opening rightFirst, opening_opening]
      rfl

/-- The reader of columns counts an indented outline exactly. -/
theorem readLines_indentedText (outline : Outline) :
    (initial.readLines ((outline.indentedRows 0).map Row.line)).tally =
      ⟨outline.loops, outline.depth⟩ := by
  rcases readLines_indentedRows outline 0 (Nat.le_refl initial.current) with ⟨opened, _, read⟩
  rw [read]
  simp [opening, dedentTo, initial, current, LoopTally.zero]

end ColumnNesting

end GrowthGauge
