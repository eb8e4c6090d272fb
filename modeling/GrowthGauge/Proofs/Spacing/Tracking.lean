import GrowthGauge.Proofs.Nesting.BracedReading
import GrowthGauge.Proofs.Spacing.Lines
import GrowthGauge.Signals

namespace GrowthGauge

namespace Text

theorem strip_indented {indent : Text} (blank : indent.isAllBlank = true) (line : Text) :
    strip (indent ++ line) = line.strip :=
  congrArg stripEnd (stripStart_blank_append blank line)

theorem indentation_gap {gap : Text} {character : Char} (blank : gap.isAllBlank = true)
    (inked : isBlank character = false) (rest : Text) :
    indentation (gap ++ character :: rest) = gap.length :=
  congrArg List.length (takeWhile_gap blank inked rest)

theorem indentation_indented {indent : Text} (blank : indent.isAllBlank = true) (line : Text) :
    indentation (indent ++ line) = indent.length + line.indentation := by
  rw [indentation, List.takeWhile_append_of_pos (isAllBlank_iff.mp blank), List.length_append,
    indentation]

end Text

/-! ## Braced text

The tracker reads the stripped line, so blanks on either side of a line make no
difference. -/

namespace BraceNesting

theorem readLine_eq_of_strip_eq {line other : Text} (same : line.strip = other.strip)
    (nesting : BraceNesting) : nesting.readLine line = nesting.readLine other := by
  rw [readLine, readLine, same, LoopHeader.ofLine?_eq_of_strip_eq same]

theorem ignoresBlanks : Text.IgnoresBlanks readLine where
  blank nesting _ blank := readLine_of_isAllBlank blank nesting
  trailing nesting line _ blank :=
    readLine_eq_of_strip_eq (Text.strip_append_blank blank line) nesting

theorem readLines_indented {indent : Text} (blank : indent.isAllBlank = true)
    (nesting : BraceNesting) (lines : List Text) :
    nesting.readLines (lines.map (indent ++ ·)) = nesting.readLines lines := by
  have same : (fun state line => readLine state (indent ++ line)) = readLine := by
    funext state line
    exact readLine_eq_of_strip_eq (Text.strip_indented blank line) state
  rw [readLines, List.foldl_map, same]
  rfl

end BraceNesting

/-! ## Indented text

A tracker of columns sees where a line begins. Text that is indented as a whole has all
its columns moved by the same width. -/

namespace ColumnNesting

theorem readLine_of_isAllBlank {line : Text} (blank : line.isAllBlank = true)
    (nesting : ColumnNesting) : nesting.readLine line = nesting := by
  rw [readLine, (Text.strip_eq_nil_iff line).mpr blank]
  rfl

theorem ignoresBlanks : Text.IgnoresBlanks readLine where
  blank nesting _ blank := readLine_of_isAllBlank blank nesting
  trailing nesting line after blank := by
    rcases Text.exists_gap line with
      lineBlank | ⟨gap, character, rest, split, gapBlank, inked⟩
    · have whole := Text.isAllBlank_append.mpr ⟨lineBlank, blank⟩
      rw [readLine_of_isAllBlank whole, readLine_of_isAllBlank lineBlank]
    · have column : Text.indentation (line ++ after) = line.indentation := by
        rw [split, List.append_assoc, List.cons_append, Text.indentation_gap gapBlank inked,
          Text.indentation_gap gapBlank inked]
      rw [readLine, readLine, LoopChain.headerColumns, LoopChain.headerColumns,
        Text.strip_append_blank blank, column]

/-- The state in a text that begins further to the right. -/
def shifted (width : Nat) (nesting : ColumnNesting) : ColumnNesting :=
  { nesting with columns := nesting.columns.map (width + ·) }

theorem meetHeader_shifted (width : Nat) (nesting : ColumnNesting) (column : Nat) :
    (nesting.shifted width).meetHeader (width + column) =
      (nesting.meetHeader column).shifted width := by
  simp only [meetHeader, shifted, current, List.map_cons, List.length_map]

theorem foldl_meetHeader_shifted (width : Nat) (nesting : ColumnNesting) (columns : List Nat) :
    (columns.map (width + ·)).foldl meetHeader (nesting.shifted width) =
      (columns.foldl meetHeader nesting).shifted width := by
  induction columns generalizing nesting with
  | nil => rfl
  | cons column rest induction =>
      rw [List.map_cons, List.foldl_cons, List.foldl_cons, meetHeader_shifted, induction]

theorem dedentTo_shifted (width : Nat) (nesting : ColumnNesting) (column : Nat) :
    (nesting.shifted width).dedentTo (width + column) =
      (nesting.dedentTo column).shifted width := by
  have ends : ((width + column ≤ ·) ∘ (width + ·) : Nat → Bool) = (column ≤ ·) := by
    funext other
    simp
  rw [dedentTo, dedentTo, shifted, shifted, List.dropWhile_map, ends]

theorem headerColumns_indented {indent : Text} (blank : indent.isAllBlank = true) (line : Text) :
    LoopChain.headerColumns (indent ++ line) =
      (LoopChain.headerColumns line).map (indent.length + ·) := by
  rw [LoopChain.headerColumns, LoopChain.headerColumns, Text.strip_indented blank,
    Text.indentation_indented blank]
  split
  · simp [Nat.add_assoc]
  · rfl

theorem readLine_indented {indent : Text} (blank : indent.isAllBlank = true)
    (nesting : ColumnNesting) (line : Text) :
    (nesting.shifted indent.length).readLine (indent ++ line) =
      (nesting.readLine line).shifted indent.length := by
  rw [readLine, readLine, Text.strip_indented blank, Text.indentation_indented blank,
    headerColumns_indented blank]
  split
  · rfl
  · rw [dedentTo_shifted, foldl_meetHeader_shifted]

theorem readLines_indented {indent : Text} (blank : indent.isAllBlank = true)
    (nesting : ColumnNesting) (lines : List Text) :
    (nesting.shifted indent.length).readLines (lines.map (indent ++ ·)) =
      (nesting.readLines lines).shifted indent.length := by
  induction lines generalizing nesting with
  | nil => rfl
  | cons line rest induction =>
      have first := readLine_indented blank nesting line
      have later := induction (nesting.readLine line)
      rw [← first] at later
      exact later

end ColumnNesting

/-! ## The loops of a text -/

section

variable (layout : BlockLayout)

theorem loopTally_surrounded {before after : Text} (blank : before.isAllBlank = true)
    (beginsLine : before = [] ∨ before.getLast? = some '\n')
    (afterBlank : after.isAllBlank = true) (text : Text) :
    loopTally layout (before ++ text ++ after) = loopTally layout text := by
  cases layout with
  | braced =>
      exact congrArg BraceNesting.tally (Text.foldl_lines_surrounded BraceNesting.ignoresBlanks
        blank beginsLine afterBlank text .initial)
  | indented =>
      exact congrArg ColumnNesting.tally (Text.foldl_lines_surrounded ColumnNesting.ignoresBlanks
        blank beginsLine afterBlank text .initial)

variable {text : Text}
  (breaks : ∀ character ∈ text, isLineBreak character = true → character = '\n')

include breaks

theorem loopTally_withReturns :
    loopTally layout text.withReturns = loopTally layout text := by
  have lines : text.withReturns.lines = text.lines := Text.linesFrom_withReturns breaks []
  cases layout with
  | braced => rw [loopTally, loopTally, BraceNesting.readText, BraceNesting.readText, lines]
  | indented => rw [loopTally, loopTally, ColumnNesting.readText, ColumnNesting.readText, lines]

theorem loopTally_indentedBy {indent : Text}
    (tabsAndSpaces : indent.all IndentedHeader.isTabOrSpace = true) :
    loopTally layout (Text.indentedBy indent text) = loopTally layout text := by
  have blank := Text.isAllBlank_of_tabsAndSpaces tabsAndSpaces
  cases layout with
  | braced =>
      have read :=
        Text.foldl_lines_indented breaks BraceNesting.ignoresBlanks tabsAndSpaces .initial
      exact congrArg BraceNesting.tally
        (read.trans (BraceNesting.readLines_indented blank .initial text.lines))
  | indented =>
      have read :=
        Text.foldl_lines_indented breaks ColumnNesting.ignoresBlanks tabsAndSpaces .initial
      have moved := ColumnNesting.readLines_indented blank .initial text.lines
      have tally := congrArg ColumnNesting.tally (read.trans moved)
      exact tally

end

end GrowthGauge
