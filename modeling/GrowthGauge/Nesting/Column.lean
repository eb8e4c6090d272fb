import GrowthGauge.Loop.Chain
import GrowthGauge.Nesting.Tally

namespace GrowthGauge

/-! ## Nesting in indented text

The tracker keeps the header column of every open loop, innermost first. A loop
ends at the first later line that begins at its header's column or left of it. -/

structure ColumnNesting where
  columns : List Nat
  tally : LoopTally
deriving Repr, DecidableEq

namespace ColumnNesting

def initial : ColumnNesting :=
  ⟨[], .zero⟩

/-- The number of loops open after the last line. -/
def current (nesting : ColumnNesting) : Nat :=
  nesting.columns.length

def meetHeader (nesting : ColumnNesting) (column : Nat) : ColumnNesting :=
  ⟨column :: nesting.columns, nesting.tally.charge (nesting.current + 1)⟩

/-- A line that begins at `column` ends the loops at that column and right of it. -/
def dedentTo (nesting : ColumnNesting) (column : Nat) : ColumnNesting :=
  { nesting with columns := nesting.columns.dropWhile (column ≤ ·) }

/-- A blank line leaves everything as it is. -/
def readLine (nesting : ColumnNesting) (line : Text) : ColumnNesting :=
  if line.strip.isEmpty then
    nesting
  else
    (LoopChain.headerColumns line).foldl meetHeader (nesting.dedentTo line.indentation)

def readLines (nesting : ColumnNesting) (lines : List Text) : ColumnNesting :=
  lines.foldl readLine nesting

def readText (nesting : ColumnNesting) (text : Text) : ColumnNesting :=
  nesting.readLines text.lines

example :
    (initial.readText "for a in b:\n  for c in d:\n    e\nf".toList) = ⟨[], ⟨2, 2⟩⟩ := by
  decide +kernel

end ColumnNesting

end GrowthGauge
