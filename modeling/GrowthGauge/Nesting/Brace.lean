import GrowthGauge.Loop.Header
import GrowthGauge.Nesting.Tally

namespace GrowthGauge

/-! ## Nesting in braced text

The tracker reads one line after another. A loop is charged where its keyword
stands, before its opening brace, so the brace may end the header's line or
begin the next one. A header waits until its brace comes; a header without a
brace covers only its own statement or the line after it. The loop is open until
the brace that it opened is closed.

`bodies` holds the brace depth of every open loop body, innermost first.
`waiting` counts the headers that still wait for their brace, and `parens` the
parentheses that a header split over lines has left open. -/

structure BraceNesting where
  depth : Nat
  bodies : List Nat
  waiting : Nat
  parens : Nat
  tally : LoopTally
deriving Repr, DecidableEq

namespace BraceNesting

def initial : BraceNesting :=
  ⟨0, [], 0, 0, .zero⟩

/-- The number of loops open after the last line. -/
def current (nesting : BraceNesting) : Nat :=
  nesting.bodies.length + nesting.waiting

/-- A loop header has been met and waits for its body. -/
def meetHeader (nesting : BraceNesting) : BraceNesting :=
  { nesting with
    waiting := nesting.waiting + 1
    tally := nesting.tally.charge (nesting.current + 1) }

/-- An opening brace is the body of the header that waits, if one does. -/
def openBrace (nesting : BraceNesting) : BraceNesting :=
  let depth := nesting.depth + 1
  match nesting.waiting with
  | 0 => { nesting with depth }
  | waiting + 1 =>
      { nesting with depth, waiting, parens := 0, bodies := depth :: nesting.bodies }

/-- A closing brace ends the loops whose bodies lie at this depth or deeper. One
that nothing opened is ignored. -/
def closeBrace (nesting : BraceNesting) : BraceNesting :=
  { nesting with
    bodies := nesting.bodies.dropWhile (nesting.depth ≤ ·)
    depth := nesting.depth - 1 }

/-- Parentheses count only while a header waits. -/
def readChar (nesting : BraceNesting) (character : Char) : BraceNesting :=
  if character == '{' then
    nesting.openBrace
  else if character == '}' then
    nesting.closeBrace
  else if nesting.waiting == 0 then
    nesting
  else if character == '(' then
    { nesting with parens := nesting.parens + 1 }
  else if character == ')' then
    { nesting with parens := nesting.parens - 1 }
  else
    nesting

/-- After a line, a header that is not split over lines stops waiting when its
statement has come: the line ends in a semicolon, or a header waited already
before the line and the line is no header itself. -/
def endLine (awaited isHeader : Bool) (stripped : Text) (nesting : BraceNesting) :
    BraceNesting :=
  if nesting.parens != 0 then
    nesting
  else if stripped.getLast? == some ';' || (awaited && !isHeader) then
    { nesting with waiting := 0 }
  else
    nesting

/-- A blank line leaves everything as it is. -/
def readLine (nesting : BraceNesting) (line : Text) : BraceNesting :=
  let stripped := line.strip
  if stripped.isEmpty then
    nesting
  else
    let awaited := nesting.waiting != 0 && nesting.parens == 0
    let isHeader := (LoopHeader.ofLine? line).isSome
    let opened := if isHeader then nesting.meetHeader else nesting
    (stripped.foldl readChar opened).endLine awaited isHeader stripped

def readLines (nesting : BraceNesting) (lines : List Text) : BraceNesting :=
  lines.foldl readLine nesting

def readText (nesting : BraceNesting) (text : Text) : BraceNesting :=
  nesting.readLines text.lines

example :
    (initial.readText "for (;;)\n\x7b\n  while (x) y();\n\x7d".toList).tally = ⟨2, 2⟩ := by
  decide +kernel

end BraceNesting

end GrowthGauge
