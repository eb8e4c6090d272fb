import GrowthGauge.Loop.Masked
import GrowthGauge.Pattern.Search

namespace GrowthGauge

/-! ## Loop headers in indented text

Where blocks are indented, a line opens a loop when it begins with a loop
keyword and a space. Further headers may follow on the same line, each after a
colon. The header columns of a line are the columns at which its loops begin. -/

namespace LoopChain

open Pattern

def keyword : Pattern :=
  either (exactly "for") (exactly "while")

/-- A colon and the blanks after it, when another loop header comes next. -/
def link : Pattern :=
  inOrder [char ':', blanks, followedBy (seq keyword (one isBlank))]

/-- The columns behind the links of a line whose literals are masked. -/
def linkColumns (masked : Text) : List Nat :=
  (link.allMatches masked).map (·.column masked)

def opensLoop (stripped : Text) : Bool :=
  "for ".toList.isPrefixOf stripped || "while ".toList.isPrefixOf stripped

/-- The columns at which the loop headers of a line stand, from left to right. -/
def headerColumns (line : Text) : List Nat :=
  if opensLoop line.strip then
    line.indentation ::
      (linkColumns line.strip.masked).map (line.indentation + ·)
  else
    []

example : headerColumns "  for a in xs: for b in ys:".toList = [2, 15] := by decide +kernel

example : headerColumns "for a in ':': while b:".toList = [0, 14] := by decide +kernel

example : headerColumns "x = 1".toList = [] := by decide +kernel

end LoopChain

end GrowthGauge
