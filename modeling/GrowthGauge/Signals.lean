import GrowthGauge.Declaration
import GrowthGauge.Halving
import GrowthGauge.Layout
import GrowthGauge.Nesting.Brace
import GrowthGauge.Nesting.Column

namespace GrowthGauge

/-! ## Signals

What a scan reads off a snippet: its loops, the calls that its primary function
makes to itself, and the textual hints at divide and conquer. Nothing is run. -/

structure Signals where
  loops : Nat
  deepest : Nat
  layout : BlockLayout
  functionName : Option String
  selfCalls : Nat
  halving : Bool
  mergeHint : Bool
deriving Repr, DecidableEq

namespace Signals

def isRecursive (signals : Signals) : Bool :=
  1 ≤ signals.selfCalls

end Signals

/-- The loops of a snippet, counted by the tracker for its layout. -/
def loopTally (layout : BlockLayout) (snippet : Text) : LoopTally :=
  match layout with
  | .braced => (BraceNesting.initial.readText snippet).tally
  | .indented => (ColumnNesting.initial.readText snippet).tally

/-- The signals of a snippet. Each is read off the text on its own. -/
def scan (snippet : Text) : Signals :=
  let layout := BlockLayout.ofSnippet snippet
  let tally := loopTally layout snippet
  let primary := PrimaryFunction.ofSnippet snippet
  { loops := tally.loops
    deepest := tally.deepest
    layout
    functionName := primary.name.map String.ofList
    selfCalls := primary.selfCalls
    halving := hasHalving snippet
    mergeHint := hasMergeHint snippet }

end GrowthGauge
