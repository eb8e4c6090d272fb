namespace GrowthGauge

/-! ## What a nesting tracker counts

Both trackers count the loops they meet and remember the deepest nesting. A
loop is charged once, at the nesting it brings about. -/

structure LoopTally where
  loops : Nat
  deepest : Nat
deriving Repr, DecidableEq

namespace LoopTally

def zero : LoopTally :=
  ⟨0, 0⟩

def charge (tally : LoopTally) (nesting : Nat) : LoopTally :=
  ⟨tally.loops + 1, max tally.deepest nesting⟩

end LoopTally

end GrowthGauge
