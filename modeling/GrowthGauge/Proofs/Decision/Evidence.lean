import GrowthGauge.Proofs.Decision.Region
import GrowthGauge.Proofs.Outline.Agreement
import GrowthGauge.Proofs.Signals.Loopless
import Mathlib.Order.Lattice
import Mathlib.Order.Monotone.Basic

namespace GrowthGauge

/-! ## The order of growth -/

namespace Growth

theorem mem_all (growth : Growth) : growth ∈ all := by
  cases growth <;> decide

/-- The place of a growth among all of them, the slowest first. -/
def rank (growth : Growth) : Nat :=
  all.idxOf growth

theorem rank_injective : Function.Injective rank := fun growth _ same =>
  (List.idxOf_inj (mem_all growth)).mp same

instance : LinearOrder Growth :=
  LinearOrder.lift' rank rank_injective

theorem pairwise_lt_all : all.Pairwise (· < ·) := by decide

example : all.map text = ["O(1)", "O(log n)", "O(n)", "O(n log n)", "O(n²)", "O(n³)", "O(2ⁿ)"] := rfl

theorem constant_le (growth : Growth) : constant ≤ growth := by
  cases growth <;> decide

theorem ofCalls_mono (halving : Bool) : Monotone (ofCalls halving) := by
  apply monotone_nat_of_le_succ
  rintro (_ | _ | calls)
  · exact constant_le _
  · cases halving <;> decide
  · exact le_rfl

theorem ofDepth_mono : Monotone ofDepth := by
  apply monotone_nat_of_le_succ
  rintro (_ | _ | _ | depth)
  · exact constant_le _
  · decide
  · decide
  · exact le_rfl

end Growth

/-! ## More evidence

Signals outdo others if they show at least as many loops, as deep a nesting, as many calls
and no less of a hint at a merge. Halving slows growth and has to be the same. -/

structure Signals.AreWithin (signals other : Signals) : Prop where
  loops : signals.loops ≤ other.loops
  deepest : signals.deepest ≤ other.deepest
  selfCalls : signals.selfCalls ≤ other.selfCalls
  mergeHint : signals.mergeHint = true → other.mergeHint = true
  halving : signals.halving = other.halving

/-- A recursion without loops meets loops, which take precedence over it. -/
def Signals.GiveWayTo (signals other : Signals) : Prop :=
  signals.isRecursive = true ∧ signals.loops = 0 ∧ 0 < other.loops

namespace DecisionRule

variable {rule otherRule : DecisionRule} {signals other : Signals}

/-! ### The growth in each part of the table -/

theorem Region.of_flat (region : rule.Region signals) (looping : signals.loops ≠ 0)
    (flat : signals.deepest = 1) :
    rule = mergeDivide ∨ rule = halvingLoop ∨ rule = singleLoop := by
  cases rule with
  | mergeDivide => exact .inl rfl
  | halvingLoop => exact .inr (.inl rfl)
  | singleLoop => exact .inr (.inr rfl)
  | branchingRecursion | halvingRecursion | linearRecursion | noLoops =>
      exact absurd region.1 looping
  | nestedLoops => exact absurd (flat.symm.trans region) (by decide)
  | deepNesting =>
      have deep : 3 ≤ signals.deepest := region
      omega

theorem Region.growth_of_nested (region : rule.Region signals) (looping : signals.loops ≠ 0)
    (nested : 2 ≤ signals.deepest) : rule.growth = Growth.ofDepth signals.deepest := by
  cases rule with
  | branchingRecursion | halvingRecursion | linearRecursion | noLoops =>
      exact absurd region.1 looping
  | mergeDivide | singleLoop => exact absurd nested (by rw [region.1]; decide)
  | halvingLoop => exact absurd nested (by rw [region.2.1]; decide)
  | nestedLoops =>
      have double : signals.deepest = 2 := region
      rw [double]
      rfl
  | deepNesting =>
      rcases Nat.exists_eq_add_of_le' (region : 3 ≤ signals.deepest) with ⟨more, depth⟩
      rw [depth]
      rfl

theorem Region.growth_le_cubic (region : rule.Region signals) (looping : signals.loops ≠ 0) :
    rule.growth ≤ .cubic := by
  cases rule with
  | branchingRecursion => exact absurd region.1 looping
  | _ => decide

/-- Only a halving loop without calls grows slower than its loops. -/
theorem Region.linear_le_growth (region : rule.Region signals) (looping : signals.loops ≠ 0)
    (called : 1 ≤ signals.selfCalls) : .linear ≤ rule.growth := by
  cases rule with
  | halvingRecursion | noLoops => exact absurd region.1 looping
  | halvingLoop =>
      have callless : signals.selfCalls = 0 := region.2.2.2.1
      omega
  | _ => decide

theorem growth_deciding_of_none (counted : signals.tally.IsConsistent)
    (none : signals.loops = 0) :
    (deciding signals).growth = Growth.ofCalls signals.halving signals.selfCalls :=
  growth_deciding_of_loopless none (counted.loops_eq_zero_iff.mp none)

/-! ### Growth and evidence -/

/-- Where no loop stands in another, more loops or calls may end a halving loop, and more
calls or a hint may begin a merge, both of which raise the growth. -/
theorem Region.growth_le_of_flat (region : rule.Region signals)
    (otherRegion : otherRule.Region other) (within : signals.AreWithin other)
    (looping : signals.loops ≠ 0) (flat : signals.deepest = 1) (otherFlat : other.deepest = 1) :
    rule.growth ≤ otherRule.growth := by
  have more := within.loops
  have calls := within.selfCalls
  have otherLooping : other.loops ≠ 0 := by omega
  rcases region.of_flat looping flat with rfl | rfl | rfl
  · have hint : other.mergeHint = true := within.mergeHint region.2.1
    rcases otherRegion.of_flat otherLooping otherFlat with rfl | rfl | rfl
    · exact le_rfl
    · exact absurd (hint.symm.trans otherRegion.2.2.2.2) (by decide)
    · rcases otherRegion.2.1 hint with ⟨noHalving, callless⟩
      rcases region.2.2 with halving | called
      · exact absurd (halving.symm.trans (within.halving.trans noHalving)) (by decide)
      · omega
  · rcases otherRegion.of_flat otherLooping otherFlat with rfl | rfl | rfl <;> decide
  · rcases otherRegion.of_flat otherLooping otherFlat with rfl | rfl | rfl
    · decide
    · rcases otherRegion with ⟨single, _, halving, callless, _⟩
      have several := region.2.2 (within.halving.trans halving) (by omega)
      omega
    · exact le_rfl

/-- The growth of loops in each other is that of their depth, and no rule for a single level
comes to more than two levels do. -/
theorem Region.growth_le_of_nested (region : rule.Region signals)
    (otherRegion : otherRule.Region other) (within : signals.AreWithin other)
    (looping : signals.loops ≠ 0) (deep : signals.deepest ≠ 0) (otherNested : 2 ≤ other.deepest) :
    rule.growth ≤ otherRule.growth := by
  have more := within.loops
  have otherLooping : other.loops ≠ 0 := by omega
  rw [otherRegion.growth_of_nested otherLooping otherNested]
  by_cases flat : signals.deepest = 1
  · refine le_trans ?_ (Growth.ofDepth_mono otherNested)
    rcases region.of_flat looping flat with rfl | rfl | rfl <;> decide
  · rw [region.growth_of_nested looping (by omega)]
    exact Growth.ofDepth_mono within.deepest

theorem growth_deciding_le_of_none (counted : signals.tally.IsConsistent)
    (otherCounted : other.tally.IsConsistent) (within : signals.AreWithin other)
    (stays : ¬signals.GiveWayTo other) (none : signals.loops = 0) :
    (deciding signals).growth ≤ (deciding other).growth := by
  rw [growth_deciding_of_none counted none]
  by_cases otherNone : other.loops = 0
  · rw [growth_deciding_of_none otherCounted otherNone, within.halving]
    exact Growth.ofCalls_mono _ within.selfCalls
  · have callless : signals.selfCalls = 0 := by
      by_contra called
      exact stays ⟨Signals.isRecursive_iff.mpr (by omega), none, by omega⟩
    rw [callless]
    exact Growth.constant_le _

theorem growth_deciding_le (counted : signals.tally.IsConsistent)
    (otherCounted : other.tally.IsConsistent) (within : signals.AreWithin other)
    (stays : ¬signals.GiveWayTo other) :
    (deciding signals).growth ≤ (deciding other).growth := by
  have region := region_deciding counted
  have otherRegion := region_deciding otherCounted
  have deeper := within.deepest
  by_cases none : signals.loops = 0
  · exact growth_deciding_le_of_none counted otherCounted within stays none
  · have deep : signals.deepest ≠ 0 := mt counted.loops_eq_zero_iff.mpr none
    by_cases otherFlat : other.deepest = 1
    · have flat : signals.deepest = 1 := by omega
      exact region.growth_le_of_flat otherRegion within none flat otherFlat
    · exact region.growth_le_of_nested otherRegion within none deep (by omega)

/-- A single call is at most linear, as any loops beside a recursion are at least. Several
calls are exponential, which no loops are. -/
theorem growth_deciding_le_iff_of_giveWayTo (counted : signals.tally.IsConsistent)
    (otherCounted : other.tally.IsConsistent) (within : signals.AreWithin other)
    (yields : signals.GiveWayTo other) :
    (deciding signals).growth ≤ (deciding other).growth ↔ signals.selfCalls = 1 := by
  rcases yields with ⟨recursive, none, looping⟩
  have otherRegion := region_deciding otherCounted
  have called := Signals.isRecursive_iff.mp recursive
  rw [growth_deciding_of_none counted none]
  constructor
  · intro le
    by_contra several
    have exponential : Growth.ofCalls signals.halving signals.selfCalls = .exponential :=
      (Growth.ofCalls_eq_exponential_iff _ _).mpr (by omega)
    rw [exponential] at le
    have tooSlow := le.trans (otherRegion.growth_le_cubic looping.ne')
    revert tooSlow
    decide
  · intro single
    have slow : Growth.ofCalls signals.halving 1 ≤ .linear := by
      cases signals.halving <;> decide
    rw [single]
    exact slow.trans (otherRegion.linear_le_growth looping.ne' (called.trans within.selfCalls))

end DecisionRule

/-- More evidence never lowers the growth of the verdict, except where a recursion without
loops gives way to loops. There it does, unless the recursion has a single call. -/
theorem Signals.verdict_growth_le {signals other : Signals}
    (counted : signals.tally.IsConsistent) (otherCounted : other.tally.IsConsistent)
    (within : signals.AreWithin other) :
    (¬signals.GiveWayTo other → signals.verdict.growth ≤ other.verdict.growth) ∧
      (signals.GiveWayTo other →
        (signals.verdict.growth ≤ other.verdict.growth ↔ signals.selfCalls = 1)) :=
  ⟨DecisionRule.growth_deciding_le counted otherCounted within,
    DecisionRule.growth_deciding_le_iff_of_giveWayTo counted otherCounted within⟩

/-- A halving loop beside a merge with calls is outdone, and so is the exponential recursion
beside three nested loops, but that one loses its growth. -/
theorem Signals.verdict_growth_le_examples :
    let halvingLoop : Signals := ⟨1, 1, .braced, none, 0, true, false⟩
    let merge : Signals := ⟨3, 1, .indented, some "sort", 2, true, true⟩
    let recursion : Signals := ⟨0, 0, .braced, some "fib", 2, false, false⟩
    let loops : Signals := ⟨3, 3, .braced, some "fib", 2, false, false⟩
    (halvingLoop.tally.IsConsistent ∧ merge.tally.IsConsistent ∧
      halvingLoop.AreWithin merge ∧ ¬halvingLoop.GiveWayTo merge) ∧
    (recursion.tally.IsConsistent ∧ loops.tally.IsConsistent ∧
      recursion.AreWithin loops ∧ recursion.GiveWayTo loops) ∧
    halvingLoop.verdict.growth ≤ merge.verdict.growth ∧
    ¬recursion.verdict.growth ≤ loops.verdict.growth := by
  intro halvingLoop merge recursion loops
  have counted : halvingLoop.tally.IsConsistent := ⟨by decide, by decide⟩
  have otherCounted : merge.tally.IsConsistent := ⟨by decide, by decide⟩
  have within : halvingLoop.AreWithin merge :=
    ⟨by decide, by decide, by decide, by decide, by decide⟩
  have stays : ¬halvingLoop.GiveWayTo merge := fun yields => absurd yields.2.1 (by decide)
  have recursionCounted : recursion.tally.IsConsistent := ⟨by decide, by decide⟩
  have loopsCounted : loops.tally.IsConsistent := ⟨by decide, by decide⟩
  have recursionWithin : recursion.AreWithin loops :=
    ⟨by decide, by decide, by decide, by decide, by decide⟩
  have yields : recursion.GiveWayTo loops := ⟨by decide, by decide, by decide⟩
  refine ⟨⟨counted, otherCounted, within, stays⟩,
    ⟨recursionCounted, loopsCounted, recursionWithin, yields⟩, ?_, ?_⟩
  · exact (Signals.verdict_growth_le counted otherCounted within).1 stays
  · rw [(Signals.verdict_growth_le recursionCounted loopsCounted recursionWithin).2 yields]
    decide

end GrowthGauge
