import GrowthGauge.Proofs.Analysis.Outcomes
import GrowthGauge.Proofs.Nesting.Counting

namespace GrowthGauge

/-! ## Where each rule decides

A rule decides where it applies and no rule above it does, so its own condition tells only
half of when it decides. Where the loops are counted consistently, the nine conditions and
their order come to nine regions. -/

/-- The loops and their deepest nesting, as a tracker has counted them. -/
def Signals.tally (signals : Signals) : LoopTally :=
  ⟨signals.loops, signals.deepest⟩

theorem Signals.isRecursive_iff {signals : Signals} :
    signals.isRecursive = true ↔ 1 ≤ signals.selfCalls :=
  decide_eq_true_iff

theorem isConsistent_tally_scan (snippet : Text) : (scan snippet).tally.IsConsistent :=
  isConsistent_loopTally (BlockLayout.ofSnippet snippet) snippet

namespace DecisionRule

/-- Everything that is known of the signals where the rule decides. -/
def Region (rule : DecisionRule) (signals : Signals) : Prop :=
  match rule with
  | branchingRecursion => signals.loops = 0 ∧ 2 ≤ signals.selfCalls
  | halvingRecursion => signals.loops = 0 ∧ signals.selfCalls = 1 ∧ signals.halving = true
  | linearRecursion => signals.loops = 0 ∧ signals.selfCalls = 1 ∧ signals.halving = false
  | mergeDivide =>
      signals.deepest = 1 ∧ signals.mergeHint = true ∧
        (signals.halving = true ∨ 1 ≤ signals.selfCalls)
  | halvingLoop =>
      signals.loops = 1 ∧ signals.deepest = 1 ∧ signals.halving = true ∧
        signals.selfCalls = 0 ∧ signals.mergeHint = false
  | noLoops => signals.loops = 0 ∧ signals.selfCalls = 0
  | singleLoop =>
      signals.deepest = 1 ∧
        (signals.mergeHint = true → signals.halving = false ∧ signals.selfCalls = 0) ∧
        (signals.halving = true → signals.selfCalls = 0 → 2 ≤ signals.loops)
  | nestedLoops => signals.deepest = 2
  | deepNesting => 3 ≤ signals.deepest

variable {rule : DecisionRule} {signals : Signals}

/-- The rules that are tried before this one. -/
def above (rule : DecisionRule) : List DecisionRule :=
  all.takeWhile (· != rule)

theorem IsFirst.eq_false_of_mem_above (first : rule.IsFirst signals) {earlier : DecisionRule}
    (member : earlier ∈ rule.above) : earlier.applies signals = false := by
  rcases first with ⟨before, after, split, applies, skipped⟩
  have others : ∀ other ∈ before, (other != rule) = true := by
    intro other inBefore
    rw [bne_iff_ne]
    rintro rfl
    rw [skipped other inBefore] at applies
    cases applies
  have front : rule.above = before := by
    rw [above, split, List.takeWhile_append_of_pos others, List.takeWhile_cons_of_neg (by simp),
      List.append_nil]
  exact skipped earlier (front ▸ member)

theorem isLooplessRecursion_iff :
    isLooplessRecursion signals = true ↔ 1 ≤ signals.selfCalls ∧ signals.loops = 0 := by
  rw [isLooplessRecursion, Bool.and_eq_true, Signals.isRecursive_iff, beq_iff_eq]

theorem branchingRecursion_applies_iff :
    branchingRecursion.applies signals = true ↔ signals.loops = 0 ∧ 2 ≤ signals.selfCalls := by
  simp only [DecisionRule.applies, Bool.and_eq_true, isLooplessRecursion_iff, decide_eq_true_iff]
  omega

theorem halvingRecursion_applies_iff :
    halvingRecursion.applies signals = true ↔
      (1 ≤ signals.selfCalls ∧ signals.loops = 0) ∧ signals.halving = true := by
  simp only [DecisionRule.applies, Bool.and_eq_true, isLooplessRecursion_iff]

theorem mergeDivide_applies_iff :
    mergeDivide.applies signals = true ↔
      signals.deepest = 1 ∧ signals.mergeHint = true ∧
        (signals.halving = true ∨ 1 ≤ signals.selfCalls) := by
  simp [DecisionRule.applies, Signals.isRecursive_iff, and_assoc]

theorem halvingLoop_applies_iff :
    halvingLoop.applies signals = true ↔
      signals.loops = 1 ∧ signals.deepest = 1 ∧ signals.halving = true ∧
        signals.selfCalls = 0 := by
  simp [DecisionRule.applies, Signals.isRecursive, and_assoc]

/-- Where a rule decides, its own condition holds, those above it fail, and the loops
are counted consistently. -/
theorem IsFirst.region (first : rule.IsFirst signals) (counted : signals.tally.IsConsistent) :
    rule.Region signals := by
  have applies : rule.applies signals = true := first.choose_spec.choose_spec.2.1
  have fails (earlier : DecisionRule) (member : earlier ∈ rule.above) :
      ¬earlier.applies signals = true := by
    rw [first.eq_false_of_mem_above member]
    exact Bool.false_ne_true
  have bounded : signals.deepest ≤ signals.loops := counted.deepest_le
  have loopless : signals.loops = 0 ↔ signals.deepest = 0 := counted.loops_eq_zero_iff
  cases rule with
  | branchingRecursion => exact branchingRecursion_applies_iff.mp applies
  | halvingRecursion =>
      have notBranching :=
        mt branchingRecursion_applies_iff.mpr (fails branchingRecursion (by decide))
      rcases halvingRecursion_applies_iff.mp applies with ⟨⟨called, none⟩, halving⟩
      exact ⟨none, by omega, halving⟩
  | linearRecursion =>
      have notBranching :=
        mt branchingRecursion_applies_iff.mpr (fails branchingRecursion (by decide))
      have notHalving := mt halvingRecursion_applies_iff.mpr (fails halvingRecursion (by decide))
      rcases isLooplessRecursion_iff.mp applies with ⟨called, none⟩
      refine ⟨none, by omega, ?_⟩
      rw [← Bool.not_eq_true]
      exact fun halving => notHalving ⟨⟨called, none⟩, halving⟩
  | mergeDivide => exact mergeDivide_applies_iff.mp applies
  | halvingLoop =>
      have notMerge := mt mergeDivide_applies_iff.mpr (fails mergeDivide (by decide))
      rcases halvingLoop_applies_iff.mp applies with ⟨single, flat, halving, callless⟩
      refine ⟨single, flat, halving, callless, ?_⟩
      rw [← Bool.not_eq_true]
      exact fun hint => notMerge ⟨flat, hint, .inl halving⟩
  | noLoops =>
      have notLinear := mt isLooplessRecursion_iff.mpr (fails linearRecursion (by decide))
      have none : signals.loops = 0 := eq_of_beq applies
      exact ⟨none, by omega⟩
  | singleLoop =>
      have notMerge := mt mergeDivide_applies_iff.mpr (fails mergeDivide (by decide))
      have notHalving := mt halvingLoop_applies_iff.mpr (fails halvingLoop (by decide))
      have looping : ¬signals.loops = 0 := mt beq_iff_eq.mpr (fails noLoops (by decide))
      have shallow : signals.deepest ≤ 1 := of_decide_eq_true applies
      have flat : signals.deepest = 1 := by omega
      refine ⟨flat, ?_, ?_⟩
      · intro hint
        rw [← Bool.not_eq_true, ← Nat.lt_one_iff, ← Nat.not_le]
        exact not_or.mp fun either => notMerge ⟨flat, hint, either⟩
      · intro halving callless
        have several : signals.loops ≠ 1 := fun single =>
          notHalving ⟨single, flat, halving, callless⟩
        omega
  | nestedLoops => exact eq_of_beq applies
  | deepNesting =>
      have notSingle : ¬signals.deepest ≤ 1 := mt decide_eq_true (fails singleLoop (by decide))
      have notDouble : ¬signals.deepest = 2 := mt beq_iff_eq.mpr (fails nestedLoops (by decide))
      exact (by omega : 3 ≤ signals.deepest)

theorem region_deciding (counted : signals.tally.IsConsistent) :
    (deciding signals).Region signals :=
  (isFirst_deciding signals).region counted

end DecisionRule

end GrowthGauge
