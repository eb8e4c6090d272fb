import GrowthGauge.Proofs.Decision.Region

namespace GrowthGauge.DecisionRule

/-! ## What a verdict says of the loops and calls

The first steps of a verdict tell what was found. Each rule tells it in words of its own,
beside the condition under which it applies, and the words may claim more than the condition
asks for. -/

/-- The step in which a rule tells of the loops or calls. -/
def finding (rule : DecisionRule) (signals : Signals) : String :=
  match rule with
  | branchingRecursion => s!"Each call branches into {signals.selfCalls} subproblems"
  | halvingRecursion | linearRecursion => foundRecursion signals
  | mergeDivide => "Found merge/split/divide pattern with a single loop"
  | halvingLoop => "Found 1 loop"
  | noLoops => "No loops or recursive calls detected"
  | singleLoop => s!"Found {signals.loops} loop(s) with no nesting"
  | nestedLoops => "Found 2 levels of loop nesting"
  | deepNesting => s!"Found {signals.deepest} levels of loop nesting"

theorem finding_mem_steps (rule : DecisionRule) (signals : Signals) :
    rule.finding signals ∈ rule.steps signals := by
  cases rule with
  | branchingRecursion => exact List.mem_cons_of_mem _ List.mem_cons_self
  | _ => exact List.mem_cons_self

/-- The step that owns up to counting a deeper nesting as three levels. -/
def depthWarning : String :=
  "Nesting deeper than three levels is approximated as cubic time"

/-- What has to be true of the signals for the words of a rule to be. -/
def Premise (rule : DecisionRule) (signals : Signals) : Prop :=
  match rule with
  | branchingRecursion => signals.loops = 0 ∧ 2 ≤ signals.selfCalls
  | halvingRecursion | linearRecursion => signals.loops = 0 ∧ signals.selfCalls = 1
  | mergeDivide | halvingLoop => signals.loops = 1
  | noLoops => signals.loops = 0 ∧ signals.selfCalls = 0
  | singleLoop => 1 ≤ signals.loops ∧ signals.deepest = 1
  | nestedLoops => signals.deepest = 2
  | deepNesting =>
      3 ≤ signals.deepest ∧ (depthWarning ∈ deepNesting.steps signals ↔ 3 < signals.deepest)

variable {rule : DecisionRule} {signals : Signals}

/-- The step is told from others by its first letter. -/
theorem depthWarning_ne_append {front : String} {letter : Char}
    (starts : front.toList.head? = some letter) (different : letter ≠ 'N') (rest : String) :
    depthWarning ≠ front ++ rest := by
  intro same
  have first : some 'N' = (front.toList ++ rest.toList).head? := by
    rw [← String.toList_append, ← same]
    rfl
  rw [List.head?_append, starts] at first
  exact different (Option.some.inj first).symm

theorem depthWarning_not_mem_recursionNote : depthWarning ∉ recursionNote signals := by
  rw [recursionNote]
  split
  · rw [List.mem_singleton, String.append_assoc]
    exact depthWarning_ne_append rfl (by decide) _
  · exact List.not_mem_nil

theorem depthWarning_mem_depthNote_iff :
    depthWarning ∈ depthNote signals ↔ 3 < signals.deepest := by
  rw [depthNote]
  split
  · next deep => exact iff_of_true List.mem_cons_self deep
  · next shallow => exact iff_of_false List.not_mem_nil shallow

theorem depthWarning_mem_steps_iff :
    depthWarning ∈ deepNesting.steps signals ↔ 3 < signals.deepest := by
  have noFinding : depthWarning ∉ [s!"Found {signals.deepest} levels of loop nesting",
      "Each loop iterates up to n times", "Total iterations: n × n × n = n³"] := by
    rw [List.mem_cons, String.append_assoc]
    exact not_or.mpr ⟨depthWarning_ne_append rfl (by decide) _, by decide⟩
  rw [steps, List.mem_append, List.mem_append, depthWarning_mem_depthNote_iff]
  exact ⟨fun stated => (stated.resolve_right depthWarning_not_mem_recursionNote).resolve_left
    noFinding, fun deep => .inl (.inr deep)⟩

/-- The words of a rule are true wherever the rule decides, but for those of the merge, which
speak of a single loop where the rule only asks that no loop stands in another. -/
theorem Region.premise_iff (region : rule.Region signals)
    (counted : signals.tally.IsConsistent) :
    rule.Premise signals ↔ ¬(rule = mergeDivide ∧ 2 ≤ signals.loops) := by
  have bounded : signals.deepest ≤ signals.loops := counted.deepest_le
  cases rule with
  | mergeDivide =>
      have flat : signals.deepest = 1 := region.1
      change signals.loops = 1 ↔ _
      simp only [true_and]
      omega
  | branchingRecursion | noLoops => exact iff_of_true region (by simp)
  | halvingRecursion | linearRecursion => exact iff_of_true ⟨region.1, region.2.1⟩ (by simp)
  | halvingLoop => exact iff_of_true region.1 (by simp)
  | singleLoop =>
      have flat : signals.deepest = 1 := region.1
      exact iff_of_true ⟨by omega, flat⟩ (by simp)
  | nestedLoops => exact iff_of_true region (by simp)
  | deepNesting => exact iff_of_true ⟨region, depthWarning_mem_steps_iff⟩ (by simp)

/-- A verdict tells of the loops or calls in its steps, and what it tells is true unless the
deciding rule is the merge and there are several loops beside each other. -/
theorem deciding_premise_iff (counted : signals.tally.IsConsistent) :
    (deciding signals).finding signals ∈ signals.verdict.steps ∧
      ((deciding signals).Premise signals ↔
        ¬(deciding signals = mergeDivide ∧ 2 ≤ signals.loops)) :=
  ⟨finding_mem_steps (deciding signals) signals, (region_deciding counted).premise_iff counted⟩

/-- Six loops, four of them in each other, are told truly. Two loops beside each other that
merge are not. -/
theorem deciding_premise_iff_examples :
    let nest : Signals := ⟨6, 4, .braced, none, 0, true, true⟩
    let passes : Signals := ⟨2, 1, .indented, some "sort", 2, false, true⟩
    nest.tally.IsConsistent ∧ passes.tally.IsConsistent ∧
      (deepNesting.Premise nest ∧ "Found 4 levels of loop nesting" ∈ nest.verdict.steps) ∧
      ¬mergeDivide.Premise passes ∧
      "Found merge/split/divide pattern with a single loop" ∈ passes.verdict.steps := by
  intro nest passes
  have nestCounted : nest.tally.IsConsistent := ⟨by decide, by decide⟩
  have passesCounted : passes.tally.IsConsistent := ⟨by decide, by decide⟩
  have nestDecides : deciding nest = deepNesting := by decide
  have passesDecides : deciding passes = mergeDivide := by decide
  have nestTold := deciding_premise_iff nestCounted
  have passesTold := deciding_premise_iff passesCounted
  have nestFinding : deepNesting.finding nest = "Found 4 levels of loop nesting" := by
    decide +kernel
  rw [nestDecides, nestFinding] at nestTold
  rw [passesDecides] at passesTold
  refine ⟨nestCounted, passesCounted, ⟨nestTold.2.mpr (by decide), nestTold.1⟩, ?_, passesTold.1⟩
  rw [passesTold.2]
  decide

/-- Two loops beside each other that merge halves are said to be a single loop. -/
theorem not_forall_premise :
    ¬∀ signals : Signals, signals.tally.IsConsistent → (deciding signals).Premise signals := by
  intro truthful
  have single := truthful ⟨2, 1, .braced, none, 0, true, true⟩ ⟨by decide, by decide⟩
  have decides : deciding ⟨2, 1, .braced, none, 0, true, true⟩ = mergeDivide := by decide
  rw [decides] at single
  exact absurd single (by decide : ¬(2 = 1))

end GrowthGauge.DecisionRule
