import GrowthGauge.Signals
import GrowthGauge.Verdict

namespace GrowthGauge

/-! ## The decision table

The table maps the signals of a snippet to a verdict. Its rules are tried from
the top: the shapes of recursion without loops, then the hints at divide and
conquer, then the shape of the loops. Where loops and recursion occur together
the loops decide. -/

inductive DecisionRule
  | branchingRecursion
  | halvingRecursion
  | linearRecursion
  | mergeDivide
  | halvingLoop
  | noLoops
  | singleLoop
  | nestedLoops
  | deepNesting
deriving Repr, DecidableEq

/-- A table without a rule that applies gives no verdict. -/
inductive SelectionError
  | noneApplies
deriving Repr, DecidableEq

def SelectionError.message : SelectionError → String
  | noneApplies => "No classification rule applies"

namespace DecisionRule

def all : List DecisionRule :=
  [.branchingRecursion, .halvingRecursion, .linearRecursion, .mergeDivide, .halvingLoop,
    .noLoops, .singleLoop, .nestedLoops, .deepNesting]

def label : DecisionRule → String
  | branchingRecursion => "branching-recursion"
  | halvingRecursion => "halving-recursion"
  | linearRecursion => "linear-recursion"
  | mergeDivide => "merge-divide"
  | halvingLoop => "halving-loop"
  | noLoops => "no-loops"
  | singleLoop => "single-loop"
  | nestedLoops => "nested-loops"
  | deepNesting => "deep-nesting"

def ofLabel? (label : String) : Option DecisionRule :=
  all.find? (·.label == label)

def isLooplessRecursion (signals : Signals) : Bool :=
  signals.isRecursive && signals.loops == 0

/-- The condition under which a rule applies. -/
def applies (rule : DecisionRule) (signals : Signals) : Bool :=
  match rule with
  | branchingRecursion => isLooplessRecursion signals && 2 ≤ signals.selfCalls
  | halvingRecursion => isLooplessRecursion signals && signals.halving
  | linearRecursion => isLooplessRecursion signals
  | mergeDivide =>
      signals.deepest == 1 && signals.mergeHint && (signals.halving || signals.isRecursive)
  | halvingLoop =>
      signals.loops == 1 && signals.deepest == 1 && signals.halving && !signals.isRecursive
  | noLoops => signals.loops == 0
  | singleLoop => signals.deepest ≤ 1
  | nestedLoops => signals.deepest == 2
  | deepNesting => true

def growth : DecisionRule → Growth
  | branchingRecursion => .exponential
  | halvingRecursion => .logarithmic
  | linearRecursion => .linear
  | mergeDivide => .linearithmic
  | halvingLoop => .logarithmic
  | noLoops => .constant
  | singleLoop => .linear
  | nestedLoops => .quadratic
  | deepNesting => .cubic

def explanation : DecisionRule → String
  | branchingRecursion => "Exponential recursion - each call makes multiple recursive calls."
  | halvingRecursion => "Recursive function with divide-and-conquer pattern."
  | linearRecursion => "Linear recursion - single recursive call per step."
  | mergeDivide => "Divide-and-conquer pattern with a linear merge step."
  | halvingLoop => "Single loop with divide-by-two pattern."
  | noLoops => "No loops detected, so the running time does not scale with input size."
  | singleLoop => "Single level of looping over the input."
  | nestedLoops => "Two nested loops over the input."
  | deepNesting => "Three or more nested loops; approximated as cubic time."

def recursiveCalls (count : Nat) : String :=
  if count == 1 then s!"{count} recursive call" else s!"{count} recursive calls"

def foundRecursion (signals : Signals) : String :=
  s!"Found recursive function with {recursiveCalls signals.selfCalls}"

/-- The step that tells of a recursion beside the loops that decided. -/
def recursionNote (signals : Signals) : List String :=
  if signals.isRecursive then
    let name := signals.functionName.getD "None"
    [s!"Recursive function '{name}' also found; loop structure takes precedence over recursion"]
  else
    []

/-- The step that tells that a nesting is deeper than the table tells apart. -/
def depthNote (signals : Signals) : List String :=
  if 3 < signals.deepest then
    ["Nesting deeper than three levels is approximated as cubic time"]
  else
    []

def steps (rule : DecisionRule) (signals : Signals) : List String :=
  match rule with
  | branchingRecursion =>
      [foundRecursion signals,
        s!"Each call branches into {signals.selfCalls} subproblems",
        "Total nodes in recursion tree: 2ⁿ"]
  | halvingRecursion =>
      [foundRecursion signals,
        "Problem size reduces by half each call",
        "Total depth: log₂(n)"]
  | linearRecursion =>
      [foundRecursion signals,
        "Makes one recursive call per step",
        "Recursion depth grows proportionally to n"]
  | mergeDivide =>
      ["Found merge/split/divide pattern with a single loop",
        "Input is split in half repeatedly (log n levels)",
        "The loop processes n elements at each level",
        "Total: n × log n"]
  | halvingLoop =>
      ["Found 1 loop",
        "Loop reduces problem size by half each iteration",
        "Total iterations: log₂(n)"]
  | noLoops =>
      ["No loops or recursive calls detected",
        "Operations execute in fixed time"]
  | singleLoop =>
      [s!"Found {signals.loops} loop(s) with no nesting",
        "At most one loop runs over up to n elements"] ++ recursionNote signals
  | nestedLoops =>
      ["Found 2 levels of loop nesting",
        "The outer loop runs up to n times and the inner loop runs up to n times for each outer iteration",
        "Total iterations: n × n = n²"] ++ recursionNote signals
  | deepNesting =>
      [s!"Found {signals.deepest} levels of loop nesting",
        "Each loop iterates up to n times",
        "Total iterations: n × n × n = n³"] ++ depthNote signals ++ recursionNote signals

def verdict (rule : DecisionRule) (signals : Signals) : Verdict :=
  ⟨rule.growth, rule.explanation, rule.steps signals⟩

/-- The first of the given rules that applies. -/
def select (rules : List DecisionRule) (signals : Signals) :
    Except SelectionError DecisionRule :=
  match rules.find? (·.applies signals) with
  | some rule => .ok rule
  | none => .error .noneApplies

/-- The rules of the whole table that apply. -/
def applying (signals : Signals) : List DecisionRule :=
  all.filter (·.applies signals)

/-- The last rule of the whole table applies to all signals. -/
theorem exists_applies (signals : Signals) : (all.find? (·.applies signals)).isSome = true := by
  rw [List.find?_isSome]
  exact ⟨.deepNesting, by simp [all], rfl⟩

/-- The rule of the whole table that decides. -/
def deciding (signals : Signals) : DecisionRule :=
  (all.find? (·.applies signals)).get (exists_applies signals)

theorem find?_deciding (signals : Signals) :
    all.find? (·.applies signals) = some (deciding signals) := by
  rw [deciding, Option.some_get]

theorem deciding_eq_of_find? {signals : Signals} {rule : DecisionRule}
    (found : all.find? (·.applies signals) = some rule) : deciding signals = rule :=
  Option.some.inj ((find?_deciding signals).symm.trans found)

theorem select_all (signals : Signals) : select all signals = .ok (deciding signals) := by
  rw [select, find?_deciding]

end DecisionRule

/-- The verdict of the decision table. -/
def Signals.verdict (signals : Signals) : Verdict :=
  (DecisionRule.deciding signals).verdict signals

end GrowthGauge
