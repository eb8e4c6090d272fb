import GrowthGauge.Decision
import GrowthGauge.Proofs.Nesting.Counting
import GrowthGauge.Proofs.Pattern.Marking
import GrowthGauge.Proofs.Spacing.Calls

namespace GrowthGauge

/-! ## Consistent signals

Signals could be given that contradict each other: loops without a nesting, or calls of a
function without a name. Those that a scan reads off a snippet never do. -/

/-- The name begins a word of the text, and an opening parenthesis follows it, with nothing
but blank characters in between. -/
def Text.HasCall (text name : Text) : Prop :=
  ∃ before gap after : Text, text = before ++ (name ++ (gap ++ '(' :: after)) ∧
    before.getLast?.any isWord = false ∧ gap.isAllBlank = true

/-! ### Calls -/

namespace SelfCall

theorem hasCall_of_occursIn {name : Text} (nonempty : name ≠ []) (isName : name.all isWord = true)
    {text : Text} (occurs : (callPattern name).occursIn text = true) : text.HasCall name := by
  rcases (Pattern.occursIn_iff (callPattern name) text).mp occurs with
    ⟨before, ahead, split, reached, member⟩
  rcases mem_ends_callPattern member with ⟨atBoundary, gap, blank, aheadSplit⟩
  have wordAhead := isWordAhead_of_name nonempty isName aheadSplit
  rw [wordAhead, ne_eq, Bool.not_eq_true] at atBoundary
  exact ⟨before, gap, reached.ahead, by rw [split]; exact congrArg _ aheadSplit, atBoundary, blank⟩

/-- Calls that are counted are there. -/
theorem hasCall_of_count_pos {name declaration snippet : Text} (isName : name.all isWord = true)
    (called : 1 ≤ count name declaration snippet) : snippet.HasCall name := by
  rw [count] at called
  split at called
  · exact absurd called (Nat.not_succ_le_zero 0)
  · next nonempty =>
      have someCall : ((callPattern name).allMatches snippet).length ≠ 0 := by
        dsimp only at called
        split at called
        · omega
        · omega
      rw [ne_eq, List.length_eq_zero_iff] at someCall
      have occurs : (callPattern name).occursIn snippet = true :=
        Pattern.isSome_searchFrom_of_matchesFrom someCall
      exact hasCall_of_occursIn (by simpa using nonempty) isName occurs

end SelfCall

/-- A function that is called has a name, and the snippet has a call of that name. -/
theorem PrimaryFunction.hasCall_of_selfCalls_pos {snippet : Text}
    (called : 1 ≤ (ofSnippet snippet).selfCalls) :
    ∃ name, (ofSnippet snippet).name = some name ∧ name ≠ [] ∧ name.all isWord = true ∧
      snippet.HasCall name := by
  rw [ofSnippet] at called ⊢
  cases found : Declaration.find? snippet with
  | none =>
      rw [found] at called
      exact absurd called (Nat.not_succ_le_zero 0)
  | some declaration =>
      rw [found] at called
      rcases declaration.isWord_name found with ⟨nonempty, isName⟩
      exact ⟨declaration.name, rfl, nonempty, isName, SelfCall.hasCall_of_count_pos isName called⟩

theorem PrimaryFunction.selfCalls_of_nameless {snippet : Text}
    (nameless : (ofSnippet snippet).name = none) : (ofSnippet snippet).selfCalls = 0 := by
  by_contra called
  rcases hasCall_of_selfCalls_pos (Nat.one_le_iff_ne_zero.mpr called) with ⟨name, named, _⟩
  rw [nameless] at named
  cases named

/-! ### All signals together -/

/-- What the signals of a snippet say about each other and about the snippet. -/
structure Signals.IsConsistentIn (signals : Signals) (snippet : Text) : Prop where
  deepest_le : signals.deepest ≤ signals.loops
  loops_eq_zero_iff : signals.loops = 0 ↔ signals.deepest = 0
  called : 1 ≤ signals.selfCalls →
    ∃ name, signals.functionName = some name ∧ name ≠ "" ∧ name.toList.all isWord = true ∧
      snippet.HasCall name.toList
  uncalled : signals.functionName = none → signals.selfCalls = 0
  loops_le : signals.layout = .braced →
    signals.loops ≤ (snippet.lines.filter (!·.isAllBlank)).length
  noted : ∀ note ∈ DecisionRule.recursionNote signals,
    ∃ name, signals.functionName = some name ∧ note =
      s!"Recursive function '{name}' also found; loop structure takes precedence over recursion"

theorem scan_called {snippet : Text} (called : 1 ≤ (scan snippet).selfCalls) :
    ∃ name, (scan snippet).functionName = some name ∧ name ≠ "" ∧
      name.toList.all isWord = true ∧ snippet.HasCall name.toList := by
  rcases PrimaryFunction.hasCall_of_selfCalls_pos called with
    ⟨name, named, nonempty, isName, hasCall⟩
  have functionName : (scan snippet).functionName = some (String.ofList name) :=
    congrArg (Option.map String.ofList) named
  refine ⟨String.ofList name, functionName, ?_, ?_, ?_⟩
  · exact fun empty => nonempty (String.ofList_eq_empty_iff.mp empty)
  · rwa [String.toList_ofList]
  · rwa [String.toList_ofList]

/-- Every scan is consistent, and so is the tally of either tracker. -/
theorem isConsistentIn_scan (snippet : Text) :
    (∀ layout, (loopTally layout snippet).IsConsistent) ∧
      (scan snippet).IsConsistentIn snippet := by
  have tally := isConsistent_loopTally (scan snippet).layout snippet
  refine ⟨fun layout => isConsistent_loopTally layout snippet, ?_⟩
  refine ⟨tally.deepest_le, tally.loops_eq_zero_iff, scan_called, ?_, ?_, ?_⟩
  · intro nameless
    exact PrimaryFunction.selfCalls_of_nameless (Option.map_eq_none_iff.mp nameless)
  · intro braced
    have loops : (scan snippet).loops = (loopTally (scan snippet).layout snippet).loops := rfl
    have bound := BraceNesting.loops_readLines_le .initial snippet.lines
    rw [loops, braced]
    exact Nat.le_trans bound (Nat.le_of_eq (Nat.zero_add _))
  · intro note member
    rw [DecisionRule.recursionNote] at member
    split at member
    · next recursive =>
        rcases scan_called (of_decide_eq_true recursive) with ⟨name, named, _⟩
        rw [named, List.mem_singleton] at member
        exact ⟨name, named, member⟩
    · cases member

end GrowthGauge
