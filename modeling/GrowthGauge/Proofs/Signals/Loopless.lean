import GrowthGauge.Analysis
import GrowthGauge.Proofs.Loop.Keyword
import GrowthGauge.Proofs.Nesting.BracedCounting
import GrowthGauge.Proofs.Signals.Consistency
import GrowthGauge.Proofs.Signals.Lacking

namespace GrowthGauge

/-! ## Reading lines without loops

Where no line is a header, either tracker ends without a loop: none is open, none waits and
none has been counted. Braces still come and go. -/

namespace BraceNesting

structure IsLoopless (nesting : BraceNesting) : Prop where
  bodies : nesting.bodies = []
  waiting : nesting.waiting = 0
  tally : nesting.tally = .zero

theorem isLoopless_initial : initial.IsLoopless :=
  ⟨rfl, rfl, rfl⟩

theorem isLoopless_readChar {nesting : BraceNesting} (loopless : nesting.IsLoopless)
    (character : Char) : (nesting.readChar character).IsLoopless := by
  by_cases opening : character = '{'
  · subst opening
    change nesting.openBrace.IsLoopless
    rw [openBrace_of_not_waiting loopless.waiting]
    exact ⟨loopless.bodies, loopless.waiting, loopless.tally⟩
  by_cases closing : character = '}'
  · subst closing
    have none : nesting.closeBrace.bodies = [] := by
      rw [closeBrace, loopless.bodies]
      rfl
    exact ⟨none, loopless.waiting, loopless.tally⟩
  rcases exists_parens_readChar nesting opening closing with ⟨parens, equal, _⟩
  rw [equal]
  exact ⟨loopless.bodies, loopless.waiting, loopless.tally⟩

theorem isLoopless_foldl_readChar {nesting : BraceNesting} (loopless : nesting.IsLoopless)
    (text : Text) : (text.foldl readChar nesting).IsLoopless := by
  induction text generalizing nesting with
  | nil => exact loopless
  | cons character rest induction => exact induction (isLoopless_readChar loopless character)

theorem isLoopless_readLine {nesting : BraceNesting} (loopless : nesting.IsLoopless)
    {line : Text} (unrecognised : LoopHeader.ofLine? line = none) :
    (nesting.readLine line).IsLoopless := by
  have moved := isLoopless_foldl_readChar loopless line
  rwa [readLine_unrecognised unrecognised moved.waiting]

theorem isLoopless_readLines {nesting : BraceNesting} (loopless : nesting.IsLoopless)
    {lines : List Text} (unrecognised : ∀ line ∈ lines, LoopHeader.ofLine? line = none) :
    (nesting.readLines lines).IsLoopless := by
  induction lines generalizing nesting with
  | nil => exact loopless
  | cons line rest induction =>
      rcases List.forall_mem_cons.mp unrecognised with ⟨here, later⟩
      exact induction (isLoopless_readLine loopless here) later

theorem IsLoopless.current_eq {nesting : BraceNesting} (loopless : nesting.IsLoopless) :
    nesting.current = 0 := by
  rw [current, loopless.bodies, loopless.waiting]
  rfl

end BraceNesting

namespace ColumnNesting

theorem readLine_of_no_column {line : Text} (none : LoopChain.headerColumns line = []) :
    initial.readLine line = initial := by
  rw [readLine, none]
  split <;> rfl

theorem readLines_of_no_column {lines : List Text}
    (none : ∀ line ∈ lines, LoopChain.headerColumns line = []) :
    initial.readLines lines = initial := by
  induction lines with
  | nil => rfl
  | cons line rest induction =>
      rcases List.forall_mem_cons.mp none with ⟨here, later⟩
      rw [readLines, List.foldl_cons, readLine_of_no_column here]
      exact induction later

end ColumnNesting

/-! ## Where calls alone decide

Without loops a snippet is judged by the calls that its function makes to itself. Halving
matters for a single call only, and the hint at a merge never does. -/

def Growth.ofCalls (halving : Bool) : (calls : Nat) → Growth
  | 0 => .constant
  | 1 => if halving then .logarithmic else .linear
  | _ => .exponential

namespace DecisionRule

variable {signals : Signals}

theorem growth_deciding_of_loopless (loopless : signals.loops = 0)
    (flat : signals.deepest = 0) :
    (deciding signals).growth = Growth.ofCalls signals.halving signals.selfCalls := by
  rcases calls : signals.selfCalls with _ | _ | more
  · refine congrArg growth (deciding_eq_of_find? (?_ : _ = some noLoops))
    simp [all, applies, isLooplessRecursion, Signals.isRecursive, calls, loopless,
      flat]
  · have recursive : isLooplessRecursion signals = true := by
      simp [isLooplessRecursion, Signals.isRecursive, calls, loopless]
    cases halving : signals.halving with
    | true =>
        refine congrArg growth (deciding_eq_of_find? (?_ : _ = some halvingRecursion))
        simp [all, applies, recursive, calls, halving]
    | false =>
        refine congrArg growth (deciding_eq_of_find? (?_ : _ = some linearRecursion))
        simp [all, applies, recursive, calls, halving]
  · refine congrArg growth (deciding_eq_of_find? (?_ : _ = some branchingRecursion))
    simp [all, applies, isLooplessRecursion, Signals.isRecursive, calls, loopless]

end DecisionRule

namespace Growth

theorem ofCalls_eq_constant_iff (halving : Bool) (calls : Nat) :
    ofCalls halving calls = .constant ↔ calls = 0 := by
  rcases calls with _ | _ | more
  · simp [ofCalls]
  · cases halving <;> simp [ofCalls]
  · simp [ofCalls]

theorem ofCalls_eq_exponential_iff (halving : Bool) (calls : Nat) :
    ofCalls halving calls = .exponential ↔ 2 ≤ calls := by
  rcases calls with _ | _ | more
  · simp [ofCalls]
  · cases halving <;> simp [ofCalls]
  · simp [ofCalls]

end Growth

/-! ## Snippets without a keyword -/

/-- None of the keywords of loops occurs as a whole word. -/
def Text.LacksKeywords (text : Text) : Prop :=
  ∀ keyword ∈ LoopHeader.keywords, ¬text.HasWord keyword

instance (text : Text) : Decidable text.LacksKeywords :=
  inferInstanceAs (Decidable (∀ keyword ∈ LoopHeader.keywords, ¬text.HasWord keyword))

section

variable {snippet : Text} (lacks : snippet.LacksKeywords)

include lacks in
theorem ofLine?_of_lacksKeywords : ∀ line ∈ snippet.lines, LoopHeader.ofLine? line = none := by
  intro line member
  by_contra recognised
  rw [← ne_eq, ← Option.isSome_iff_ne_none] at recognised
  rcases LoopHeader.exists_hasWord_of_isSome recognised with ⟨keyword, isKeyword, has⟩
  exact lacks keyword isKeyword (has.of_mem_lines member)

include lacks in
theorem headerColumns_of_lacksKeywords :
    ∀ line ∈ snippet.lines, LoopChain.headerColumns line = [] := by
  intro line member
  by_contra opens
  rcases LoopChain.exists_hasWord_of_headerColumns opens with ⟨keyword, isKeyword, has⟩
  exact lacks keyword isKeyword (has.of_mem_lines member)

include lacks in
theorem braceNesting_of_lacksKeywords : (BraceNesting.initial.readText snippet).IsLoopless :=
  BraceNesting.isLoopless_readLines BraceNesting.isLoopless_initial (ofLine?_of_lacksKeywords lacks)

include lacks in
theorem columnNesting_of_lacksKeywords :
    ColumnNesting.initial.readText snippet = ColumnNesting.initial :=
  ColumnNesting.readLines_of_no_column (headerColumns_of_lacksKeywords lacks)

include lacks in
theorem loopTally_of_lacksKeywords (layout : BlockLayout) :
    loopTally layout snippet = .zero := by
  cases layout with
  | braced => exact (braceNesting_of_lacksKeywords lacks).tally
  | indented => rw [loopTally, columnNesting_of_lacksKeywords lacks, ColumnNesting.initial]

include lacks in
theorem growth_scan_of_lacksKeywords :
    (scan snippet).verdict.growth =
      Growth.ofCalls (hasHalving snippet) (PrimaryFunction.ofSnippet snippet).selfCalls := by
  have none := loopTally_of_lacksKeywords lacks (BlockLayout.ofSnippet snippet)
  have loops : (scan snippet).loops = 0 := congrArg LoopTally.loops none
  have deepest : (scan snippet).deepest = 0 := congrArg LoopTally.deepest none
  exact DecisionRule.growth_deciding_of_loopless loops deepest

end

/-- In a snippet without the keywords of loops no line is a loop header and neither tracker
finds a loop, and unless the snippet stands in the catalog, the calls that its function
makes to itself decide its growth. -/
theorem judged_by_calls {snippet : Text} (inked : snippet.isAllBlank = false)
    (lacks : snippet.LacksKeywords) :
    (∀ line ∈ snippet.lines, LoopHeader.ofLine? line = none) ∧
    ((BraceNesting.initial.readText snippet).tally = ⟨0, 0⟩ ∧
      (BraceNesting.initial.readText snippet).current = 0) ∧
    ((ColumnNesting.initial.readText snippet).tally = ⟨0, 0⟩ ∧
      (ColumnNesting.initial.readText snippet).current = 0) ∧
    (Catalog.known? snippet = none →
      ∃ verdict, classify snippet = .ok verdict ∧
        (verdict.growth = .constant ↔ (PrimaryFunction.ofSnippet snippet).selfCalls = 0) ∧
        (verdict.growth = .exponential ↔ 2 ≤ (PrimaryFunction.ofSnippet snippet).selfCalls) ∧
        ((PrimaryFunction.ofSnippet snippet).selfCalls = 1 →
          verdict.growth = .logarithmic ∨ verdict.growth = .linear)) := by
  have braced := braceNesting_of_lacksKeywords lacks
  have indented := columnNesting_of_lacksKeywords lacks
  refine ⟨ofLine?_of_lacksKeywords lacks, ⟨braced.tally, braced.current_eq⟩, ?_, ?_⟩
  · rw [indented]
    exact ⟨rfl, rfl⟩
  · intro unknown
    have growth := growth_scan_of_lacksKeywords lacks
    refine ⟨(scan snippet).verdict, ?_, ?_, ?_, ?_⟩
    · rw [classify, inked, if_neg Bool.false_ne_true, unknown]
    · rw [growth]
      exact Growth.ofCalls_eq_constant_iff _ _
    · rw [growth]
      exact Growth.ofCalls_eq_exponential_iff _ _
    · intro single
      rw [growth, single]
      cases hasHalving snippet
      · exact .inr rfl
      · exact .inl rfl

/-- Keywords stand in longer words only, beside a split, a halving and one call. -/
def splittingCall : Text :=
  "function split(xs) \x7b doit(xs, ford); split(xs / 2); \x7d".toList

theorem judged_by_calls_splittingCall :
    (splittingCall.isAllBlank = false ∧ splittingCall.LacksKeywords) ∧
      Catalog.known? splittingCall = none ∧
      (PrimaryFunction.ofSnippet splittingCall).selfCalls = 1 ∧
      ∃ verdict, classify splittingCall = .ok verdict ∧
        (verdict.growth = .logarithmic ∨ verdict.growth = .linear) := by
  have inked : splittingCall.isAllBlank = false := by decide +kernel
  have lacks : splittingCall.LacksKeywords := by decide +kernel
  have noLetter : splittingCall.all (!· == 'e') = true := by decide +kernel
  have unknown : Catalog.known? splittingCall = none := by
    apply Catalog.known?_of_lacks
    intro character member
    simpa using List.all_eq_true.mp noLetter character member
  have single : (PrimaryFunction.ofSnippet splittingCall).selfCalls = 1 := by decide +kernel
  rcases (judged_by_calls inked lacks).2.2.2 unknown with ⟨verdict, classified, _, _, growth⟩
  exact ⟨⟨inked, lacks⟩, unknown, single, verdict, classified, growth single⟩

end GrowthGauge
