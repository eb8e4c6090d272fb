import GrowthGauge.Proofs.Nesting.BracedCounting

namespace GrowthGauge.BraceNesting

open Braced

/-! ## Where the brace of a header stands

The brace may end the header's line or stand alone on the next one. The header is met
and its brace opened either way. But a line with only the brace on it is also taken for
the statement of the headers that wait outside, and ends their wait. -/

theorem readLines_braceOnSameLine {header : Header} (takes : header.Takes " \x7b".toList)
    {nesting : BraceNesting} (outside : nesting.parens = 0) :
    nesting.readLines (header.lines " \x7b".toList) = nesting.meetHeader.openBrace := by
  have opened : " \x7b".toList.foldl readChar nesting.meetHeader = nesting.meetHeader.openBrace :=
    congrArg openBrace (readChar_blank nesting.meetHeader ' ' rfl)
  have closed : nesting.meetHeader.openBrace.parens = 0 := rfl
  have unfinished : ((header.last ++ " \x7b".toList).strip.getLast? == some ';') = false := by
    rw [Text.getLast?_strip_append _ (by decide)]
    decide
  rw [readLines_header header takes outside, opened, endLine_of_outside closed, unfinished]
  rfl

theorem readLines_braceOnNextLine (header : Header) {nesting : BraceNesting}
    (outside : nesting.parens = 0) :
    nesting.readLines (header.lines [] ++ [['{']]) =
      { nesting.meetHeader.openBrace with waiting := 0 } := by
  have still : nesting.meetHeader.parens = 0 := outside
  have awaited : (nesting.meetHeader.waiting != 0) = true := rfl
  have opened : ['{'].foldl readChar nesting.meetHeader = nesting.meetHeader.openBrace := rfl
  have closed : nesting.meetHeader.openBrace.parens = 0 := rfl
  rw [readLines_append, readLines_header_alone header outside, readLines_cons,
    readLine_of_inked (by decide), LoopHeader.ofLine?_openingBrace, if_neg (by decide), opened,
    endLine_of_outside closed, awaited, still]
  rfl

/-- The two placements come to the same when nothing waits outside. -/
theorem openBrace_meetHeader_eq_iff (nesting : BraceNesting) :
    nesting.meetHeader.openBrace = { nesting.meetHeader.openBrace with waiting := 0 } ↔
      nesting.waiting = 0 := by
  constructor
  · exact congrArg BraceNesting.waiting
  · intro idle
    rw [openBrace_of_waiting (Nat.succ_pos nesting.waiting)]
    simp [meetHeader, idle]

theorem current_openBrace_meetHeader (nesting : BraceNesting) :
    nesting.meetHeader.openBrace.current = nesting.bodies.length + 1 + nesting.waiting :=
  rfl

/-! ## Telling two states apart

Two states that differ in the loops that are open tell different nestings, once enough
headers have come behind them to nest deeper than anything before. -/

/-- Whatever lines come next, the same loops are counted at the same depth. -/
def AgreesWith (nesting other : BraceNesting) : Prop :=
  ∀ rest, (nesting.readLines rest).tally = (other.readLines rest).tally

def bareHeader : Header :=
  .onOneLine "for (;;)".toList (by decide +kernel) (by decide) (by decide) (by decide)

theorem readLines_bareHeaders {nesting : BraceNesting} (sound : nesting.IsSound)
    (outside : nesting.parens = 0) (headers : Nat) :
    nesting.readLines ((List.replicate headers bareHeader).flatMap (·.lines [])) =
      nesting.awaiting headers := by
  rw [readLines_outerHeaders _ sound outside, List.length_replicate]

theorem AgreesWith.current_eq {nesting other : BraceNesting} (agree : nesting.AgreesWith other)
    (sound : nesting.IsSound) (otherSound : other.IsSound) (outside : nesting.parens = 0)
    (otherOutside : other.parens = 0) : nesting.current = other.current := by
  have tallies := agree ((List.replicate (nesting.tally.deepest + other.tally.deepest)
    bareHeader).flatMap (·.lines []))
  rw [readLines_bareHeaders sound outside, readLines_bareHeaders otherSound otherOutside] at tallies
  have deepest := congrArg LoopTally.deepest tallies
  simp only [awaiting] at deepest
  omega

/-! ## The placement of a brace -/

/-- With the brace on the next line, the headers that wait outside are given up. So the
two spellings come to the same state, and tell the same nesting from there on, exactly
when no header waits outside. -/
theorem readLines_placements (before : List Text) {line : Text}
    (outside : (initial.readLines before).parens = 0)
    (recognised : (LoopHeader.ofLine? line).isSome = true)
    (braceless : line.isBraceless = true) (balanced : Text.parensAfter 0 line = some 0)
    (unfinished : line.strip.getLast? ≠ some ';') :
    let nesting := initial.readLines before
    let onSameLine := nesting.readLines [line ++ " \x7b".toList]
    let onNextLine := nesting.readLines [line, ['{']]
    onSameLine = nesting.meetHeader.openBrace ∧
    onNextLine = { nesting.meetHeader.openBrace with waiting := 0 } ∧
    (onSameLine = onNextLine ↔ nesting.waiting = 0) ∧
    (onSameLine.AgreesWith onNextLine ↔ nesting.waiting = 0) := by
  intro nesting onSameLine onNextLine
  let header : Header := .onOneLine line recognised braceless balanced unfinished
  have sound : nesting.IsSound := isSound_readLines isSound_initial before
  have sameLine : onSameLine = nesting.meetHeader.openBrace :=
    readLines_braceOnSameLine (@Header.takes_of_later_eq_nil header rfl _) outside
  have nextLine : onNextLine = { nesting.meetHeader.openBrace with waiting := 0 } := by
    have alone : header.lines [] = [line] := congrArg (fun text => [text]) (List.append_nil line)
    rw [← readLines_braceOnNextLine header outside, alone]
    rfl
  have same : onSameLine = onNextLine ↔ nesting.waiting = 0 := by
    rw [sameLine, nextLine]
    exact nesting.openBrace_meetHeader_eq_iff
  refine ⟨sameLine, nextLine, same, ?_, ?_⟩
  · intro agree
    have sameCurrent := agree.current_eq (isSound_readLines sound _) (isSound_readLines sound _)
      (congrArg parens sameLine) (congrArg parens nextLine)
    rw [sameLine, nextLine, current_openBrace_meetHeader] at sameCurrent
    exact Nat.add_left_cancel sameCurrent
  · intro idle rest
    rw [same.mpr idle]

theorem readLines_placements_inBlock :
    let before := ["void f() \x7b", "  while (more())"].map String.toList
    let line : Text := "    for (int i = 0; i < n; i++)".toList
    ((initial.readLines before).parens = 0 ∧ (LoopHeader.ofLine? line).isSome = true ∧
      line.isBraceless = true ∧ Text.parensAfter 0 line = some 0 ∧
      line.strip.getLast? ≠ some ';') ∧
    (initial.readLines before).readLines [line ++ " \x7b".toList] =
      ⟨2, [2], 1, 0, ⟨2, 2⟩⟩ ∧
    (initial.readLines before).readLines [line, ['{']] = ⟨2, [2], 0, 0, ⟨2, 2⟩⟩ := by
  intro before line
  have nesting : initial.readLines before = ⟨1, [], 1, 0, ⟨1, 1⟩⟩ := by decide +kernel
  have outside : (initial.readLines before).parens = 0 := by rw [nesting]
  have recognised : (LoopHeader.ofLine? line).isSome = true := by decide +kernel
  have braceless : line.isBraceless = true := by decide +kernel
  have balanced : Text.parensAfter 0 line = some 0 := by decide +kernel
  have unfinished : line.strip.getLast? ≠ some ';' := by decide +kernel
  rcases readLines_placements before outside recognised braceless balanced unfinished with
    ⟨sameLine, nextLine, _, _⟩
  refine ⟨⟨outside, recognised, braceless, balanced, unfinished⟩, sameLine.trans ?_,
    nextLine.trans ?_⟩ <;>
  · rw [nesting]
    rfl

/-- A loop without a brace around the loop is enough: it is lost when the brace stands
on its own line. -/
theorem not_forall_placements_agree :
    ¬∀ (before : List Text) (line : Text), (initial.readLines before).parens = 0 →
      (LoopHeader.ofLine? line).isSome = true → line.isBraceless = true →
      Text.parensAfter 0 line = some 0 → line.strip.getLast? ≠ some ';' →
        (initial.readLines before).readLines [line ++ " \x7b".toList] =
          (initial.readLines before).readLines [line, ['{']] := by
  intro agree
  have impossible := agree ["for (;;)".toList] "for (;;)".toList (by decide +kernel)
    (by decide +kernel) (by decide) (by decide) (by decide)
  revert impossible
  decide +kernel

end GrowthGauge.BraceNesting
