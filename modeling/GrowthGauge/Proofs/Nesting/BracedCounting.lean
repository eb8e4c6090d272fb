import GrowthGauge.Proofs.Nesting.BracedReading

namespace GrowthGauge.BraceNesting

open Braced

/-! ## Loops and blocks

A program leaves the reader where it was, but for the loops that it has counted. -/

/-- So many loops have come and gone, nested so deep. -/
def counting (nesting : BraceNesting) (loops depth : Nat) : BraceNesting :=
  { nesting with
    tally := ⟨nesting.tally.loops + loops,
      max nesting.tally.deepest (nesting.bodies.length + depth)⟩ }

theorem counting_zero {nesting : BraceNesting} (sound : nesting.IsSound) :
    nesting.counting 0 0 = nesting := by
  have nested : nesting.bodies.length ≤ nesting.tally.deepest :=
    Nat.le_trans (Nat.le_add_right _ _) sound.current_le
  rw [counting, Nat.add_zero, Nat.add_zero, Nat.max_eq_left nested]

theorem counting_counting (nesting : BraceNesting) (loops depth moreLoops moreDepth : Nat) :
    (nesting.counting loops depth).counting moreLoops moreDepth =
      nesting.counting (loops + moreLoops) (max depth moreDepth) := by
  simp only [counting, Nat.add_assoc, Nat.max_assoc, Nat.add_max_add_left]

theorem parens_of_idle {nesting : BraceNesting} (sound : nesting.IsSound)
    (idle : nesting.waiting = 0) : nesting.parens = 0 := by
  by_contra inParens
  have waits := sound.awaited (Nat.pos_of_ne_zero inParens)
  exact Nat.ne_of_gt waits idle

/-- A line that is no header moves with its characters, when no header waits behind
them. -/
theorem readLine_unrecognised {line : Text} (unrecognised : LoopHeader.ofLine? line = none)
    {nesting : BraceNesting} (idle : (line.foldl readChar nesting).waiting = 0) :
    nesting.readLine line = line.foldl readChar nesting := by
  cases blank : line.isAllBlank with
  | true => rw [readLine_of_isAllBlank blank, foldl_readChar_blank blank]
  | false =>
      rw [readLine_of_inked blank, unrecognised, if_neg (by decide), endLine_of_idle idle]

theorem readLine_plain (line : PlainLine) {nesting : BraceNesting} (idle : nesting.waiting = 0) :
    nesting.readLine line.text = nesting := by
  have still := foldl_readChar_idle line.braceless idle
  rw [readLine_unrecognised line.unrecognised (by rwa [still]), still]

theorem readLine_opener (opener : BlockOpener) {nesting : BraceNesting}
    (idle : nesting.waiting = 0) :
    nesting.readLine (opener.text ++ ['{']) = { nesting with depth := nesting.depth + 1 } := by
  have opened : (opener.text ++ ['{']).foldl readChar nesting =
      { nesting with depth := nesting.depth + 1 } := by
    rw [List.foldl_append, foldl_readChar_idle opener.braceless idle]
    exact openBrace_of_not_waiting idle
  rw [readLine_unrecognised opener.unrecognised (by rw [opened]; exact idle), opened]

/-- A line that begins with a closing brace and has no other one. -/
theorem readLine_closing {rest : Text} (braceless : rest.isBraceless = true)
    (unrecognised : LoopHeader.ofLine? ('}' :: rest) = none) {nesting : BraceNesting}
    (idle : nesting.waiting = 0) :
    nesting.readLine ('}' :: rest) = nesting.closeBrace := by
  have closed : ('}' :: rest).foldl readChar nesting = nesting.closeBrace :=
    foldl_readChar_idle braceless idle
  rw [readLine_unrecognised unrecognised (by rw [closed]; exact idle), closed]

/-- The state inside the body of a loop. -/
def enterLoop (nesting : BraceNesting) : BraceNesting :=
  { nesting with
    depth := nesting.depth + 1
    bodies := (nesting.depth + 1) :: nesting.bodies
    tally := nesting.tally.charge (nesting.bodies.length + 1) }

theorem openBrace_meetHeader {nesting : BraceNesting} (sound : nesting.IsSound)
    (idle : nesting.waiting = 0) : nesting.meetHeader.openBrace = nesting.enterLoop := by
  have outside := parens_of_idle sound idle
  rw [openBrace_of_waiting (Nat.succ_pos nesting.waiting)]
  simp [meetHeader, enterLoop, current, idle, outside]

theorem isSound_enterLoop {nesting : BraceNesting} (sound : nesting.IsSound)
    (idle : nesting.waiting = 0) : nesting.enterLoop.IsSound := by
  rw [← openBrace_meetHeader sound idle]
  exact isSound_openBrace (isSound_meetHeader sound)

theorem dropWhile_bodies {nesting : BraceNesting} (sound : nesting.IsSound) :
    nesting.bodies.dropWhile (nesting.depth + 1 ≤ ·) = nesting.bodies := by
  apply dropWhile_of_forall_lt
  intro body member
  exact Nat.lt_succ_of_le (sound.bounded body member).2

/-- The brace that closes a loop leaves the loop and those in its body counted. -/
theorem closeBrace_enterLoop {nesting : BraceNesting} (sound : nesting.IsSound)
    (loops depth : Nat) :
    (nesting.enterLoop.counting loops depth).closeBrace =
      nesting.counting (loops + 1) (depth + 1) := by
  have bodies : nesting.enterLoop.bodies.dropWhile (nesting.depth + 1 ≤ ·) = nesting.bodies := by
    rw [enterLoop, List.dropWhile_cons_of_pos (by simp)]
    exact dropWhile_bodies sound
  have tally : (nesting.enterLoop.counting loops depth).tally =
      (nesting.counting (loops + 1) (depth + 1)).tally := by
    simp only [counting, enterLoop, LoopTally.charge, List.length_cons, LoopTally.mk.injEq]
    omega
  calc
    (nesting.enterLoop.counting loops depth).closeBrace =
        { nesting with
          bodies := nesting.enterLoop.bodies.dropWhile (nesting.depth + 1 ≤ ·)
          tally := (nesting.enterLoop.counting loops depth).tally } := rfl
    _ = nesting.counting (loops + 1) (depth + 1) := by rw [bodies, tally]; rfl

/-- The brace that closes a block closes no loop. -/
theorem closeBrace_block {nesting : BraceNesting} (sound : nesting.IsSound) (loops depth : Nat) :
    (counting { nesting with depth := nesting.depth + 1 } loops depth).closeBrace =
      nesting.counting loops depth := by
  calc
    (counting { nesting with depth := nesting.depth + 1 } loops depth).closeBrace =
        { nesting.counting loops depth with
          bodies := nesting.bodies.dropWhile (nesting.depth + 1 ≤ ·) } := rfl
    _ = nesting.counting loops depth := by rw [dropWhile_bodies sound]; rfl

/-! ## Programs -/

theorem readLines_brace {header : Header} (brace : Brace header) {nesting : BraceNesting}
    (sound : nesting.IsSound) (idle : nesting.waiting = 0) :
    nesting.readLines brace.lines = nesting.enterLoop := by
  have outside := parens_of_idle sound idle
  have opened := openBrace_meetHeader sound idle
  have entered : (['{'].foldl readChar nesting.meetHeader) = nesting.enterLoop := opened
  have enteredIdle : nesting.enterLoop.waiting = 0 := idle
  cases brace with
  | onNextLine =>
      rw [Brace.lines, readLines_append, readLines_header_alone header outside, readLines_cons,
        readLine_unrecognised LoopHeader.ofLine?_openingBrace (by rwa [entered]), entered]
      rfl
  | onSameLine takes =>
      rw [Brace.lines, readLines_header header takes outside, entered, endLine_of_idle enteredIdle]

theorem readLine_doBlock {nesting : BraceNesting} (sound : nesting.IsSound)
    (idle : nesting.waiting = 0) :
    nesting.readLine "do \x7b".toList = nesting.enterLoop := by
  have opened := openBrace_meetHeader sound idle
  have waits : 0 < nesting.meetHeader.waiting := Nat.succ_pos nesting.waiting
  have word : "do ".toList.foldl readChar nesting.meetHeader = nesting.meetHeader :=
    foldl_readChar_parens (by decide) waits rfl
  have entered : "do \x7b".toList.foldl readChar nesting.meetHeader = nesting.enterLoop := by
    change ("do ".toList ++ ['{']).foldl readChar nesting.meetHeader = nesting.enterLoop
    rw [List.foldl_append, word]
    exact opened
  have enteredIdle : nesting.enterLoop.waiting = 0 := idle
  rw [readLine_recognised LoopHeader.ofLine?_doBlock, entered, endLine_of_idle enteredIdle]

/-- So many headers have been met, each inside the one before. -/
def awaiting (nesting : BraceNesting) (headers : Nat) : BraceNesting :=
  { nesting with
    waiting := nesting.waiting + headers
    tally := ⟨nesting.tally.loops + headers,
      max nesting.tally.deepest (nesting.current + headers)⟩ }

theorem awaiting_zero {nesting : BraceNesting} (sound : nesting.IsSound) :
    nesting.awaiting 0 = nesting := by
  rw [awaiting, Nat.add_zero, Nat.add_zero, Nat.add_zero, Nat.max_eq_left sound.current_le]

theorem awaiting_meetHeader (nesting : BraceNesting) (headers : Nat) :
    nesting.meetHeader.awaiting headers = nesting.awaiting (headers + 1) := by
  simp only [awaiting, meetHeader, current, LoopTally.charge, BraceNesting.mk.injEq,
    LoopTally.mk.injEq, true_and]
  omega

theorem meetHeader_awaiting (nesting : BraceNesting) (headers : Nat) :
    (nesting.awaiting headers).meetHeader = nesting.awaiting (headers + 1) := by
  simp only [awaiting, meetHeader, current, LoopTally.charge, BraceNesting.mk.injEq,
    LoopTally.mk.injEq, true_and]
  omega

theorem readLines_outerHeaders (outer : List Header) {nesting : BraceNesting}
    (sound : nesting.IsSound) (outside : nesting.parens = 0) :
    nesting.readLines (outer.flatMap (·.lines [])) = nesting.awaiting outer.length := by
  induction outer generalizing nesting with
  | nil => exact (awaiting_zero sound).symm
  | cons header rest induction =>
      rw [List.flatMap_cons, readLines_append, readLines_header_alone header outside,
        induction (isSound_meetHeader sound) outside, awaiting_meetHeader, List.length_cons]

theorem readLine_statement (line : StatementLine) {nesting : BraceNesting}
    (waits : 0 < nesting.waiting) (outside : nesting.parens = 0) :
    nesting.readLine line.text = { nesting with waiting := 0 } := by
  have awaited : (nesting.waiting != 0) = true := bne_iff_ne.mpr (Nat.ne_of_gt waits)
  have same : { nesting with parens := 0 } = nesting := by rw [← outside]
  have balanced : Text.parensAfter nesting.parens line.text = some 0 := by
    rw [outside]
    exact line.balanced
  rw [readLine_of_inked line.inked, line.unrecognised, if_neg (by decide),
    foldl_readChar_parens line.braceless waits balanced, same, endLine_of_outside outside,
    awaited, outside]
  exact if_pos (Bool.or_true _)

/-- The single statement of a chain ends all its loops. -/
theorem readLines_singleStatement {header : Header} (statement : SingleStatement header)
    {nesting : BraceNesting} (outside : nesting.parens = 0) :
    nesting.readLines statement.lines = { nesting.meetHeader with waiting := 0 } := by
  cases statement with
  | onNextLine line =>
      rw [SingleStatement.lines, readLines_append, readLines_header_alone header outside]
      exact readLine_statement line (Nat.succ_pos nesting.waiting) outside
  | onSameLine statement => exact readLines_inlineStatement statement outside

theorem readLines_chain (outer : List Header) {inner : Header} (statement : SingleStatement inner)
    {nesting : BraceNesting} (sound : nesting.IsSound) (idle : nesting.waiting = 0) :
    nesting.readLines (outer.flatMap (·.lines []) ++ statement.lines) =
      nesting.counting (outer.length + 1) (outer.length + 1) := by
  have outside := parens_of_idle sound idle
  have none : nesting.current = nesting.bodies.length := by
    rw [current, idle, Nat.add_zero]
  have outerOutside : (nesting.awaiting outer.length).parens = 0 := outside
  rw [readLines_append, readLines_outerHeaders outer sound outside,
    readLines_singleStatement statement outerOutside, meetHeader_awaiting, counting, ← none,
    awaiting]
  simp only [idle]

/-- What comes before the rest of a program counts apart from it. -/
theorem readLines_append_program {first : List Text} {rest : Program} {nesting : BraceNesting}
    (sound : nesting.IsSound) (idle : nesting.waiting = 0) {loops depth : Nat}
    (firstCounts : nesting.readLines first = nesting.counting loops depth)
    (restCounts : ∀ {between : BraceNesting}, between.IsSound → between.waiting = 0 →
      between.readLines rest.lines = between.counting rest.loops rest.depth) :
    nesting.readLines (first ++ rest.lines) =
      nesting.counting (loops + rest.loops) (max depth rest.depth) := by
  have betweenSound := isSound_readLines sound first
  rw [firstCounts] at betweenSound
  rw [readLines_append, firstCounts, restCounts betweenSound idle, counting_counting]

/-- A program leaves the reader as it was, but for its loops, which have been counted
at their depth. -/
theorem readLines_program (program : Program) {nesting : BraceNesting} (sound : nesting.IsSound)
    (idle : nesting.waiting = 0) :
    nesting.readLines program.lines = nesting.counting program.loops program.depth := by
  induction program generalizing nesting with
  | done => exact (counting_zero sound).symm
  | plain line rest induction =>
      rw [Program.lines, readLines_cons, readLine_plain line idle]
      exact induction sound idle
  | block opener body rest bodyCounts restCounts =>
      have opened := isSound_openBrace sound
      rw [openBrace_of_not_waiting idle] at opened
      have bodyRead : nesting.readLines ((opener.text ++ ['{']) :: body.lines) =
          counting { nesting with depth := nesting.depth + 1 } body.loops body.depth := by
        rw [readLines_cons, readLine_opener opener idle]
        exact bodyCounts opened idle
      apply readLines_append_program sound idle _ restCounts
      rw [readLines_append, bodyRead, ← closeBrace_block sound]
      exact readLine_closing rfl LoopHeader.ofLine?_closingBrace idle
  | loop header brace body rest bodyCounts restCounts =>
      have bodyRead : nesting.readLines (brace.lines ++ body.lines) =
          nesting.enterLoop.counting body.loops body.depth := by
        rw [readLines_append, readLines_brace brace sound idle]
        exact bodyCounts (isSound_enterLoop sound idle) idle
      apply readLines_append_program sound idle _ restCounts
      rw [readLines_append, bodyRead, ← closeBrace_enterLoop sound]
      exact readLine_closing rfl LoopHeader.ofLine?_closingBrace idle
  | doLoop condition body rest bodyCounts restCounts =>
      have bodyRead : nesting.readLines ("do \x7b".toList :: body.lines) =
          nesting.enterLoop.counting body.loops body.depth := by
        rw [readLines_cons, readLine_doBlock sound idle]
        exact bodyCounts (isSound_enterLoop sound idle) idle
      apply readLines_append_program sound idle _ restCounts
      rw [readLines_append, bodyRead, ← closeBrace_enterLoop sound]
      exact readLine_closing condition.isBraceless_tail
        (LoopHeader.ofLine?_doWhileTail condition.inline) idle
  | chain outer inner statement rest restCounts =>
      exact readLines_append_program sound idle (readLines_chain outer statement sound idle)
        restCounts

/-- However a program is formatted, nothing is open behind it and its loops have been
counted, at their depth. The same holds when it stands behind other text that leaves
no header waiting: what is open there stays open. -/
theorem readLines_formatted (program : Program) {lines : List Text}
    (formatted : Text.ink lines = Text.ink program.lines) :
    initial.readLines lines = ⟨0, [], 0, 0, ⟨program.loops, program.depth⟩⟩ ∧
    ∀ before, (initial.readLines before).waiting = 0 →
      initial.readLines (before ++ lines) =
        (initial.readLines before).counting program.loops program.depth := by
  have counts : ∀ {nesting : BraceNesting}, nesting.IsSound → nesting.waiting = 0 →
      nesting.readLines lines = nesting.counting program.loops program.depth := by
    intro nesting sound idle
    rw [← readLines_ink, formatted, readLines_ink]
    exact readLines_program program sound idle
  constructor
  · rw [counts isSound_initial rfl]
    simp [counting, initial, LoopTally.zero]
  · intro before idle
    rw [readLines_append]
    exact counts (isSound_readLines isSound_initial before) idle

/-- A header over two lines, a brace below it, and a loop without a brace inside. -/
def splitLoop : Program :=
  let inner : Header :=
    .onOneLine "while (ready(i))".toList (by decide +kernel) (by decide) (by decide) (by decide)
  let statement : InlineStatement inner :=
    ⟨" run(i);".toList, by decide, by decide, by decide, Header.takes_of_later_eq_nil rfl _⟩
  .loop ⟨"for (int i = 0;".toList, ["i < n; i++)".toList], by decide +kernel, by decide +kernel,
      by decide, by decide, by decide⟩ .onNextLine
    (.chain [] inner (.onSameLine statement) .done) .done

theorem readLines_splitLoop :
    let lines := ["  for (int i = 0;", "       i < n; i++)", "", "  \x7b",
      "    while (ready(i)) run(i);", "  \x7d"].map String.toList
    Text.ink lines = Text.ink splitLoop.lines ∧
      initial.readLines lines = ⟨0, [], 0, 0, ⟨2, 2⟩⟩ := by
  have formatted : Text.ink (["  for (int i = 0;", "       i < n; i++)", "", "  \x7b",
      "    while (ready(i)) run(i);", "  \x7d"].map String.toList) = Text.ink splitLoop.lines := by
    decide +kernel
  exact ⟨formatted, (readLines_formatted splitLoop formatted).1⟩

/-- Lines are judged one by one. A split header that ends in the word `do` is taken
for two loops when the brace stands on its last line, and a header without a brace
goes on waiting when only a blank line comes behind it. -/
theorem exists_header_misread :
    (∃ header : Header,
      (initial.readLines (header.lines ['{'] ++ [['}']])).tally ≠ ⟨1, 1⟩) ∧
    ∃ (header : Header) (line : PlainLine), Text.parensAfter 0 line.text = some 0 ∧
      (initial.readLines (header.lines [] ++ [line.text])).current ≠ 0 := by
  constructor
  · exact ⟨⟨"for (int i = 0;".toList, ["i < n; i++) do".toList], by decide +kernel,
      by decide +kernel, by decide, by decide, by decide⟩, by decide +kernel⟩
  · exact ⟨.onOneLine "for (;;)".toList (by decide +kernel) (by decide) (by decide) (by decide),
      ⟨[], rfl, by decide +kernel⟩, rfl, by decide +kernel⟩

end GrowthGauge.BraceNesting
