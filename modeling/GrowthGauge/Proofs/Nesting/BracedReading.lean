import GrowthGauge.Proofs.Loop.HeaderLine
import GrowthGauge.Proofs.Nesting.BraceMoves
import GrowthGauge.Proofs.Nesting.BracedProgram

namespace GrowthGauge.BraceNesting

open Braced

/-! ## Reading one line

Between the parts of a program no header waits. A line that is no header then does
nothing but open and close braces, and a header's own characters do nothing but
open and close its parentheses. -/

theorem readChar_blank (nesting : BraceNesting) (character : Char)
    (blank : isBlank character = true) : nesting.readChar character = nesting := by
  have differs : ∀ other, isBlank other = false → character ≠ other := by
    rintro other inked rfl
    exact Bool.false_ne_true (inked.symm.trans blank)
  simp [readChar, differs '{' rfl, differs '}' rfl, differs '(' rfl, differs ')' rfl]

theorem foldl_readChar_blank {text : Text} (blank : text.isAllBlank = true)
    (nesting : BraceNesting) : text.foldl readChar nesting = nesting :=
  Text.foldl_of_isAllBlank readChar_blank blank nesting

theorem readLine_of_isAllBlank {line : Text} (blank : line.isAllBlank = true)
    (nesting : BraceNesting) : nesting.readLine line = nesting := by
  rw [readLine, (Text.strip_eq_nil_iff line).mpr blank]
  rfl

theorem readLine_of_inked {line : Text} (inked : line.isAllBlank = false)
    (nesting : BraceNesting) :
    nesting.readLine line =
      (line.foldl readChar
        (if (LoopHeader.ofLine? line).isSome then nesting.meetHeader else nesting)).endLine
          (nesting.waiting != 0 && nesting.parens == 0) (LoopHeader.ofLine? line).isSome
          line.strip := by
  have nonempty : line.strip.isEmpty = false := by
    rw [Bool.eq_false_iff, ne_eq, List.isEmpty_iff, Text.strip_eq_nil_iff, inked]
    exact Bool.false_ne_true
  simp only [readLine, nonempty, Bool.false_eq_true, if_false, Text.foldl_strip readChar_blank]

theorem readLines_append (nesting : BraceNesting) (first second : List Text) :
    nesting.readLines (first ++ second) = (nesting.readLines first).readLines second :=
  List.foldl_append

theorem readLines_cons (nesting : BraceNesting) (line : Text) (rest : List Text) :
    nesting.readLines (line :: rest) = (nesting.readLine line).readLines rest :=
  rfl

theorem readLine_strip (nesting : BraceNesting) (line : Text) :
    nesting.readLine line.strip = nesting.readLine line := by
  simp only [readLine, Text.strip_strip, LoopHeader.ofLine?_strip]

/-- Blank lines and the blanks around a line make no difference. -/
theorem readLines_ink (nesting : BraceNesting) (lines : List Text) :
    nesting.readLines (Text.ink lines) = nesting.readLines lines := by
  induction lines generalizing nesting with
  | nil => rfl
  | cons line rest induction =>
      rw [Text.ink, List.map_cons, List.filter_cons, readLines_cons]
      by_cases empty : line.strip = []
      · rw [readLine_of_isAllBlank ((Text.strip_eq_nil_iff line).mp empty), empty]
        exact induction nesting
      · rw [if_pos (by simpa using empty), readLines_cons, readLine_strip]
        exact induction (nesting.readLine line)

/-! ## The end of a line -/

theorem endLine_of_idle {nesting : BraceNesting} (idle : nesting.waiting = 0)
    (awaited isHeader : Bool) (stripped : Text) :
    nesting.endLine awaited isHeader stripped = nesting := by
  have same : { nesting with waiting := 0 } = nesting := by rw [← idle]
  unfold endLine
  split
  · rfl
  · split
    · exact same
    · rfl

theorem endLine_of_inParens {nesting : BraceNesting} (inParens : nesting.parens ≠ 0)
    (awaited isHeader : Bool) (stripped : Text) :
    nesting.endLine awaited isHeader stripped = nesting := by
  rw [endLine, if_pos (bne_iff_ne.mpr inParens)]

theorem endLine_of_outside {nesting : BraceNesting} (outside : nesting.parens = 0)
    (awaited isHeader : Bool) (stripped : Text) :
    nesting.endLine awaited isHeader stripped =
      if stripped.getLast? == some ';' || (awaited && !isHeader) then
        { nesting with waiting := 0 }
      else nesting := by
  rw [endLine, outside]
  rfl

/-! ## Characters without braces -/

theorem isBraceless_cons {character : Char} {rest : Text}
    (braceless : Text.isBraceless (character :: rest) = true) :
    (character ≠ '{' ∧ character ≠ '}') ∧ rest.isBraceless = true := by
  simpa [Text.isBraceless] using braceless

theorem foldl_readChar_idle {text : Text} (braceless : text.isBraceless = true)
    {nesting : BraceNesting} (idle : nesting.waiting = 0) :
    text.foldl readChar nesting = nesting := by
  induction text with
  | nil => rfl
  | cons character rest induction =>
      rcases isBraceless_cons braceless with ⟨⟨notOpening, notClosing⟩, restBraceless⟩
      have same : nesting.readChar character = nesting := by
        simp [readChar, notOpening, notClosing, idle]
      rw [List.foldl_cons, same]
      exact induction restBraceless

theorem readChar_parens {character : Char} (notOpening : character ≠ '{')
    (notClosing : character ≠ '}') {nesting : BraceNesting} (waits : 0 < nesting.waiting)
    {still : Nat} (step : Text.parenStep nesting.parens character = some still) :
    nesting.readChar character = { nesting with parens := still } := by
  have waiting : (nesting.waiting == 0) = false := beq_eq_false_iff_ne.mpr (Nat.ne_of_gt waits)
  rw [Text.parenStep] at step
  rw [readChar, if_neg (by simpa using notOpening), if_neg (by simpa using notClosing), waiting,
    if_neg Bool.false_ne_true]
  split at step
  · next opens => rw [if_pos opens, Option.some.inj step]
  · next notOpens =>
      rw [if_neg notOpens]
      split at step
      · next closes =>
          split at step
          · cases step
          · rw [if_pos closes, Option.some.inj step]
      · next notCloses => rw [if_neg notCloses, ← Option.some.inj step]

/-- While a header waits, a text without braces moves its parentheses only. -/
theorem foldl_readChar_parens {text : Text} (braceless : text.isBraceless = true)
    {nesting : BraceNesting} (waits : 0 < nesting.waiting) {still : Nat}
    (parens : Text.parensAfter nesting.parens text = some still) :
    text.foldl readChar nesting = { nesting with parens := still } := by
  induction text generalizing nesting with
  | nil =>
      rw [← Option.some.inj parens]
      rfl
  | cons character rest induction =>
      rcases isBraceless_cons braceless with ⟨⟨notOpening, notClosing⟩, restBraceless⟩
      rcases Option.bind_eq_some_iff.mp parens with ⟨middle, step, later⟩
      rw [List.foldl_cons, readChar_parens notOpening notClosing waits step]
      exact induction restBraceless waits later

/-! ## A loop header

Where its last line ends, a header has become one that waits, and the reader goes
on with what stands behind it on that line. -/

theorem readLine_recognised {line : Text} (recognised : (LoopHeader.ofLine? line).isSome = true)
    (nesting : BraceNesting) :
    nesting.readLine line =
      (line.foldl readChar nesting.meetHeader).endLine false false line.strip := by
  rw [readLine_of_inked (LoopHeader.isAllBlank_of_isSome recognised), recognised, if_pos rfl]
  simp only [endLine, Bool.not_true, Bool.and_false, Bool.not_false, Bool.and_true]

theorem readLine_inParens {line : Text} (unrecognised : LoopHeader.ofLine? line = none)
    {nesting : BraceNesting} (inParens : nesting.parens ≠ 0) :
    nesting.readLine line = (line.foldl readChar nesting).endLine false false line.strip := by
  cases blank : line.isAllBlank with
  | true =>
      rw [readLine_of_isAllBlank blank, foldl_readChar_blank blank,
        endLine_of_inParens inParens]
  | false =>
      rw [readLine_of_inked blank, unrecognised, if_neg (by decide),
        beq_eq_false_iff_ne.mpr inParens, Bool.and_false]
      rfl

/-- The rest of a header whose parentheses are open. -/
theorem readLines_inParens {lines : List Text} {last ending : Text}
    (isLast : lines.getLast? = some last)
    (unrecognised : ∀ line ∈ Text.endingWith ending lines, LoopHeader.ofLine? line = none)
    (braceless : ∀ line ∈ lines, line.isBraceless = true)
    {nesting : BraceNesting} (waits : 0 < nesting.waiting) (inParens : nesting.parens ≠ 0)
    (closes : Text.closesInLast nesting.parens lines = true) :
    nesting.readLines (Text.endingWith ending lines) =
      (ending.foldl readChar { nesting with parens := 0 }).endLine false false
        (last ++ ending).strip := by
  induction lines generalizing nesting with
  | nil => cases isLast
  | cons line rest induction =>
      rcases List.forall_mem_cons.mp braceless with ⟨lineBraceless, restBraceless⟩
      cases rest with
      | nil =>
          rw [List.getLast?_singleton, Option.some.injEq] at isLast
          subst isLast
          have parens : Text.parensAfter nesting.parens line = some 0 := eq_of_beq closes
          rw [Text.endingWith, readLines_cons,
            readLine_inParens (unrecognised _ (List.mem_singleton_self _)) inParens,
            List.foldl_append, foldl_readChar_parens lineBraceless waits parens]
          rfl
      | cons second rest =>
          rw [Text.endingWith_cons_cons] at unrecognised ⊢
          rcases List.forall_mem_cons.mp unrecognised with ⟨lineUnrecognised, restUnrecognised⟩
          rcases (Text.closesInLast_cons_cons_iff _ line second rest).mp closes with
            ⟨still, parens, closesLater⟩
          rw [List.getLast?_cons_cons] at isLast
          rw [readLines_cons, readLine_inParens lineUnrecognised inParens,
            foldl_readChar_parens lineBraceless waits parens,
            endLine_of_inParens (Nat.succ_ne_zero still)]
          exact induction isLast restUnrecognised restBraceless waits (Nat.succ_ne_zero still)
            closesLater

theorem notMem_closing {text : Text} (braceless : text.isBraceless = true) : '}' ∉ text := by
  intro member
  have differs := List.all_eq_true.mp braceless '}' member
  cases differs

theorem readLines_header (header : Header) {ending : Text} (takes : header.Takes ending)
    {nesting : BraceNesting} (outside : nesting.parens = 0) :
    nesting.readLines (header.lines ending) =
      (ending.foldl readChar nesting.meetHeader).endLine false false
        (header.last ++ ending).strip := by
  have waits : 0 < nesting.meetHeader.waiting := Nat.succ_pos nesting.waiting
  have still : nesting.meetHeader.parens = 0 := outside
  have same : { nesting.meetHeader with parens := 0 } = nesting.meetHeader := by rw [← still]
  have isLast := header.getLast?_fragments
  rcases List.forall_mem_cons.mp header.braceless with ⟨firstBraceless, laterBraceless⟩
  have closes := header.closes
  unfold Header.lines
  cases split : header.later with
  | nil =>
      rw [split, List.getLast?_singleton, Option.some.injEq] at isLast
      rw [split] at closes
      have parens : Text.parensAfter nesting.meetHeader.parens header.first = some 0 := by
        rw [still]
        exact eq_of_beq closes
      have recognised := LoopHeader.ofLine?_append header.recognised
        (notMem_closing firstBraceless) ending
      rw [Text.endingWith, readLines_cons, readLine_recognised recognised, List.foldl_append,
        foldl_readChar_parens firstBraceless waits parens, same, isLast]
      rfl
  | cons second rest =>
      rw [split] at closes isLast laterBraceless
      rw [Header.Takes, split] at takes
      rcases (Text.closesInLast_cons_cons_iff _ header.first second rest).mp closes with
        ⟨more, parens, closesLater⟩
      rw [← still] at parens
      let unclosed : BraceNesting := { nesting.meetHeader with parens := more + 1 }
      have unclosedWaits : 0 < unclosed.waiting := waits
      have inParens : unclosed.parens ≠ 0 := Nat.succ_ne_zero more
      rw [List.getLast?_cons_cons] at isLast
      rw [Text.endingWith_cons_cons, readLines_cons, readLine_recognised header.recognised,
        foldl_readChar_parens firstBraceless waits parens,
        endLine_of_inParens inParens,
        readLines_inParens isLast takes laterBraceless unclosedWaits inParens closesLater]
      rw [← same]

theorem readLines_header_alone (header : Header) {nesting : BraceNesting}
    (outside : nesting.parens = 0) :
    nesting.readLines (header.lines []) = nesting.meetHeader := by
  have still : nesting.meetHeader.parens = 0 := outside
  have unfinished : (header.last.strip.getLast? == some ';') = false :=
    beq_eq_false_iff_ne.mpr header.unfinished
  rw [readLines_header header header.takes_nil outside, List.append_nil, List.foldl_nil,
    endLine_of_outside still, unfinished]
  rfl

theorem readLines_inlineStatement {header : Header} (statement : InlineStatement header)
    {nesting : BraceNesting} (outside : nesting.parens = 0) :
    nesting.readLines (header.lines statement.text) =
      { nesting.meetHeader with waiting := 0 } := by
  have waits : 0 < nesting.meetHeader.waiting := Nat.succ_pos nesting.waiting
  have still : nesting.meetHeader.parens = 0 := outside
  have balanced : Text.parensAfter nesting.meetHeader.parens statement.text = some 0 := by
    rw [still]
    exact statement.balanced
  have inked : statement.text.isAllBlank = false := by
    rw [Bool.eq_false_iff, ne_eq, ← Text.strip_eq_nil_iff]
    intro empty
    have finished := statement.finished
    rw [empty] at finished
    cases finished
  rw [readLines_header header statement.takes outside,
    foldl_readChar_parens statement.braceless waits balanced, endLine_of_outside rfl,
    Text.getLast?_strip_append _ inked, statement.finished]
  change { nesting.meetHeader with waiting := 0, parens := 0 } = _
  rw [← still]

end GrowthGauge.BraceNesting
