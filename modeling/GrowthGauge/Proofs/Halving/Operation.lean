import GrowthGauge.Proofs.Pattern.Spelling
import GrowthGauge.Proofs.Spacing.Hints

namespace GrowthGauge

open Pattern

/-! ## Operations that halve

Five spellings are looked for, but two operations are behind all of them: a division by two
and a shift by one place. Either may be joined with an assignment. -/

/-- The operator stands in the text with the digit behind it. Blanks and one equals sign may
come in between, and the digit is no part of a longer number. -/
def Text.HasOperation (text operator : Text) (digit : Char) : Prop :=
  ∃ before gap sign padding after : Text,
    text = before ++ (operator ++ (gap ++ (sign ++ (padding ++ digit :: after)))) ∧
      gap.isAllBlank = true ∧ (sign = ['='] ∨ sign = []) ∧ padding.isAllBlank = true ∧
      after.head?.any isDecimalDigit = false

/-- The end of an operator is an operator too. -/
theorem Text.hasOperation_of_append (front : Text) {text operator : Text} {digit : Char}
    (has : text.HasOperation (front ++ operator) digit) : text.HasOperation operator digit := by
  rcases has with ⟨before, gap, sign, padding, after, split, isGap, isSign, isPadding, ends⟩
  refine ⟨before ++ front, gap, sign, padding, after, ?_, isGap, isSign, isPadding, ends⟩
  rw [split, List.append_assoc, List.append_assoc]

namespace HalvingForm

/-- An operation up to its digit. -/
def operationText (operator : Pattern) (digit : Char) : List Pattern :=
  [operator, blanks, perhaps (char '='), blanks, char digit]

theorem spells_operationText_iff {operator : Pattern} {digit : Char} {run : Text} :
    (inOrder (operationText operator digit)).Spells run ↔
      ∃ spelling gap sign padding : Text,
        run = spelling ++ (gap ++ (sign ++ (padding ++ [digit]))) ∧ operator.Spells spelling ∧
          gap.isAllBlank = true ∧ (sign = ['='] ∨ sign = []) ∧ padding.isAllBlank = true := by
  constructor
  · intro spelt
    rcases spells_inOrder_cons_iff.mp spelt with ⟨spelling, _, rfl, isOperator, spelt⟩
    rcases spells_inOrder_cons_iff.mp spelt with ⟨gap, _, rfl, isGap, spelt⟩
    rcases spells_inOrder_cons_iff.mp spelt with ⟨sign, _, rfl, isSign, spelt⟩
    rcases spells_inOrder_cons_iff.mp spelt with ⟨padding, last, rfl, isPadding, isDigit⟩
    refine ⟨spelling, gap, sign, padding, ?_, isOperator, spells_many_iff.mp isGap, ?_,
      spells_many_iff.mp isPadding⟩
    · rw [spells_char_iff.mp isDigit]
    · exact isSign.imp_left spells_char_iff.mp
  · intro spelt
    rcases spelt with ⟨spelling, gap, sign, padding, rfl, isOperator, isGap, isSign, isPadding⟩
    refine spells_inOrder_cons_iff.mpr ⟨_, _, rfl, isOperator, ?_⟩
    refine spells_inOrder_cons_iff.mpr ⟨_, _, rfl, spells_many_iff.mpr isGap, ?_⟩
    refine spells_inOrder_cons_iff.mpr ⟨_, _, rfl, isSign.imp_left spells_char_iff.mpr, ?_⟩
    refine spells_inOrder_cons_iff.mpr ⟨_, _, rfl, spells_many_iff.mpr isPadding, ?_⟩
    exact spells_char_iff.mpr rfl

theorem mem_ends_notFollowedBy_iff {accepts : Char → Bool} {cursor reached : Cursor} :
    reached ∈ (notFollowedBy accepts).ends cursor ↔
      cursor.ahead.head?.any accepts = false ∧ reached = cursor := by
  rw [ends]
  cases cursor.ahead.head?.any accepts <;> simp

theorem occursIn_assignable_iff {operator : Pattern} (openEnded : operator.IsOpenEnded)
    (digit : Char) (snippet : Text) :
    (assignable operator digit).occursIn snippet = true ↔
      ∃ spelling, operator.Spells spelling ∧ snippet.HasOperation spelling digit := by
  have textOpenEnded : (inOrder (operationText operator digit)).IsOpenEnded :=
    isOpenEnded_inOrder (by simp [operationText, openEnded, IsOpenEnded, blanks, perhaps, char])
  change (inOrder (operationText operator digit ++ [notFollowedBy isDecimalDigit])).occursIn
    snippet = true ↔ _
  rw [occursIn_iff]
  constructor
  · intro occurs
    rcases occurs with ⟨before, ahead, split, reached, member⟩
    rcases exists_ends_of_inOrder_append member with ⟨stop, inText, ended⟩
    rcases (endsBehind_spells textOpenEnded _ _).mp inText with
      ⟨run, after, aheadSplit, spelt, stopsBehind⟩
    rcases spells_operationText_iff.mp spelt with
      ⟨spelling, gap, sign, padding, runSplit, isOperator, isGap, isSign, isPadding⟩
    have stops := (mem_ends_notFollowedBy_iff.mp ended).1
    rw [stopsBehind, Cursor.behind_ahead] at stops
    refine ⟨spelling, isOperator, before, gap, sign, padding, after, ?_, isGap, isSign,
      isPadding, stops⟩
    have whole : ahead = run ++ after := aheadSplit
    simp [split, whole, runSplit]
  · intro shown
    rcases shown with ⟨spelling, isOperator, before, gap, sign, padding, after, split, isGap,
      isSign, isPadding, stops⟩
    let run : Text := spelling ++ (gap ++ (sign ++ (padding ++ [digit])))
    let start : Cursor := ⟨before.getLast?, run ++ after, none⟩
    have inText : start.behind run after ∈ (inOrder (operationText operator digit)).ends start :=
      (endsBehind_spells textOpenEnded _ _).mpr ⟨run, after, rfl, spells_operationText_iff.mpr
        ⟨spelling, gap, sign, padding, rfl, isOperator, isGap, isSign, isPadding⟩, rfl⟩
    refine ⟨before, run ++ after, by simp [split, run], start.behind run after, ?_⟩
    exact mem_ends_inOrder_append inText (mem_ends_notFollowedBy_iff.mpr ⟨stops, rfl⟩)

theorem occursIn_divideByTwo_iff (snippet : Text) :
    divideByTwo.pattern.occursIn snippet = true ↔ snippet.HasOperation "/".toList '2' := by
  have openEnded : (char '/').IsOpenEnded := trivial
  change (assignable (char '/') '2').occursIn snippet = true ↔ _
  rw [occursIn_assignable_iff openEnded]
  constructor
  · intro shown
    rcases shown with ⟨spelling, isSlash, has⟩
    rwa [spells_char_iff.mp isSlash] at has
  · intro has
    exact ⟨['/'], spells_char_iff.mpr rfl, has⟩

theorem spells_rightShift_iff {run : Text} :
    rightShift.Spells run ↔ run = ">>>".toList ∨ run = ">>".toList := by
  constructor
  · intro spelt
    rcases spelt with ⟨arrows, third, rfl, isArrows, isThird⟩
    rw [spells_literal_iff.mp isArrows]
    exact isThird.imp (fun again => by rw [spells_char_iff.mp again]; rfl)
      fun once => by rw [show third = [] from once]; rfl
  · intro spelt
    cases spelt with
    | inl again =>
        have third : (char '>').Spells ['>'] := spells_char_iff.mpr rfl
        exact ⟨">>".toList, ['>'], again, spells_literal_iff.mpr rfl, .inl third⟩
    | inr once => exact ⟨">>".toList, [], once, spells_literal_iff.mpr rfl, .inr rfl⟩

/-- The longer arrow ends in the shorter one. -/
theorem occursIn_shiftRightByOne_iff (snippet : Text) :
    shiftRightByOne.pattern.occursIn snippet = true ↔ snippet.HasOperation ">>".toList '1' := by
  have openEnded : rightShift.IsOpenEnded := ⟨isOpenEnded_literal _, trivial, trivial⟩
  change (assignable rightShift '1').occursIn snippet = true ↔ _
  rw [occursIn_assignable_iff openEnded]
  constructor
  · intro shown
    rcases shown with ⟨spelling, isShift, has⟩
    rcases spells_rightShift_iff.mp isShift with again | once
    · rw [again] at has
      exact Text.hasOperation_of_append ['>'] has
    · rwa [once] at has
  · intro has
    exact ⟨">>".toList, spells_rightShift_iff.mpr (.inr rfl), has⟩

theorem mem_shownIn_iff (form : HalvingForm) (snippet : Text) :
    form ∈ shownIn snippet ↔ form.pattern.occursIn snippet = true := by
  have inTable : form ∈ all := by cases form <;> decide
  rw [shownIn, formsIn, List.mem_filter, and_iff_right inTable]

theorem hasHalving_iff_shown (snippet : Text) :
    hasHalving snippet = true ↔ ∃ form, form ∈ shownIn snippet := by
  simp only [hasHalving, List.any_eq_true, shownIn, formsIn, List.mem_filter]

/-- A snippet halves exactly if it has one of two operations in it, and those are what the
first and the third spelling stand for. The other spellings show nothing that these two do
not. -/
theorem hasHalving_operations (snippet : Text) :
    (hasHalving snippet = true ↔
        snippet.HasOperation "/".toList '2' ∨ snippet.HasOperation ">>".toList '1') ∧
      (hasHalving snippet = true ↔
        divideByTwo ∈ shownIn snippet ∨ shiftRightByOne ∈ shownIn snippet) ∧
      ∀ form ∈ shownIn snippet,
        divideByTwo ∈ shownIn snippet ∨ shiftRightByOne ∈ shownIn snippet := by
  have core : hasHalving snippet = true ↔
      divideByTwo ∈ shownIn snippet ∨ shiftRightByOne ∈ shownIn snippet := by
    rw [mem_shownIn_iff, mem_shownIn_iff, hasHalving_iff]
  refine ⟨?_, core, ?_⟩
  · rw [hasHalving_iff, occursIn_divideByTwo_iff, occursIn_shiftRightByOne_iff]
  · intro form shown
    exact core.mp ((hasHalving_iff_shown snippet).mpr ⟨form, shown⟩)

/-- A midpoint that is found by a shift, with the number on the next line. -/
theorem hasHalving_operations_midpoint :
    let snippet : Text := "mid = (lo + hi) >>>\n 1".toList
    midpointOfBounds ∈ shownIn snippet ∧ divideByTwo ∉ shownIn snippet ∧
      shiftRightByOne ∈ shownIn snippet ∧
        (snippet.HasOperation "/".toList '2' ∨ snippet.HasOperation ">>".toList '1') := by
  intro snippet
  have shown : midpointOfBounds ∈ shownIn snippet := by decide +kernel
  have undivided : divideByTwo ∉ shownIn snippet := by decide +kernel
  have halves : hasHalving snippet = true := by decide +kernel
  rcases hasHalving_operations snippet with ⟨operations, _, core⟩
  exact ⟨shown, undivided, (core midpointOfBounds shown).resolve_left undivided,
    operations.mp halves⟩

end HalvingForm

end GrowthGauge
