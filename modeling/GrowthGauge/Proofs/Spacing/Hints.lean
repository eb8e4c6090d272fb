import GrowthGauge.Halving
import GrowthGauge.Proofs.Spacing.LineEnds
import GrowthGauge.Proofs.Spacing.Searching

namespace GrowthGauge

open Pattern

/-! ## Halving

Every form of halving has in it a division by two or a shift by one place. -/

namespace HalvingForm

theorem mem_ends_assignable {operator : Pattern} {digit : Char} {cursor middle reached : Cursor}
    (operated : middle ∈ operator.ends cursor)
    (number : reached ∈ (seq blanks (wholeNumber digit)).ends middle) :
    reached ∈ (assignable operator digit).ends cursor := by
  rcases mem_ends_seq.mp number with ⟨start, inBlanks, inNumber⟩
  have unassigned : start ∈ (perhaps (char '=')).ends start :=
    mem_ends_either.mpr (.inr (List.mem_singleton_self start))
  have behind := mem_ends_seq.mpr ⟨start, self_mem_ends_many isBlank start, inNumber⟩
  exact mem_ends_seq.mpr ⟨middle, operated,
    mem_ends_seq.mpr ⟨start, inBlanks, mem_ends_seq.mpr ⟨start, unassigned, behind⟩⟩⟩

theorem occursAhead_of_mem_ends {form : HalvingForm} {cursor reached : Cursor}
    (member : reached ∈ form.pattern.ends cursor) :
    divideByTwo.pattern.OccursAhead cursor ∨ shiftRightByOne.pattern.OccursAhead cursor := by
  have slashNameless : (char '/').isNameless = true := rfl
  cases form with
  | divideByTwo => exact .inl (.here member)
  | shiftRightByOne => exact .inr (.here member)
  | floorDivideByTwo =>
      rcases mem_ends_seq.mp member with ⟨operated, inOperator, rest⟩
      have slashes : operated ∈ (seq (char '/') (char '/')).ends cursor := inOperator
      rcases mem_ends_seq.mp slashes with ⟨between, first, second⟩
      exact .inl (.later slashNameless first (.here (mem_ends_seq.mpr ⟨operated, second, rest⟩)))
  | floorOfMidpoint =>
      have parts : reached ∈ (inOrder ([exactly "floor", blanks, char '(', fewest isInline] ++
          [char '/', blanks, wholeNumber '2'])).ends cursor := member
      rcases exists_ends_of_inOrder_append parts with ⟨middle, inFront, inRest⟩
      rcases mem_ends_seq.mp inRest with ⟨operated, slash, number⟩
      exact .inl (.later (by decide) inFront (.here (mem_ends_assignable slash number)))
  | midpointOfBounds =>
      have parts : reached ∈ (inOrder ([char '(', atLeastOne isOutsideParens, char '+',
          atLeastOne isOutsideParens, char ')', blanks] ++
          [either (inOrder [char '/', perhaps (char '/'), blanks, char '2'])
            (inOrder [rightShift, blanks, char '1']), notFollowedBy isDecimalDigit])).ends cursor :=
        member
      rcases exists_ends_of_inOrder_append parts with ⟨middle, inFront, inRest⟩
      rcases mem_ends_seq.mp inRest with ⟨last, halved, ended⟩
      have number {digit : Char} {start : Cursor}
          (read : last ∈ (seq blanks (char digit)).ends start) :
          reached ∈ (seq blanks (wholeNumber digit)).ends start := by
        rcases mem_ends_seq.mp read with ⟨before, inBlanks, inDigit⟩
        exact mem_ends_seq.mpr ⟨before, inBlanks, mem_ends_seq.mpr ⟨last, inDigit, ended⟩⟩
      rcases mem_ends_either.mp halved with divided | shifted
      · rcases mem_ends_seq.mp divided with ⟨slash, inSlash, rest⟩
        rcases mem_ends_seq.mp rest with ⟨operated, inSecond, read⟩
        rcases mem_ends_either.mp inSecond with again | once
        · have later := OccursAhead.here (mem_ends_assignable again (number read))
          exact .inl (.later (by decide) inFront (.later slashNameless inSlash later))
        · rw [List.mem_singleton.mp once] at read
          have here := OccursAhead.here (mem_ends_assignable inSlash (number read))
          exact .inl (.later (by decide) inFront here)
      · rcases mem_ends_seq.mp shifted with ⟨operated, inShift, read⟩
        have here := OccursAhead.here (mem_ends_assignable inShift (number read))
        exact .inr (.later (by decide) inFront here)

theorem refusesBlanks_isDecimalDigit : RefusesBlanks isDecimalDigit := by
  decide +kernel

theorem keeps_wholeNumber {digit : Char} (inked : isBlank digit = false) :
    (wholeNumber digit).Keeps :=
  keeps_seq (keeps_char inked) (keeps_notFollowedBy refusesBlanks_isDecimalDigit)

theorem keeps_assignable {operator : Pattern} (keeps : operator.Keeps) {digit : Char}
    (inked : isBlank digit = false) : (assignable operator digit).Keeps := by
  have number : (wholeNumber digit).Patient := (startsInked_seq (startsInked_char inked) _).patient
  have rest := keeps_blanks_seq number (keeps_wholeNumber inked)
  have sign : (perhaps (char '=')).Keeps := keeps_either (keeps_char rfl) keeps_nothing
  have signInked : (char '=').StartsInked := startsInked_char rfl
  have behind := patient_perhaps_seq signInked (patient_seq_blanks number)
  exact keeps_seq keeps (keeps_blanks_seq behind (keeps_seq sign rest))

theorem hasHalving_iff (snippet : Text) :
    hasHalving snippet = true ↔
      divideByTwo.pattern.occursIn snippet = true ∨
        shiftRightByOne.pattern.occursIn snippet = true := by
  rw [hasHalving, List.any_eq_true]
  constructor
  · rintro ⟨form, _, occurs⟩
    rw [occursIn_iff_occursAhead] at occurs ⊢
    rw [occursIn_iff_occursAhead]
    rcases occurs with ⟨middle, run, takes, name, reached, member⟩
    rcases occursAhead_of_mem_ends member with divides | shifts
    · exact .inl (divides.of_takes takes name)
    · exact .inr (shifts.of_takes takes name)
  · rintro (divides | shifts)
    · exact ⟨divideByTwo, by decide, divides⟩
    · exact ⟨shiftRightByOne, by decide, shifts⟩

end HalvingForm

theorem hasHalving_eq {text other : Text} (same : SameInk text other) :
    hasHalving text = hasHalving other := by
  have divides : HalvingForm.divideByTwo.pattern.Keeps :=
    HalvingForm.keeps_assignable (keeps_char rfl) rfl
  have shift : HalvingForm.rightShift.Keeps :=
    keeps_seq (keeps_exactly (by decide)) (keeps_either (keeps_char rfl) keeps_nothing)
  have shifts : HalvingForm.shiftRightByOne.pattern.Keeps := HalvingForm.keeps_assignable shift rfl
  have slash : HalvingForm.divideByTwo.pattern.StartsInked :=
    startsInked_seq (startsInked_char rfl) _
  have arrows : HalvingForm.shiftRightByOne.pattern.StartsInked :=
    startsInked_seq (startsInked_seq (startsInked_exactly rfl) _) _
  rw [Bool.eq_iff_iff, HalvingForm.hasHalving_iff, HalvingForm.hasHalving_iff,
    occursIn_eq slash divides same, occursIn_eq arrows shifts same]

/-! ## Merge hints -/

theorem refusesBlanks_letter {word : String} (inWords : word ∈ MergeHint.words)
    {character : Char} (inWord : character ∈ word.toList) :
    RefusesBlanks fun read => MergeHint.foldLetter read == character := by
  have refuses : ∀ word ∈ MergeHint.words, word.toList.all (fun character =>
      decide (RefusesBlanks fun read => MergeHint.foldLetter read == character)) = true := by
    decide +kernel
  have refusesAll := List.all_eq_true.mp (refuses word inWords)
  exact of_decide_eq_true (refusesAll character inWord)

theorem hasMergeHint_eq {text other : Text} (same : SameInk text other) :
    hasMergeHint text = hasMergeHint other := by
  have nonempty : ∀ word ∈ MergeHint.words, word.toList ≠ [] := by decide
  apply occursIn_eq _ _ same
  · apply startsInked_firstOf
    intro pattern member
    rcases List.mem_map.mp member with ⟨word, inWords, rfl⟩
    have letters (character : Char) := @refusesBlanks_letter word inWords character
    rcases List.exists_cons_of_ne_nil (nonempty word inWords) with ⟨head, tail, split⟩
    rw [split] at letters ⊢
    exact startsInked_inOrder_cons (startsInked_one (letters head List.mem_cons_self)) _
  · apply keeps_firstOf
    intro pattern member
    rcases List.mem_map.mp member with ⟨word, inWords, rfl⟩
    apply keeps_inOrder
    intro letter inLetters
    rcases List.mem_map.mp inLetters with ⟨character, inWord, rfl⟩
    exact keeps_one (refusesBlanks_letter inWords inWord)

/-! ## The layout -/

namespace IndentedHeader

theorem sparesBlanks_isBraceless : SparesBlanks isBraceless :=
  (sparesBlanks_bne rfl).and sparesBlanks_bne_lineFeed

/-- What stands in a function header before its open end. -/
def functionHead : List Pattern :=
  [exactly "def", someBlanks, wordRun, blanks, char '(']

theorem keeps_functionHead : (inOrder functionHead).Keeps := by
  have paren : (char '(').StartsInked := startsInked_char rfl
  have keyword : (exactly "def").Keeps := keeps_exactly (by decide)
  have call := keeps_seq keeps_wordRun (keeps_blanks_seq paren.patient (keeps_char rfl))
  exact keeps_seq keyword
    (keeps_someBlanks_seq (startsInked_seq startsInked_wordRun _).patient call)

/-- A loop header from its first character on. -/
def loopLine : Pattern :=
  inOrder [exactly "for", someBlanks, wordRun,
    repeated (inOrder [blanks, char ',', blanks, wordRun]), someBlanks, exactly "in", someBlanks,
    many isBraceless, char ':']

theorem keeps_loopLine : loopLine.Keeps := by
  have comma : (char ',').StartsInked := startsInked_char rfl
  have colon : (char ':').StartsInked := startsInked_char rfl
  have keyword : (exactly "for").Keeps := keeps_exactly (by decide)
  have connector : (exactly "in").Keeps := keeps_exactly (by decide)
  have connectorInked : (exactly "in").StartsInked := startsInked_exactly rfl
  have another : (inOrder [blanks, char ',', blanks, wordRun]).Keeps :=
    keeps_blanks_seq (startsInked_seq comma _).patient
      (keeps_seq (keeps_char rfl) (keeps_blanks_seq startsInked_wordRun.patient keeps_wordRun))
  have requires : (inOrder [blanks, char ',', blanks, wordRun]).Requires fun _ => true :=
    .inr (.inl fun _ _ => rfl)
  have others := keeps_repeated requires.consumes another
  have body := keeps_someBlanks_seq (patient_many_seq colon)
    (keeps_many_seq sparesBlanks_isBraceless colon (keeps_char rfl))
  have source := keeps_someBlanks_seq (startsInked_seq connectorInked _).patient
    (keeps_seq connector body)
  have bound := keeps_seq keeps_wordRun (keeps_seq others source)
  exact keeps_seq keyword
    (keeps_someBlanks_seq (startsInked_seq startsInked_wordRun _).patient bound)

theorem occursIn_eq {text other : Text} (same : SameInk text other) (header : IndentedHeader) :
    header.pattern.occursIn text = header.pattern.occursIn other := by
  cases header with
  | functionHeader =>
      have keyword : (exactly "def").StartsInked := startsInked_exactly rfl
      have ended : AgreeToStop ((inOrder [many isBraceless, lineEnd]).run · some)
          ((inOrder [many isBraceless, lineEnd]).run · some) :=
        agreeToStop_many_lineEnd sparesBlanks_isBraceless
      have agree := agree_inOrder_append keeps_functionHead ended
      exact occursIn_lineBeginning_eq (startsInked_seq keyword _) agree same
  | loopHeader =>
      have keyword : (exactly "for").StartsInked := startsInked_exactly rfl
      exact occursIn_lineBeginning_eq (startsInked_seq keyword _) (keeps_loopLine agree_some) same

end IndentedHeader

theorem BlockLayout.ofSnippet_eq {text other : Text} (same : SameInk text other) :
    BlockLayout.ofSnippet text = BlockLayout.ofSnippet other := by
  have shown : IndentedHeader.shownIn text = IndentedHeader.shownIn other :=
    List.filter_congr fun header _ => IndentedHeader.occursIn_eq same header
  rw [ofSnippet, ofSnippet, shown]

end GrowthGauge
