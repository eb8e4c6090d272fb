import GrowthGauge.Proofs.Spacing.Keeping

namespace GrowthGauge

namespace Pattern

/-! ## Searching where only the ink counts

A pattern that needs a character where it begins does not begin in a gap. What it
finds first, and how often it begins, is the same in texts with the same ink. -/

section

variable {pattern : Pattern} {result : Cursor → Cursor → Prop}

theorem agree_some : Agree Aligned some some :=
  fun _ _ aligned => .some aligned

theorem matchAt_eq_none_of_startsBlank (inked : pattern.StartsInked) {cursor : Cursor}
    (blank : cursor.startsBlank = true) : pattern.matchAt cursor = none := by
  have fails : pattern.run cursor some = none := inked some cursor blank
  rw [matchAt, fails]
  rfl

theorem searchFrom_gap (inked : pattern.StartsInked) {gap : Text} (blank : gap.isAllBlank = true)
    (previous : Option Char) (text : Text) :
    pattern.searchFrom previous (gap ++ text) =
      pattern.searchFrom (gap.getLast?.or previous) text := by
  induction gap generalizing previous with
  | nil => rfl
  | cons head gap induction =>
      rcases Text.isAllBlank_cons.mp blank with ⟨headBlank, gapBlank⟩
      have here : pattern.matchAt ⟨previous, head :: (gap ++ text), none⟩ = none :=
        matchAt_eq_none_of_startsBlank inked headBlank
      rw [List.cons_append, searchFrom, here, Cursor.getLast?_cons_or]
      exact induction gapBlank (some head)

theorem searchFrom_ending (inked : pattern.StartsInked) {text : Text}
    (blank : text.isAllBlank = true) (previous : Option Char) :
    pattern.searchFrom previous text = none := by
  have skipped := searchFrom_gap inked blank previous []
  rw [List.append_nil] at skipped
  rw [skipped]
  exact matchAt_eq_none_of_startsBlank inked rfl

/-- Matches that begin at aligned positions and end at related ones. -/
def RelatedMatches (result : Cursor → Cursor → Prop) (found other : Match) : Prop :=
  Aligned found.start other.start ∧ result found.stop other.stop

theorem rel_matchAt (agree : Agree result (pattern.run · some) (pattern.run · some))
    {cursor other : Cursor} (aligned : Aligned cursor other) :
    Option.Rel (RelatedMatches result) (pattern.matchAt cursor) (pattern.matchAt other) := by
  have stops : Option.Rel result (pattern.run cursor some) (pattern.run other some) :=
    agree aligned
  rw [matchAt, matchAt]
  generalize pattern.run cursor some = stop, pattern.run other some = otherStop at stops
  cases stops with
  | some related => exact .some ⟨aligned, related⟩
  | none => exact .none

theorem rel_searchFrom (inked : pattern.StartsInked)
    (agree : Agree result (pattern.run · some) (pattern.run · some)) {text other : Text}
    (respaced : Respaced text other) {previous otherPrevious : Option Char}
    (wordBehind : previous.any isWord = otherPrevious.any isWord) :
    Option.Rel (RelatedMatches result) (pattern.searchFrom previous text)
      (pattern.searchFrom otherPrevious other) := by
  induction respaced generalizing previous otherPrevious with
  | ending blank otherBlank =>
      rw [searchFrom_ending inked blank, searchFrom_ending inked otherBlank]
      exact .none
  | @ink gap otherGap rest otherRest character same inkedCharacter tail induction =>
      have here := rel_matchAt agree
        (Aligned.unnamed_behind_gap same (tail.cons inkedCharacter) wordBehind)
      rw [searchFrom_gap inked same.blank, searchFrom_gap inked same.otherBlank, searchFrom,
        searchFrom]
      generalize pattern.matchAt ⟨gap.getLast?.or previous, character :: rest, none⟩ = found,
        pattern.matchAt ⟨otherGap.getLast?.or otherPrevious, character :: otherRest, none⟩ =
          otherFound at here
      cases here with
      | some related => exact .some related
      | none => exact induction rfl

/-- Searches of texts with the same ink find related matches. -/
theorem rel_search? (inked : pattern.StartsInked)
    (agree : Agree result (pattern.run · some) (pattern.run · some)) {text other : Text}
    (same : SameInk text other) :
    Option.Rel (RelatedMatches result) (pattern.search? text) (pattern.search? other) := by
  rw [search?, search?]
  cases same with
  | ending blank otherBlank =>
      rw [searchFrom_ending inked blank, searchFrom_ending inked otherBlank]
      exact .none
  | ink blank otherBlank _ inkedCharacter tail =>
      rw [searchFrom_gap inked blank, searchFrom_gap inked otherBlank]
      apply rel_searchFrom inked agree (tail.cons inkedCharacter)
      rw [Cursor.any_isWord_getLast?_none blank, Cursor.any_isWord_getLast?_none otherBlank]

/-- The texts of matches that begin and end at aligned positions differ in their gaps only. -/
theorem respaced_text {text other : Text} {found otherFound : Match}
    (search : pattern.search? text = some found)
    (otherSearch : pattern.search? other = some otherFound)
    (related : RelatedMatches Aligned found otherFound) :
    Respaced found.text otherFound.text := by
  have whole := related.1.ahead
  have wholeUnspaced := whole.unspaced_eq
  have restUnspaced := related.2.ahead.unspaced_eq
  rw [ahead_of_search? search, ahead_of_search? otherSearch] at whole wholeUnspaced
  apply whole.cut
  have lengths := congrArg List.length wholeUnspaced
  simp only [Text.unspaced, List.filter_append, List.length_append] at lengths restUnspaced ⊢
  rw [restUnspaced] at lengths
  exact Nat.add_right_cancel lengths

theorem isSome_eq_of_rel {Answer : Type} {related : Answer → Answer → Prop}
    {answer other : Option Answer} (rel : Option.Rel related answer other) :
    answer.isSome = other.isSome := by
  cases rel with
  | some _ => rfl
  | none => rfl

theorem occursIn_eq_of_respaced (inked : pattern.StartsInked) (keeps : pattern.Keeps)
    {text other : Text} (respaced : Respaced text other) :
    pattern.occursIn text = pattern.occursIn other := by
  rw [occursIn, occursIn, search?, search?]
  exact isSome_eq_of_rel (rel_searchFrom inked (keeps agree_some) respaced rfl)

theorem occursIn_eq (inked : pattern.StartsInked) (keeps : pattern.Keeps) {text other : Text}
    (same : SameInk text other) : pattern.occursIn text = pattern.occursIn other := by
  rw [occursIn, occursIn]
  exact isSome_eq_of_rel (rel_search? inked (keeps agree_some) same)

end

/-! ## Counting matches -/

section

variable {pattern : Pattern}

/-- The number of positions in `ahead` at which a match begins, inside another or not. -/
def beginnings (pattern : Pattern) (previous : Option Char) : Text → Nat
  | [] => (pattern.matchAt ⟨previous, [], none⟩).toList.length
  | character :: rest =>
      (pattern.matchAt ⟨previous, character :: rest, none⟩).toList.length +
        pattern.beginnings (some character) rest

/-- No match begins inside another. -/
def IsApart (pattern : Pattern) : Prop :=
  ∀ previous character rest found,
    pattern.matchAt ⟨previous, character :: rest, none⟩ = some found →
      pattern.IsClear (found.text.length - 1) (some character) rest

theorem length_matchesFrom (apart : pattern.IsApart) {covered : Nat} {previous : Option Char}
    {text : Text} (clear : pattern.IsClear covered previous text) :
    (pattern.matchesFrom covered previous text).length = pattern.beginnings previous text := by
  induction text generalizing covered previous with
  | nil =>
      rw [matchesFrom, beginnings]
      cases covered with
      | zero => rfl
      | succ more =>
          have here : pattern.matchAt ⟨previous, [], none⟩ = none :=
            clear [] [] rfl (Nat.succ_pos more)
          rw [here]
          rfl
  | cons character rest induction =>
      rw [beginnings]
      cases covered with
      | succ more =>
          have here : pattern.matchAt ⟨previous, character :: rest, none⟩ = none :=
            clear [] _ rfl (Nat.succ_pos more)
          have later : pattern.IsClear more (some character) rest := by
            intro before after split short
            have inside := clear (character :: before) after (congrArg (character :: ·) split)
              (Nat.succ_lt_succ short)
            rwa [Cursor.getLast?_cons_or] at inside
          rw [here, matchesFrom, induction later]
          exact (Nat.zero_add _).symm
      | zero =>
          rw [matchesFrom]
          split
          · next found matched =>
              rw [matched, List.length_cons, induction (apart _ _ _ _ matched)]
              exact Nat.add_comm _ _
          · next unmatched =>
              rw [unmatched, induction (pattern.isClear_zero (some character) rest)]
              exact (Nat.zero_add _).symm

/-- In a gap a pattern that needs ink has no match. -/
theorem matchesFrom_gap (inked : pattern.StartsInked) {gap : Text}
    (blank : gap.isAllBlank = true) (previous : Option Char) (text : Text) :
    pattern.matchesFrom 0 previous (gap ++ text) =
      pattern.matchesFrom 0 (gap.getLast?.or previous) text := by
  induction gap generalizing previous with
  | nil => rfl
  | cons head gap induction =>
      rcases Text.isAllBlank_cons.mp blank with ⟨headBlank, gapBlank⟩
      have here : pattern.matchAt ⟨previous, head :: (gap ++ text), none⟩ = none :=
        matchAt_eq_none_of_startsBlank inked headBlank
      rw [List.cons_append, matchesFrom, here, Cursor.getLast?_cons_or]
      exact induction gapBlank (some head)

theorem beginnings_gap (inked : pattern.StartsInked) {gap : Text} (blank : gap.isAllBlank = true)
    (previous : Option Char) (text : Text) :
    pattern.beginnings previous (gap ++ text) =
      pattern.beginnings (gap.getLast?.or previous) text := by
  induction gap generalizing previous with
  | nil => rfl
  | cons head gap induction =>
      rcases Text.isAllBlank_cons.mp blank with ⟨headBlank, gapBlank⟩
      have here : pattern.matchAt ⟨previous, head :: (gap ++ text), none⟩ = none :=
        matchAt_eq_none_of_startsBlank inked headBlank
      rw [List.cons_append, beginnings, here, Cursor.getLast?_cons_or]
      exact (Nat.zero_add _).trans (induction gapBlank (some head))

theorem beginnings_ending (inked : pattern.StartsInked) {text : Text}
    (blank : text.isAllBlank = true) (previous : Option Char) :
    pattern.beginnings previous text = 0 := by
  have skipped := beginnings_gap inked blank previous []
  rw [List.append_nil] at skipped
  have here : pattern.matchAt ⟨text.getLast?.or previous, [], none⟩ = none :=
    matchAt_eq_none_of_startsBlank inked rfl
  rw [skipped, beginnings, here]
  rfl

theorem beginnings_eq (inked : pattern.StartsInked) (keeps : pattern.Keeps) {text other : Text}
    (respaced : Respaced text other) {previous otherPrevious : Option Char}
    (wordBehind : previous.any isWord = otherPrevious.any isWord) :
    pattern.beginnings previous text = pattern.beginnings otherPrevious other := by
  induction respaced generalizing previous otherPrevious with
  | ending blank otherBlank =>
      rw [beginnings_ending inked blank, beginnings_ending inked otherBlank]
  | @ink gap otherGap rest otherRest character same inkedCharacter tail induction =>
      have here := rel_matchAt (keeps agree_some)
        (Aligned.unnamed_behind_gap same (tail.cons inkedCharacter) wordBehind)
      rw [beginnings_gap inked same.blank, beginnings_gap inked same.otherBlank, beginnings,
        beginnings, induction rfl]
      apply congrArg (· + _)
      generalize pattern.matchAt ⟨gap.getLast?.or previous, character :: rest, none⟩ = found,
        pattern.matchAt ⟨otherGap.getLast?.or otherPrevious, character :: otherRest, none⟩ =
          otherFound at here ⊢
      cases here with
      | some _ => rfl
      | none => rfl

/-- Texts with the same ink have as many matches that begin outside each other. -/
theorem length_allMatches_eq (inked : pattern.StartsInked) (keeps : pattern.Keeps)
    (apart : pattern.IsApart) {text other : Text} (same : SameInk text other) :
    (pattern.allMatches text).length = (pattern.allMatches other).length := by
  rw [allMatches, allMatches, length_matchesFrom apart (pattern.isClear_zero none text),
    length_matchesFrom apart (pattern.isClear_zero none other)]
  cases same with
  | ending blank otherBlank =>
      rw [beginnings_ending inked blank, beginnings_ending inked otherBlank]
  | ink blank otherBlank _ inkedCharacter tail =>
      rw [beginnings_gap inked blank, beginnings_gap inked otherBlank]
      apply beginnings_eq inked keeps (tail.cons inkedCharacter)
      rw [Cursor.any_isWord_getLast?_none blank, Cursor.any_isWord_getLast?_none otherBlank]

end

/-! ## Searching at the beginnings of lines

A pattern that begins a line may take tabs and spaces before its first character. Where
in a gap it begins does not matter for where it ends, only whether it can begin. -/

section

variable {body : Pattern} {result : Cursor → Cursor → Prop}

def lineBeginning (body : Pattern) : Pattern :=
  seq lineStart (seq (many IndentedHeader.isTabOrSpace) body)

/-- Where the leftmost match ends. -/
def stopFrom (pattern : Pattern) (previous : Option Char) (text : Text) : Option Cursor :=
  (pattern.searchFrom previous text).map Match.stop

theorem stopFrom_cons (pattern : Pattern) (previous : Option Char) (character : Char)
    (rest : Text) :
    pattern.stopFrom previous (character :: rest) =
      (pattern.run ⟨previous, character :: rest, none⟩ some).or
        (pattern.stopFrom (some character) rest) := by
  rw [stopFrom, searchFrom, matchAt]
  cases pattern.run ⟨previous, character :: rest, none⟩ some with
  | none => rfl
  | some stop => rfl

theorem isTabOrSpace_of_inked {character : Char} (inked : isBlank character = false) :
    IndentedHeader.isTabOrSpace character = false :=
  Bool.eq_false_iff.mpr fun accepted =>
    Bool.false_ne_true (inked.symm.trans (isBlank_of_isTabOrSpace accepted))

theorem or_ite (answer : Option Cursor) (first second : Bool) :
    (if first then answer else none).or (if second then answer else none) =
      if first || second then answer else none := by
  cases first <;> cases second <;> simp

theorem run_lineBeginning_gap (inked : body.StartsInked) {gap : Text}
    (blank : gap.isAllBlank = true) (previous : Option Char) {character : Char}
    (inkedCharacter : isBlank character = false) (rest : Text) :
    (lineBeginning body).run ⟨previous, gap ++ character :: rest, none⟩ some =
      if previous.all (· == '\n') && gap.all IndentedHeader.isTabOrSpace then
        body.run ⟨gap.getLast?.or previous, character :: rest, none⟩ some
      else
        none := by
  have taken : (many IndentedHeader.isTabOrSpace).run
      ⟨previous, gap ++ character :: rest, none⟩ (body.run · some) = _ :=
    run_many_gap (inked some) blank previous none (character :: rest)
  have there : (many IndentedHeader.isTabOrSpace).run
      ⟨gap.getLast?.or previous, character :: rest, none⟩ (body.run · some) = _ :=
    run_many_of_refused (by exact isTabOrSpace_of_inked inkedCharacter)
  change (if _ then (many IndentedHeader.isTabOrSpace).run _ (body.run · some) else none) = _
  rw [taken, there]
  cases previous.all (· == '\n') <;> rfl

theorem stopFrom_lineBeginning_gap (inked : body.StartsInked) {gap : Text}
    (blank : gap.isAllBlank = true) (previous : Option Char) {character : Char}
    (inkedCharacter : isBlank character = false) (rest : Text) :
    (lineBeginning body).stopFrom previous (gap ++ character :: rest) =
      (if (previous.all (· == '\n') && gap.all IndentedHeader.isTabOrSpace) ||
            gap.opensLine then
          body.run ⟨gap.getLast?.or previous, character :: rest, none⟩ some
        else
          none).or
        ((lineBeginning body).stopFrom (some character) rest) := by
  induction gap generalizing previous with
  | nil =>
      have here := run_lineBeginning_gap inked blank previous inkedCharacter rest
      rw [List.nil_append] at here ⊢
      rw [stopFrom_cons, here, Text.opensLine, Bool.or_false]
  | cons head gap induction =>
      have here := run_lineBeginning_gap inked blank previous inkedCharacter rest
      have later := induction (Text.isAllBlank_cons.mp blank).2 (some head)
      rw [List.cons_append] at here ⊢
      rw [stopFrom_cons, here, later, Cursor.getLast?_cons_or, ← Option.or_assoc]
      exact congrArg (Option.or · _) (or_ite _ _ _)

theorem stopFrom_lineBeginning_ending (inked : body.StartsInked) {text : Text}
    (blank : text.isAllBlank = true) (previous : Option Char) :
    (lineBeginning body).stopFrom previous text = none := by
  have fails {text : Text} (blank : text.isAllBlank = true) (previous : Option Char) :
      (lineBeginning body).run ⟨previous, text, none⟩ some = none := by
    have none : (many IndentedHeader.isTabOrSpace).run ⟨previous, text, none⟩ (body.run · some) =
        none := run_many_ending (inked some) blank
    change (if _ then (many IndentedHeader.isTabOrSpace).run _ (body.run · some) else _) = _
    rw [none, ite_self]
  induction text generalizing previous with
  | nil =>
      rw [stopFrom, searchFrom, matchAt, fails blank]
      rfl
  | cons head rest induction =>
      rw [stopFrom_cons, fails blank, Option.none_or]
      exact induction (Text.isAllBlank_cons.mp blank).2 (some head)

theorem rel_stopFrom (inked : body.StartsInked)
    (agree : Agree result (body.run · some) (body.run · some)) {text other : Text}
    (respaced : Respaced text other) {before : Char} (inkedBefore : isBlank before = false) :
    Option.Rel result ((lineBeginning body).stopFrom (some before) text)
      ((lineBeginning body).stopFrom (some before) other) := by
  induction respaced generalizing before with
  | ending blank otherBlank =>
      rw [stopFrom_lineBeginning_ending inked blank,
        stopFrom_lineBeginning_ending inked otherBlank]
      exact .none
  | ink same inkedCharacter tail induction =>
      have notLineFeed : (some before).all (· == '\n') = false :=
        beq_eq_false_iff_ne.mpr (ne_of_isBlank rfl inkedBefore).symm
      rw [stopFrom_lineBeginning_gap inked same.blank _ inkedCharacter,
        stopFrom_lineBeginning_gap inked same.otherBlank _ inkedCharacter, notLineFeed,
        Bool.false_and, Bool.false_and, same.opensLine, ← orElse_eq_or, ← orElse_eq_or]
      apply rel_orElse _ (induction inkedCharacter)
      split
      · exact agree (Aligned.unnamed_behind_gap same (tail.cons inkedCharacter) rfl)
      · exact .none

theorem rel_stopFrom_none (inked : body.StartsInked)
    (agree : Agree result (body.run · some) (body.run · some)) {text other : Text}
    (same : SameInk text other) :
    Option.Rel result ((lineBeginning body).stopFrom none text)
      ((lineBeginning body).stopFrom none other) := by
  cases same with
  | ending blank otherBlank =>
      rw [stopFrom_lineBeginning_ending inked blank,
        stopFrom_lineBeginning_ending inked otherBlank]
      exact .none
  | @ink gap otherGap rest otherRest character blank otherBlank opensLine inkedCharacter tail =>
      have opens : (gap.all IndentedHeader.isTabOrSpace || Text.opensLine gap) =
          (otherGap.all IndentedHeader.isTabOrSpace || Text.opensLine otherGap) := opensLine
      rw [stopFrom_lineBeginning_gap inked blank _ inkedCharacter,
        stopFrom_lineBeginning_gap inked otherBlank _ inkedCharacter, Option.all_none,
        Bool.true_and, Bool.true_and, opens, ← orElse_eq_or, ← orElse_eq_or]
      apply rel_orElse _ (rel_stopFrom inked agree tail inkedCharacter)
      split
      · apply agree
        apply Aligned.unnamed (tail.cons inkedCharacter)
        rw [Cursor.any_isWord_getLast?_none blank, Cursor.any_isWord_getLast?_none otherBlank]
      · exact .none

/-- Searches at the beginnings of lines end at related positions. -/
theorem rel_search?_lineBeginning (inked : body.StartsInked)
    (agree : Agree result (body.run · some) (body.run · some)) {text other : Text}
    (same : SameInk text other) :
    Option.Rel (fun found otherFound => result found.stop otherFound.stop)
      ((lineBeginning body).search? text) ((lineBeginning body).search? other) := by
  have stops := rel_stopFrom_none inked agree same
  rw [stopFrom, stopFrom] at stops
  rw [search?, search?]
  generalize (lineBeginning body).searchFrom none text = found,
    (lineBeginning body).searchFrom none other = otherFound at stops
  cases found with
  | none =>
      cases otherFound with
      | none => exact .none
      | some _ => cases stops
  | some _ =>
      cases otherFound with
      | none => cases stops
      | some _ =>
          cases stops with
          | some related => exact .some related

theorem occursIn_lineBeginning_eq (inked : body.StartsInked)
    (agree : Agree result (body.run · some) (body.run · some)) {text other : Text}
    (same : SameInk text other) :
    (lineBeginning body).occursIn text = (lineBeginning body).occursIn other := by
  rw [occursIn, occursIn]
  exact isSome_eq_of_rel (rel_search?_lineBeginning inked agree same)

end

end Pattern

end GrowthGauge
