import GrowthGauge.Proofs.Signals.Consistency

namespace GrowthGauge

open Pattern

/-! ## Places of calls

Calls are counted as matches that do not overlap. Since no call begins inside another, these
are all the places of the text where the name begins a word and a parenthesis follows. -/

namespace Text

/-- A call of the name begins behind the first `place` characters. -/
def isCallAt (text name : Text) (place : Nat) : Bool :=
  !(text.take place).getLast?.any isWord && name.isPrefixOf (text.drop place) &&
    (stripStart ((text.drop place).drop name.length)).head? == some '('

/-- The number of places where a call of the name begins. -/
def callCount (text name : Text) : Nat :=
  (List.range (text.length + 1)).countP (text.isCallAt name)

theorem head?_stripStart_eq_some_iff {text : Text} {mark : Char} (inked : isBlank mark = false) :
    text.stripStart.head? = some mark ↔
      ∃ gap after : Text, gap.isAllBlank = true ∧ text = gap ++ mark :: after := by
  constructor
  · intro starts
    rcases List.head?_eq_some_iff.mp starts with ⟨after, split⟩
    refine ⟨text.takeWhile isBlank, after, List.all_takeWhile, ?_⟩
    rw [← split]
    exact List.takeWhile_append_dropWhile.symm
  · intro split
    rcases split with ⟨gap, after, blank, rfl⟩
    rw [stripStart_gap blank inked]
    rfl

theorem isCallAt_iff {before ahead name : Text} :
    (before ++ ahead).isCallAt name before.length = true ↔
      before.getLast?.any isWord = false ∧
        ∃ gap after : Text, gap.isAllBlank = true ∧ ahead = name ++ (gap ++ '(' :: after) := by
  have paren : isBlank '(' = false := by decide +kernel
  rw [isCallAt, List.take_left, List.drop_left, Bool.and_eq_true, Bool.and_eq_true,
    Bool.not_eq_true', List.isPrefixOf_iff_prefix, beq_iff_eq, head?_stripStart_eq_some_iff paren,
    and_assoc]
  apply and_congr_right
  intro _
  constructor
  · intro called
    rcases called with ⟨⟨following, rfl⟩, gap, after, blank, split⟩
    rw [List.drop_left] at split
    exact ⟨gap, after, blank, by rw [split]⟩
  · intro called
    rcases called with ⟨gap, after, blank, rfl⟩
    rw [List.drop_left]
    exact ⟨List.prefix_append _ _, gap, after, blank, rfl⟩

theorem hasCall_iff (text name : Text) :
    text.HasCall name ↔ ∃ place < text.length + 1, text.isCallAt name place = true := by
  constructor
  · intro has
    rcases has with ⟨before, gap, after, rfl, wordBehind, blank⟩
    refine ⟨before.length, ?_, isCallAt_iff.mpr ⟨wordBehind, gap, after, blank, rfl⟩⟩
    rw [List.length_append]
    omega
  · intro has
    rcases has with ⟨place, inText, called⟩
    have width : (text.take place).length = place :=
      List.length_take_of_le (Nat.le_of_lt_succ inText)
    have cut : isCallAt (text.take place ++ text.drop place) name (text.take place).length =
        true := by
      rwa [List.take_append_drop, width]
    rcases isCallAt_iff.mp cut with ⟨wordBehind, gap, after, blank, ahead⟩
    refine ⟨text.take place, gap, after, ?_, wordBehind, blank⟩
    rw [← ahead, List.take_append_drop]

instance (text name : Text) : Decidable (text.HasCall name) :=
  decidable_of_iff _ (hasCall_iff text name).symm

theorem callCount_pos_iff (text name : Text) : 0 < text.callCount name ↔ text.HasCall name := by
  rw [callCount, List.countP_pos_iff, hasCall_iff]
  simp only [List.mem_range]

end Text

namespace Pattern

/-- The beginnings of a pattern ahead are the places where it matches. -/
theorem beginnings_eq_countP {pattern : Pattern} {isStart : Nat → Bool} {before ahead : Text}
    (starts : ∀ front rest, before ++ ahead = front ++ rest →
      (pattern.matchAt ⟨front.getLast?, rest, none⟩).isSome = isStart front.length) :
    pattern.beginnings before.getLast? ahead =
      (List.range' before.length (ahead.length + 1)).countP isStart := by
  induction ahead generalizing before with
  | nil =>
      rw [beginnings, Option.length_toList, starts before [] rfl]
      simp [List.countP_cons]
  | cons character rest induction =>
      have later := @induction (before ++ [character])
      rw [List.append_assoc, List.getLast?_concat, List.length_append] at later
      have places : List.range' before.length ((character :: rest).length + 1) =
          before.length :: List.range' (before.length + 1) (rest.length + 1) :=
        List.range'_succ
      rw [beginnings, Option.length_toList, starts before _ rfl, later starts, places,
        List.countP_cons]
      exact Nat.add_comm _ _

end Pattern

namespace SelfCall

section

variable {name : Text} (nonempty : name ≠ []) (isName : name.all isWord = true)

include nonempty isName

theorem isSome_matchAt_callPattern (before ahead : Text) :
    ((callPattern name).matchAt ⟨before.getLast?, ahead, none⟩).isSome =
      (before ++ ahead).isCallAt name before.length := by
  rw [Bool.eq_iff_iff, matchAt_isSome_iff, Text.isCallAt_iff]
  constructor
  · intro called
    rcases called with ⟨reached, member⟩
    rcases mem_ends_callPattern member with ⟨atBoundary, gap, blank, split⟩
    have wordAhead := isWordAhead_of_name nonempty isName split
    rw [wordAhead, ne_eq, Bool.not_eq_true] at atBoundary
    exact ⟨atBoundary, gap, reached.ahead, blank, split⟩
  · intro called
    rcases called with ⟨wordBehind, gap, after, blank, split⟩
    exact exists_mem_ends_callPattern nonempty isName wordBehind blank split

/-- The calls that are counted are the places where a call begins. -/
theorem length_allMatches_callPattern (text : Text) :
    ((callPattern name).allMatches text).length = text.callCount name := by
  have apart := isApart_callPattern nonempty isName
  have starts : ∀ front rest, [] ++ text = front ++ rest →
      ((callPattern name).matchAt ⟨front.getLast?, rest, none⟩).isSome =
        text.isCallAt name front.length := by
    intro front rest split
    rw [show text = front ++ rest from split]
    exact isSome_matchAt_callPattern nonempty isName front rest
  have places := beginnings_eq_countP starts
  rw [allMatches, length_matchesFrom apart (isClear_zero _ none text), Text.callCount,
    List.range_eq_range']
  exact places

theorem occursIn_callPattern_iff (text : Text) :
    (callPattern name).occursIn text = true ↔ text.HasCall name := by
  constructor
  · exact hasCall_of_occursIn nonempty isName
  · intro has
    rcases has with ⟨before, gap, after, split, wordBehind, blank⟩
    rw [occursIn_iff]
    exact ⟨before, _, split, exists_mem_ends_callPattern nonempty isName wordBehind blank rfl⟩

/-- A declaration that is written as a call is no call. -/
theorem count_of_hasCall {declaration : Text} (called : declaration.HasCall name)
    (snippet : Text) : count name declaration snippet = snippet.callCount name - 1 := by
  have occurs := (occursIn_callPattern_iff nonempty isName declaration).mpr called
  rw [count, if_neg (by simpa using nonempty), occurs, Bool.or_true, if_pos rfl,
    length_allMatches_callPattern nonempty isName]

theorem count_of_not_hasCall {declaration : Text} (written : declaration ≠ [])
    (uncalled : ¬declaration.HasCall name) (snippet : Text) :
    count name declaration snippet = snippet.callCount name := by
  rw [← occursIn_callPattern_iff nonempty isName declaration, Bool.not_eq_true] at uncalled
  have isWritten : declaration.isEmpty = false := by simpa using written
  rw [count, if_neg (by simpa using nonempty), uncalled, isWritten]
  exact length_allMatches_callPattern nonempty isName snippet

end

end SelfCall

example : Text.callCount "f(f (n)) + g_f(f)".toList "f".toList = 2 := by decide +kernel

end GrowthGauge
