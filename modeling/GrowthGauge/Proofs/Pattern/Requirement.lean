import GrowthGauge.Proofs.Pattern.Meaning
import GrowthGauge.Pattern.Search

namespace GrowthGauge

namespace Pattern

/-! ## Required characters

Some patterns cannot match without taking a character of a certain kind: the
colon of a header, a letter of a keyword. A text without such characters has no
match, and a match that takes one is never empty. -/

/-- Every match takes a character with the property. -/
def Requires (property : Char → Bool) : Pattern → Prop
  | one accepts => ∀ character, accepts character = true → property character = true
  | seq first second => first.Requires property ∨ second.Requires property
  | either preferred fallback => preferred.Requires property ∧ fallback.Requires property
  | named body => body.Requires property
  | _ => False

section

variable {property : Char → Bool}

theorem exists_takes_of_requires {pattern : Pattern} (requires : pattern.Requires property)
    {cursor reached : Cursor} (member : reached ∈ pattern.ends cursor) :
    ∃ run, Takes cursor reached run ∧ ∃ character ∈ run, property character = true := by
  induction pattern generalizing cursor reached with
  | one accepts =>
      rcases mem_ends_one.mp member with ⟨character, following, ahead, accepted, rfl⟩
      exact ⟨[character], takes_behind ahead, character, by simp, requires character accepted⟩
  | seq first second firstTakes secondTakes =>
      rcases mem_ends_seq.mp member with ⟨middle, inFirst, inSecond⟩
      rcases requires with requires | requires
      · rcases firstTakes requires inFirst with ⟨before, takesBefore, character, inRun, holds⟩
        rcases exists_takes inSecond with ⟨after, takesAfter⟩
        exact ⟨before ++ after, takesBefore.append takesAfter, character,
          List.mem_append_left _ inRun, holds⟩
      · rcases exists_takes inFirst with ⟨before, takesBefore⟩
        rcases secondTakes requires inSecond with ⟨after, takesAfter, character, inRun, holds⟩
        exact ⟨before ++ after, takesBefore.append takesAfter, character,
          List.mem_append_right _ inRun, holds⟩
  | either preferred fallback preferredTakes fallbackTakes =>
      rcases mem_ends_either.mp member with inPreferred | inFallback
      · exact preferredTakes requires.1 inPreferred
      · exact fallbackTakes requires.2 inFallback
  | named body bodyTakes =>
      rcases mem_ends_named.mp member with ⟨inner, inBody, equal⟩
      subst equal
      rcases bodyTakes requires inBody with ⟨run, takes, found⟩
      exact ⟨run, ⟨takes.1, takes.2⟩, found⟩
  | _ => exact requires.elim

/-- A text without the required characters has no match. -/
theorem occursIn_eq_false_of_requires {pattern : Pattern} (requires : pattern.Requires property)
    {text : Text} (lacks : ∀ character ∈ text, property character = false) :
    pattern.occursIn text = false := by
  rw [Bool.eq_false_iff]
  intro occurs
  rcases (occursIn_iff pattern text).mp occurs with ⟨before, ahead, split, reached, member⟩
  rcases exists_takes_of_requires requires member with ⟨run, takes, character, inRun, holds⟩
  have inText : character ∈ text := by
    rw [split, show ahead = run ++ reached.ahead from takes.1]
    simp [inRun]
  rw [lacks character inText] at holds
  cases holds

/-- A match that takes a required character leaves less of the text ahead. -/
theorem length_ahead_lt_of_requires {pattern : Pattern} (requires : pattern.Requires property)
    {cursor reached : Cursor} (member : reached ∈ pattern.ends cursor) :
    reached.ahead.length < cursor.ahead.length := by
  rcases exists_takes_of_requires requires member with ⟨run, takes, character, inRun, _⟩
  rw [takes.1, List.length_append]
  have positive := List.length_pos_of_mem inRun
  omega

theorem requires_inOrder {pattern : Pattern} {patterns : List Pattern}
    (member : pattern ∈ patterns) (requires : pattern.Requires property) :
    (inOrder patterns).Requires property := by
  induction patterns with
  | nil => cases member
  | cons first rest induction =>
      cases rest with
      | nil =>
          rw [List.mem_singleton] at member
          exact member ▸ requires
      | cons second rest =>
          rcases List.mem_cons.mp member with equal | member
          · exact .inl (equal ▸ requires)
          · exact .inr (induction member)

theorem requires_firstOf {patterns : List Pattern}
    (requires : ∀ pattern ∈ patterns, pattern.Requires property) :
    (firstOf patterns).Requires property := by
  induction patterns with
  | nil => exact fun _ impossible => absurd impossible Bool.false_ne_true
  | cons first rest induction =>
      rcases List.forall_mem_cons.mp requires with ⟨head, tail⟩
      cases rest with
      | nil => exact head
      | cons second rest => exact ⟨head, induction tail⟩

theorem requires_char {expected : Char} (holds : property expected = true) :
    (char expected).Requires property := by
  intro character equal
  rw [eq_of_beq equal]
  exact holds

theorem requires_literal {expected : Text} {character : Char} (member : character ∈ expected)
    (holds : property character = true) : (literal expected).Requires property :=
  requires_inOrder (List.mem_map_of_mem member) (requires_char holds)

end

/-! ## The order of the matches

The matches of a search do not overlap. Where each of them takes something, the
columns behind them rise. -/

theorem mem_ends_of_matchAt {pattern : Pattern} {cursor : Cursor} {found : Match}
    (matched : pattern.matchAt cursor = some found) :
    found.start = cursor ∧ found.stop ∈ pattern.ends cursor := by
  rw [matchAt_eq_head?] at matched
  rcases Option.map_eq_some_iff.mp matched with ⟨stop, isHead, equal⟩
  subst equal
  exact ⟨rfl, List.mem_of_head? isHead⟩

/-- A pattern with one end matches up to it. -/
theorem matchAt_eq_some {pattern : Pattern} {cursor stop : Cursor}
    (reaches : stop ∈ pattern.ends cursor)
    (only : ∀ reached ∈ pattern.ends cursor, reached = stop) :
    pattern.matchAt cursor = some ⟨cursor, stop⟩ := by
  rcases List.exists_cons_of_ne_nil (List.ne_nil_of_mem reaches) with ⟨head, tail, ends⟩
  rw [matchAt_eq_head?, ends, List.head?_cons, only head (ends ▸ List.mem_cons_self)]
  rfl

theorem length_matchText (found : Match) :
    found.text.length = found.start.ahead.length - found.stop.ahead.length := by
  rw [Match.text, Span.text, List.length_take]
  exact Nat.min_eq_left (Nat.sub_le _ _)

/-- A match that begins behind the first `covered` characters and takes something. -/
def FitsIn (covered : Nat) (rest : Text) (found : Match) : Prop :=
  found.start.ahead.length + covered ≤ rest.length ∧
    found.stop.ahead.length < found.start.ahead.length

theorem matchesFrom_inOrder {pattern : Pattern}
    (takes : ∀ cursor, ∀ reached ∈ pattern.ends cursor,
      reached.ahead.length < cursor.ahead.length)
    (covered : Nat) (previous : Option Char) (rest : Text) :
    (∀ found ∈ pattern.matchesFrom covered previous rest, FitsIn covered rest found) ∧
      (pattern.matchesFrom covered previous rest).Pairwise fun earlier later =>
        later.stop.ahead.length < earlier.stop.ahead.length := by
  induction rest generalizing covered previous with
  | nil =>
      have none : pattern.matchesFrom covered previous [] = [] := by
        rw [matchesFrom]
        split
        · rw [Option.toList_eq_nil_iff]
          cases matched : pattern.matchAt ⟨previous, [], none⟩ with
          | none => rfl
          | some found =>
              rcases mem_ends_of_matchAt matched with ⟨_, member⟩
              exact absurd (takes _ _ member) (Nat.not_lt_zero _)
        · rfl
      rw [none]
      exact ⟨by simp, .nil⟩
  | cons character rest induction =>
      cases covered with
      | succ more =>
          rcases induction more (some character) with ⟨fits, ordered⟩
          refine ⟨?_, ordered⟩
          intro found member
          rcases fits found member with ⟨starts, stops⟩
          exact ⟨by rw [List.length_cons]; omega, stops⟩
      | zero =>
          simp only [matchesFrom]
          split
          · next found matched =>
              rcases mem_ends_of_matchAt matched with ⟨startsHere, member⟩
              have shorter := takes _ _ member
              have width := length_matchText found
              rw [startsHere] at width
              rcases induction (found.text.length - 1) (some character) with ⟨fits, ordered⟩
              simp only [List.length_cons] at shorter width
              constructor
              · refine List.forall_mem_cons.mpr ⟨?_, ?_⟩
                · rw [FitsIn, startsHere]
                  exact ⟨Nat.le_refl _, shorter⟩
                · intro later inLater
                  rcases fits later inLater with ⟨starts, stops⟩
                  exact ⟨by rw [List.length_cons]; omega, stops⟩
              · refine List.pairwise_cons.mpr ⟨?_, ordered⟩
                intro later inLater
                rcases fits later inLater with ⟨starts, stops⟩
                omega
          · rcases induction 0 (some character) with ⟨fits, ordered⟩
            refine ⟨?_, ordered⟩
            intro found member
            rcases fits found member with ⟨starts, stops⟩
            exact ⟨by rw [List.length_cons]; omega, stops⟩

/-- The columns behind the matches of a text are positive and rise. -/
theorem columns_allMatches {pattern : Pattern}
    (takes : ∀ cursor, ∀ reached ∈ pattern.ends cursor,
      reached.ahead.length < cursor.ahead.length)
    (text : Text) :
    (∀ column ∈ (pattern.allMatches text).map (·.column text), 0 < column) ∧
      ((pattern.allMatches text).map (·.column text)).Pairwise (· < ·) := by
  rcases matchesFrom_inOrder takes 0 none text with ⟨fits, ordered⟩
  constructor
  · intro column member
    rcases List.mem_map.mp member with ⟨found, inMatches, equal⟩
    rcases fits found inMatches with ⟨starts, stops⟩
    subst equal
    rw [Match.column]
    omega
  · rw [List.pairwise_map]
    refine List.Pairwise.imp_of_mem ?_ ordered
    intro earlier later inEarlier _ shorter
    rcases fits earlier inEarlier with ⟨starts, stops⟩
    rw [Match.column, Match.column]
    omega

end Pattern

end GrowthGauge
