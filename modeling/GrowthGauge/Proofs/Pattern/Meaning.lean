import GrowthGauge.Pattern.Ends
import Mathlib.Data.List.Infix

namespace GrowthGauge

/-! ## Runs of characters

Between a cursor and an end of a pattern lies a run of characters that the
pattern has taken. -/

namespace Cursor

/-- The cursor behind a run of the characters that lay ahead. -/
def behind (cursor : Cursor) (run following : Text) : Cursor :=
  ⟨run.getLast?.or cursor.previous, following, cursor.name⟩

@[simp] theorem behind_ahead (cursor : Cursor) (run following : Text) :
    (cursor.behind run following).ahead = following := rfl

@[simp] theorem behind_nil (cursor : Cursor) : cursor.behind [] cursor.ahead = cursor := rfl

theorem getLast?_cons_or (character : Char) (run : Text) (previous : Option Char) :
    (character :: run).getLast?.or previous = run.getLast?.or (some character) := by
  rw [List.getLast?_cons]
  cases run.getLast? <;> rfl

theorem getLast?_append_or (first second : Text) (previous : Option Char) :
    (first ++ second).getLast?.or previous = second.getLast?.or (first.getLast?.or previous) := by
  rw [List.getLast?_append, Option.or_assoc]

theorem behind_behind (cursor : Cursor) (first second middle following : Text) :
    (cursor.behind first middle).behind second following =
      cursor.behind (first ++ second) following := by
  simp only [behind, getLast?_append_or]

theorem mem_reach_iff (accepts : Char → Bool) (name : Option Span) (reached : List Cursor)
    (previous : Option Char) (rest : Text) (cursor : Cursor) :
    cursor ∈ reach accepts name reached previous rest ↔
      cursor ∈ reached ∨ ∃ run following, rest = run ++ following ∧
        (∀ character ∈ run, accepts character = true) ∧
        cursor = ⟨run.getLast?.or previous, following, name⟩ := by
  induction rest generalizing reached previous with
  | nil =>
      rw [reach, List.mem_cons, or_comm]
      apply or_congr_right
      constructor
      · intro equal
        exact ⟨[], [], rfl, by simp, equal⟩
      · rintro ⟨run, following, split, _, equal⟩
        rcases List.append_eq_nil_iff.mp split.symm with ⟨runEmpty, followingEmpty⟩
        subst runEmpty followingEmpty
        exact equal
  | cons character rest induction =>
      simp only [reach]
      split
      · next accepted =>
          rw [induction, List.mem_cons]
          constructor
          · rintro ((equal | old) | ⟨run, following, split, allAccepted, equal⟩)
            · exact .inr ⟨[], character :: rest, rfl, by simp, equal⟩
            · exact .inl old
            · refine .inr ⟨character :: run, following, by rw [split]; rfl, ?_, ?_⟩
              · exact List.forall_mem_cons.mpr ⟨accepted, allAccepted⟩
              · rw [equal, getLast?_cons_or]
          · rintro (old | ⟨run, following, split, allAccepted, equal⟩)
            · exact .inl (.inr old)
            · cases run with
              | nil =>
                  rw [List.nil_append] at split
                  subst split
                  exact .inl (.inl equal)
              | cons head run =>
                  rcases List.cons_eq_cons.mp split with ⟨sameHead, sameRest⟩
                  subst sameHead
                  refine .inr ⟨run, following, sameRest, ?_, ?_⟩
                  · exact (List.forall_mem_cons.mp allAccepted).2
                  · rw [equal, getLast?_cons_or]
      · next refused =>
          rw [List.mem_cons, or_comm]
          apply or_congr_right
          constructor
          · intro equal
            exact ⟨[], character :: rest, rfl, by simp, equal⟩
          · rintro ⟨run, following, split, allAccepted, equal⟩
            cases run with
            | nil =>
                rw [List.nil_append] at split
                subst split
                exact equal
            | cons head run =>
                rcases List.cons_eq_cons.mp split with ⟨sameHead, _⟩
                subst sameHead
                exact absurd (allAccepted character List.mem_cons_self) refused

theorem mem_farthestFirst_iff (accepts : Char → Bool) (cursor reached : Cursor) :
    reached ∈ cursor.farthestFirst accepts ↔
      ∃ run following, cursor.ahead = run ++ following ∧
        (∀ character ∈ run, accepts character = true) ∧
        reached = cursor.behind run following := by
  rw [farthestFirst, mem_reach_iff]
  simp only [List.not_mem_nil, false_or]
  rfl

end Cursor

namespace Pattern

/-! ## The ends of each kind of pattern -/

section

variable {cursor reached : Cursor} {accepts : Char → Bool}

theorem mem_ends_one :
    reached ∈ (one accepts).ends cursor ↔
      ∃ character following, cursor.ahead = character :: following ∧
        accepts character = true ∧ reached = cursor.behind [character] following := by
  simp only [ends]
  cases split : cursor.ahead with
  | nil => simp
  | cons head tail =>
      by_cases accepted : accepts head = true
      · simp only [accepted, if_true, List.mem_singleton]
        constructor
        · intro equal
          exact ⟨head, tail, rfl, accepted, equal⟩
        · rintro ⟨character, following, same, _, equal⟩
          rcases List.cons_eq_cons.mp same with ⟨sameHead, sameTail⟩
          subst sameHead sameTail
          exact equal
      · simp only [accepted, Bool.false_eq_true, if_false, List.not_mem_nil, false_iff]
        rintro ⟨character, following, same, isAccepted, _⟩
        rcases List.cons_eq_cons.mp same with ⟨sameHead, _⟩
        subst sameHead
        exact accepted isAccepted

theorem mem_ends_many :
    reached ∈ (many accepts).ends cursor ↔
      ∃ run following, cursor.ahead = run ++ following ∧
        (∀ character ∈ run, accepts character = true) ∧
        reached = cursor.behind run following :=
  Cursor.mem_farthestFirst_iff accepts cursor reached

theorem mem_ends_fewest :
    reached ∈ (fewest accepts).ends cursor ↔ reached ∈ (many accepts).ends cursor :=
  List.mem_reverse

theorem mem_ends_seq {first second : Pattern} :
    reached ∈ (seq first second).ends cursor ↔
      ∃ middle ∈ first.ends cursor, reached ∈ second.ends middle :=
  List.mem_flatMap

theorem mem_ends_either {preferred fallback : Pattern} :
    reached ∈ (either preferred fallback).ends cursor ↔
      reached ∈ preferred.ends cursor ∨ reached ∈ fallback.ends cursor :=
  List.mem_append

theorem mem_ends_named {body : Pattern} :
    reached ∈ (named body).ends cursor ↔
      ∃ inner ∈ body.ends cursor,
        { inner with name := some ⟨cursor.ahead, inner.ahead⟩ } = reached :=
  List.mem_map

theorem mem_ends_followedBy {body : Pattern} :
    reached ∈ (followedBy body).ends cursor ↔
      (∃ other, other ∈ body.ends cursor) ∧ reached = cursor := by
  rw [ends]
  split
  · next empty =>
      rw [List.isEmpty_iff.mp empty]
      simp
  · next nonempty =>
      rw [List.isEmpty_iff] at nonempty
      rw [List.mem_singleton, and_iff_right (List.exists_mem_of_ne_nil _ nonempty)]

theorem mem_ends_inOrder_cons {first : Pattern} {rest : List Pattern} :
    reached ∈ (inOrder (first :: rest)).ends cursor ↔
      ∃ middle ∈ first.ends cursor, reached ∈ (inOrder rest).ends middle := by
  cases rest with
  | nil => simp [inOrder, ends]
  | cons second rest => exact mem_ends_seq

theorem mem_ends_firstOf {patterns : List Pattern} :
    reached ∈ (firstOf patterns).ends cursor ↔
      ∃ pattern ∈ patterns, reached ∈ pattern.ends cursor := by
  induction patterns with
  | nil =>
      rw [firstOf, mem_ends_one]
      simp
  | cons preferred rest induction =>
      cases rest with
      | nil => simp [firstOf]
      | cons second rest =>
          have unfolded : firstOf (preferred :: second :: rest) =
              either preferred (firstOf (second :: rest)) := rfl
          rw [unfolded, mem_ends_either, induction]
          simp only [List.mem_cons, exists_eq_or_imp]

theorem mem_ends_char {expected : Char} :
    reached ∈ (char expected).ends cursor ↔
      ∃ following, cursor.ahead = expected :: following ∧
        reached = cursor.behind [expected] following := by
  rw [char, mem_ends_one]
  simp only [beq_iff_eq]
  constructor
  · rintro ⟨character, following, ahead, equal, result⟩
    subst equal
    exact ⟨following, ahead, result⟩
  · rintro ⟨following, ahead, result⟩
    exact ⟨expected, following, ahead, rfl, result⟩

theorem mem_ends_literal {expected : Text} :
    reached ∈ (literal expected).ends cursor ↔
      ∃ following, cursor.ahead = expected ++ following ∧
        reached = cursor.behind expected following := by
  unfold literal
  induction expected generalizing cursor with
  | nil =>
      simp only [List.map_nil, inOrder, ends, List.mem_singleton, List.nil_append,
        exists_eq_left', Cursor.behind_nil]
  | cons head tail induction =>
      rw [List.map_cons, mem_ends_inOrder_cons]
      constructor
      · rintro ⟨middle, first, rest⟩
        rcases mem_ends_char.mp first with ⟨following, ahead, equal⟩
        subst equal
        rcases induction.mp rest with ⟨final, middleAhead, equal⟩
        rw [Cursor.behind_ahead] at middleAhead
        refine ⟨final, by rw [ahead, middleAhead]; rfl, ?_⟩
        rw [equal, Cursor.behind_behind]
        rfl
      · rintro ⟨final, ahead, equal⟩
        refine ⟨cursor.behind [head] (tail ++ final), mem_ends_char.mpr ⟨_, ahead, rfl⟩, ?_⟩
        refine induction.mpr ⟨final, rfl, ?_⟩
        rw [equal, Cursor.behind_behind]
        rfl

end

/-! ## What a match takes

Whatever the pattern, an end lies behind a run of the characters ahead. -/

/-- `reached` stands behind a run of the characters ahead of `cursor`. -/
def Takes (cursor reached : Cursor) (run : Text) : Prop :=
  cursor.ahead = run ++ reached.ahead ∧ reached.previous = run.getLast?.or cursor.previous

theorem takes_nil (cursor : Cursor) : Takes cursor cursor [] :=
  ⟨rfl, rfl⟩

theorem takes_behind {cursor : Cursor} {run following : Text}
    (ahead : cursor.ahead = run ++ following) : Takes cursor (cursor.behind run following) run :=
  ⟨ahead, rfl⟩

theorem Takes.append {cursor middle reached : Cursor} {first second : Text}
    (before : Takes cursor middle first) (after : Takes middle reached second) :
    Takes cursor reached (first ++ second) := by
  constructor
  · rw [before.1, after.1, List.append_assoc]
  · rw [after.2, before.2, Cursor.getLast?_append_or]

theorem exists_takes_roundEnds {body : Cursor → List Cursor}
    (bodyTakes : ∀ cursor, ∀ reached ∈ body cursor, ∃ run, Takes cursor reached run)
    (rounds : Nat) (cursor : Cursor) :
    ∀ reached ∈ roundEnds body rounds cursor, ∃ run, Takes cursor reached run := by
  induction rounds generalizing cursor with
  | zero =>
      intro reached member
      rw [roundEnds, List.mem_singleton] at member
      exact ⟨[], member ▸ takes_nil cursor⟩
  | succ rounds induction =>
      intro reached member
      rcases List.mem_append.mp member with more | stop
      · rcases List.mem_flatMap.mp more with ⟨middle, inBody, rest⟩
        rcases bodyTakes cursor middle inBody with ⟨first, before⟩
        rcases induction middle reached rest with ⟨second, after⟩
        exact ⟨first ++ second, before.append after⟩
      · rw [List.mem_singleton] at stop
        exact ⟨[], stop ▸ takes_nil cursor⟩

theorem eq_of_mem_ite {cursor reached : Cursor} {condition : Prop} [Decidable condition]
    (member : reached ∈ if condition then [cursor] else []) : reached = cursor := by
  split at member
  · exact List.mem_singleton.mp member
  · cases member

theorem eq_of_mem_ite_not {cursor reached : Cursor} {condition : Prop} [Decidable condition]
    (member : reached ∈ if condition then [] else [cursor]) : reached = cursor := by
  split at member
  · cases member
  · exact List.mem_singleton.mp member

theorem exists_takes {pattern : Pattern} {cursor reached : Cursor}
    (member : reached ∈ pattern.ends cursor) : ∃ run, Takes cursor reached run := by
  induction pattern generalizing cursor reached with
  | nothing =>
      rw [ends, List.mem_singleton] at member
      exact ⟨[], member ▸ takes_nil cursor⟩
  | one accepts =>
      rcases mem_ends_one.mp member with ⟨character, following, ahead, _, rfl⟩
      exact ⟨[character], takes_behind ahead⟩
  | many accepts =>
      rcases mem_ends_many.mp member with ⟨run, following, ahead, _, rfl⟩
      exact ⟨run, takes_behind ahead⟩
  | fewest accepts =>
      rcases mem_ends_many.mp (mem_ends_fewest.mp member) with ⟨run, following, ahead, _, rfl⟩
      exact ⟨run, takes_behind ahead⟩
  | seq first second firstTakes secondTakes =>
      rcases mem_ends_seq.mp member with ⟨middle, inFirst, inSecond⟩
      rcases firstTakes inFirst with ⟨before, takesBefore⟩
      rcases secondTakes inSecond with ⟨after, takesAfter⟩
      exact ⟨before ++ after, takesBefore.append takesAfter⟩
  | either preferred fallback preferredTakes fallbackTakes =>
      rcases mem_ends_either.mp member with inPreferred | inFallback
      · exact preferredTakes inPreferred
      · exact fallbackTakes inFallback
  | repeated body bodyTakes =>
      exact exists_takes_roundEnds (fun _ _ inBody => bodyTakes inBody) _ cursor reached member
  | named body bodyTakes =>
      rcases mem_ends_named.mp member with ⟨inner, inBody, equal⟩
      subst equal
      rcases bodyTakes inBody with ⟨run, takes⟩
      exact ⟨run, takes.1, takes.2⟩
  | boundary => exact ⟨[], eq_of_mem_ite_not member ▸ takes_nil cursor⟩
  | lineStart => exact ⟨[], eq_of_mem_ite member ▸ takes_nil cursor⟩
  | lineEnd => exact ⟨[], eq_of_mem_ite member ▸ takes_nil cursor⟩
  | textEnd => exact ⟨[], eq_of_mem_ite member ▸ takes_nil cursor⟩
  | followedBy body _ => exact ⟨[], eq_of_mem_ite_not member ▸ takes_nil cursor⟩
  | notFollowedBy accepts => exact ⟨[], eq_of_mem_ite_not member ▸ takes_nil cursor⟩

/-! ## Searching -/

theorem matchAt_isSome_iff (pattern : Pattern) (cursor : Cursor) :
    (pattern.matchAt cursor).isSome = true ↔ ∃ reached, reached ∈ pattern.ends cursor := by
  rw [matchAt_eq_head?, Option.isSome_map, List.isSome_head?]
  exact ⟨List.exists_mem_of_ne_nil _, fun ⟨_, member⟩ => List.ne_nil_of_mem member⟩

theorem searchFrom_isSome_iff (pattern : Pattern) (previous : Option Char) (text : Text) :
    (pattern.searchFrom previous text).isSome = true ↔
      ∃ before ahead, text = before ++ ahead ∧
        ∃ reached, reached ∈ pattern.ends ⟨before.getLast?.or previous, ahead, none⟩ := by
  induction text generalizing previous with
  | nil =>
      rw [searchFrom, matchAt_isSome_iff]
      constructor
      · rintro ⟨reached, member⟩
        exact ⟨[], [], rfl, reached, member⟩
      · rintro ⟨before, ahead, split, reached, member⟩
        rcases List.append_eq_nil_iff.mp split.symm with ⟨beforeEmpty, aheadEmpty⟩
        subst beforeEmpty aheadEmpty
        exact ⟨reached, member⟩
  | cons character rest induction =>
      have here := matchAt_isSome_iff pattern ⟨previous, character :: rest, none⟩
      have later : (pattern.searchFrom (some character) rest).isSome = true ↔
          ∃ before ahead, rest = before ++ ahead ∧ ∃ reached, reached ∈
            pattern.ends ⟨(character :: before).getLast?.or previous, ahead, none⟩ := by
        simp only [Cursor.getLast?_cons_or]
        exact induction (some character)
      have split : (pattern.searchFrom previous (character :: rest)).isSome = true ↔
          (pattern.matchAt ⟨previous, character :: rest, none⟩).isSome = true ∨
            (pattern.searchFrom (some character) rest).isSome = true := by
        rw [searchFrom]
        cases pattern.matchAt ⟨previous, character :: rest, none⟩ <;> simp
      rw [split, here, later]
      constructor
      · rintro (⟨reached, member⟩ | ⟨before, ahead, equal, found⟩)
        · exact ⟨[], character :: rest, rfl, reached, member⟩
        · exact ⟨character :: before, ahead, by rw [equal]; rfl, found⟩
      · rintro ⟨before, ahead, equal, found⟩
        cases before with
        | nil =>
            rw [List.nil_append] at equal
            subst equal
            exact .inl found
        | cons head before =>
            rcases List.cons_eq_cons.mp equal with ⟨sameHead, sameRest⟩
            subst sameHead
            exact .inr ⟨before, ahead, sameRest, found⟩

/-- No match begins at the first `width` positions of the text. -/
def IsClear (pattern : Pattern) (width : Nat) (previous : Option Char) (text : Text) : Prop :=
  ∀ before after, text = before ++ after → before.length < width →
    pattern.matchAt ⟨before.getLast?.or previous, after, none⟩ = none

theorem isClear_zero (pattern : Pattern) (previous : Option Char) (text : Text) :
    pattern.IsClear 0 previous text :=
  fun _ _ _ short => absurd short (Nat.not_lt_zero _)

/-- No position before the one that a search finds has a match. -/
theorem exists_leftmost_of_searchFrom {pattern : Pattern} {previous : Option Char} {text : Text}
    {found : Match} (search : pattern.searchFrom previous text = some found) :
    ∃ before ahead, text = before ++ ahead ∧ pattern.IsClear before.length previous text ∧
      pattern.matchAt ⟨before.getLast?.or previous, ahead, none⟩ = some found := by
  induction text generalizing previous with
  | nil => exact ⟨[], [], rfl, isClear_zero pattern previous [], search⟩
  | cons character rest induction =>
      rw [searchFrom] at search
      split at search
      · next here matched =>
          cases search
          exact ⟨[], character :: rest, rfl, isClear_zero pattern previous _, matched⟩
      · next unmatched =>
          rcases induction search with ⟨before, ahead, split, clear, matched⟩
          refine ⟨character :: before, ahead, by rw [split]; rfl, ?_, ?_⟩
          · intro first second cut short
            cases first with
            | nil =>
                rw [← show character :: rest = second from cut]
                exact unmatched
            | cons head first =>
                rcases List.cons_eq_cons.mp cut with ⟨rfl, restCut⟩
                rw [Cursor.getLast?_cons_or]
                exact clear first second restCut (Nat.lt_of_succ_lt_succ short)
          · rw [Cursor.getLast?_cons_or]
            exact matched

/-- What a search finds is a match at some position of the text. -/
theorem exists_matchAt_of_searchFrom {pattern : Pattern} {previous : Option Char} {text : Text}
    {found : Match} (search : pattern.searchFrom previous text = some found) :
    ∃ before ahead, text = before ++ ahead ∧
      pattern.matchAt ⟨before.getLast?.or previous, ahead, none⟩ = some found := by
  rcases exists_leftmost_of_searchFrom search with ⟨before, ahead, split, _, matched⟩
  exact ⟨before, ahead, split, matched⟩

/-- A pattern occurs where some position of the text has an end. -/
theorem occursIn_iff (pattern : Pattern) (text : Text) :
    pattern.occursIn text = true ↔
      ∃ before ahead, text = before ++ ahead ∧
        ∃ reached, reached ∈ pattern.ends ⟨before.getLast?, ahead, none⟩ := by
  rw [occursIn, search?, searchFrom_isSome_iff]
  simp only [Option.or_none]

end Pattern

end GrowthGauge
