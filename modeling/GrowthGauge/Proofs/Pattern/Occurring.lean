import GrowthGauge.Proofs.Pattern.Requirement

namespace GrowthGauge

theorem Span.text_append (run following : Text) :
    Span.text ⟨run ++ following, following⟩ = run := by
  rw [Span.text, List.length_append, Nat.add_sub_cancel]
  exact List.take_left

namespace Pattern

/-! ## Patterns without a name

A pattern that marks no name leaves the mark as it is. -/

def isNameless : Pattern → Bool
  | seq first second => first.isNameless && second.isNameless
  | either preferred fallback => preferred.isNameless && fallback.isNameless
  | repeated body => body.isNameless
  | named _ => false
  | _ => true

theorem name_of_mem_roundEnds {body : Cursor → List Cursor}
    (keepsName : ∀ cursor, ∀ reached ∈ body cursor, reached.name = cursor.name) (rounds : Nat)
    (cursor : Cursor) : ∀ reached ∈ roundEnds body rounds cursor, reached.name = cursor.name := by
  induction rounds generalizing cursor with
  | zero =>
      intro reached member
      rw [roundEnds, List.mem_singleton] at member
      rw [member]
  | succ rounds induction =>
      intro reached member
      rcases List.mem_append.mp member with more | stop
      · rcases List.mem_flatMap.mp more with ⟨middle, inBody, rest⟩
        exact (induction middle reached rest).trans (keepsName cursor middle inBody)
      · rw [List.mem_singleton] at stop
        rw [stop]

theorem name_of_mem_ends {pattern : Pattern} (nameless : pattern.isNameless = true)
    {cursor reached : Cursor} (member : reached ∈ pattern.ends cursor) :
    reached.name = cursor.name := by
  induction pattern generalizing cursor reached with
  | nothing => rw [List.mem_singleton.mp member]
  | one accepts =>
      rcases mem_ends_one.mp member with ⟨character, following, _, _, rfl⟩
      rfl
  | many accepts =>
      rcases mem_ends_many.mp member with ⟨run, following, _, _, rfl⟩
      rfl
  | fewest accepts =>
      rcases mem_ends_many.mp (mem_ends_fewest.mp member) with ⟨run, following, _, _, rfl⟩
      rfl
  | seq first second firstKeeps secondKeeps =>
      rw [isNameless, Bool.and_eq_true] at nameless
      rcases mem_ends_seq.mp member with ⟨middle, inFirst, inSecond⟩
      exact (secondKeeps nameless.2 inSecond).trans (firstKeeps nameless.1 inFirst)
  | either preferred fallback preferredKeeps fallbackKeeps =>
      rw [isNameless, Bool.and_eq_true] at nameless
      rcases mem_ends_either.mp member with inPreferred | inFallback
      · exact preferredKeeps nameless.1 inPreferred
      · exact fallbackKeeps nameless.2 inFallback
  | repeated body keeps =>
      exact name_of_mem_roundEnds (fun _ _ inBody => keeps nameless inBody) _ cursor reached member
  | named body _ => cases nameless
  | boundary => rw [eq_of_mem_ite_not member]
  | lineStart => rw [eq_of_mem_ite member]
  | lineEnd => rw [eq_of_mem_ite member]
  | textEnd => rw [eq_of_mem_ite member]
  | followedBy body _ => rw [eq_of_mem_ite_not member]
  | notFollowedBy accepts => rw [eq_of_mem_ite_not member]

/-! ## Parts of a match

Where several patterns match one after another, the last of them match further on. -/

theorem exists_ends_of_inOrder_append {first second : List Pattern} {cursor reached : Cursor}
    (member : reached ∈ (inOrder (first ++ second)).ends cursor) :
    ∃ middle ∈ (inOrder first).ends cursor, reached ∈ (inOrder second).ends middle := by
  induction first generalizing cursor with
  | nil => exact ⟨cursor, List.mem_singleton_self cursor, member⟩
  | cons head tail induction =>
      rcases mem_ends_inOrder_cons.mp member with ⟨next, inHead, inRest⟩
      rcases induction inRest with ⟨middle, inTail, inSecond⟩
      exact ⟨middle, mem_ends_inOrder_cons.mpr ⟨next, inHead, inTail⟩, inSecond⟩

theorem self_mem_ends_many (accepts : Char → Bool) (cursor : Cursor) :
    cursor ∈ (many accepts).ends cursor :=
  mem_ends_many.mpr ⟨[], cursor.ahead, rfl, by simp, rfl⟩

theorem exists_run_of_atLeastOne {accepts : Char → Bool} {cursor reached : Cursor}
    (member : reached ∈ (atLeastOne accepts).ends cursor) :
    ∃ run following, cursor.ahead = run ++ following ∧ run ≠ [] ∧ run.all accepts = true ∧
      reached = cursor.behind run following := by
  rcases mem_ends_seq.mp member with ⟨middle, first, rest⟩
  rcases mem_ends_one.mp first with ⟨character, behind, ahead, accepted, rfl⟩
  rcases mem_ends_many.mp rest with ⟨run, following, split, allAccepted, rfl⟩
  have behindSplit : behind = run ++ following := split
  refine ⟨character :: run, following, ?_, List.cons_ne_nil _ _, ?_, ?_⟩
  · rw [ahead, behindSplit]
    rfl
  · rw [List.all_cons, accepted]
    exact List.all_eq_true.mpr allAccepted
  · rw [Cursor.behind_behind]
    rfl

/-! ## What a match covers -/

section

variable {pattern : Pattern} {text : Text} {found : Match}

theorem mem_ends_of_search? (search : pattern.search? text = some found) :
    found.stop ∈ pattern.ends found.start := by
  rcases exists_matchAt_of_searchFrom search with ⟨before, ahead, _, matched⟩
  rcases mem_ends_of_matchAt matched with ⟨start, member⟩
  rwa [start]

theorem text_of_takes {run : Text} (takes : Takes found.start found.stop run) :
    found.text = run := by
  rw [Match.text, takes.1, Span.text_append]

theorem ahead_of_search? (search : pattern.search? text = some found) :
    found.start.ahead = found.text ++ found.stop.ahead := by
  rcases exists_takes (mem_ends_of_search? search) with ⟨run, takes⟩
  rw [text_of_takes takes]
  exact takes.1

theorem text_ne_nil_of_search? {property : Char → Bool} (requires : pattern.Requires property)
    (search : pattern.search? text = some found) : found.text ≠ [] := by
  intro empty
  have shorter := length_ahead_lt_of_requires requires (mem_ends_of_search? search)
  rw [ahead_of_search? search, empty] at shorter
  exact Nat.lt_irrefl _ shorter

end

/-- A pattern with matches that follow one another occurs. -/
theorem isSome_searchFrom_of_matchesFrom {pattern : Pattern} {previous : Option Char}
    {text : Text} (someMatch : pattern.matchesFrom 0 previous text ≠ []) :
    (pattern.searchFrom previous text).isSome = true := by
  induction text generalizing previous with
  | nil =>
      have here : (pattern.matchAt ⟨previous, [], none⟩).toList ≠ [] := someMatch
      rw [ne_eq, Option.toList_eq_nil_iff] at here
      exact Option.isSome_iff_ne_none.mpr here
  | cons character rest induction =>
      rw [searchFrom]
      rw [matchesFrom] at someMatch
      cases matched : pattern.matchAt ⟨previous, character :: rest, none⟩ with
      | some found => rfl
      | none =>
          rw [matched] at someMatch
          exact induction someMatch

/-! ## Matches further on -/

/-- The pattern matches at this position or further on. -/
def OccursAhead (pattern : Pattern) (cursor : Cursor) : Prop :=
  ∃ middle run, Takes cursor middle run ∧ middle.name = cursor.name ∧
    ∃ reached, reached ∈ pattern.ends middle

theorem occursIn_iff_occursAhead (pattern : Pattern) (text : Text) :
    pattern.occursIn text = true ↔ pattern.OccursAhead (Cursor.start text) := by
  rw [occursIn_iff]
  constructor
  · rintro ⟨before, ahead, split, found⟩
    exact ⟨⟨before.getLast?, ahead, none⟩, before, ⟨split, (Option.or_none).symm⟩, rfl, found⟩
  · rintro ⟨⟨previous, ahead, name⟩, run, takes, unnamed, found⟩
    refine ⟨run, ahead, takes.1, ?_⟩
    have previousEq : previous = run.getLast? := takes.2.trans Option.or_none
    have nameEq : name = none := unnamed
    rwa [previousEq, nameEq] at found

theorem OccursAhead.here {pattern : Pattern} {cursor reached : Cursor}
    (member : reached ∈ pattern.ends cursor) : pattern.OccursAhead cursor :=
  ⟨cursor, [], takes_nil cursor, rfl, reached, member⟩

theorem OccursAhead.of_takes {pattern : Pattern} {cursor middle : Cursor} {run : Text}
    (occurs : pattern.OccursAhead middle) (takes : Takes cursor middle run)
    (unnamed : middle.name = cursor.name) : pattern.OccursAhead cursor := by
  rcases occurs with ⟨start, more, takesMore, name, found⟩
  exact ⟨start, run ++ more, takes.append takesMore, name.trans unnamed, found⟩

theorem OccursAhead.later {pattern before : Pattern} (nameless : before.isNameless = true)
    {cursor middle : Cursor} (taken : middle ∈ before.ends cursor)
    (occurs : pattern.OccursAhead middle) : pattern.OccursAhead cursor := by
  rcases exists_takes taken with ⟨run, takes⟩
  exact occurs.of_takes takes (name_of_mem_ends nameless taken)

end Pattern

end GrowthGauge
