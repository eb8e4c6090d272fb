import GrowthGauge.Proofs.Pattern.Extension

namespace GrowthGauge

namespace Pattern

/-! ## The runs that a pattern spells

A pattern that never asks what stands around it takes a run of characters for what they are,
wherever they stand. The runs it takes are its spellings, and its ends at a cursor are the
positions behind the spellings that lie ahead. -/

def Spells : Pattern → Text → Prop
  | nothing, run => run = []
  | one accepts, run => ∃ character, run = [character] ∧ accepts character = true
  | many accepts, run => ∀ character ∈ run, accepts character = true
  | fewest accepts, run => ∀ character ∈ run, accepts character = true
  | seq first second, run =>
      ∃ before after, run = before ++ after ∧ first.Spells before ∧ second.Spells after
  | either preferred fallback, run => preferred.Spells run ∨ fallback.Spells run
  | repeated body, run => ∃ rounds : List Text, run = rounds.flatten ∧
      ∀ round ∈ rounds, body.Spells round
  | _, _ => False

/-- The ends of a body are the positions behind the runs that it spells. -/
def EndsBehind (body : Cursor → List Cursor) (spells : Text → Prop) : Prop :=
  ∀ cursor reached, reached ∈ body cursor ↔
    ∃ run following, cursor.ahead = run ++ following ∧ spells run ∧
      reached = cursor.behind run following

theorem mem_roundEnds_iff {body : Cursor → List Cursor} {spells : Text → Prop}
    (meaning : EndsBehind body spells) (count : Nat) (cursor reached : Cursor) :
    reached ∈ roundEnds body count cursor ↔
      ∃ (rounds : List Text) (following : Text), rounds.length ≤ count ∧
        cursor.ahead = rounds.flatten ++ following ∧ (∀ round ∈ rounds, spells round) ∧
        reached = cursor.behind rounds.flatten following := by
  induction count generalizing cursor with
  | zero =>
      rw [roundEnds, List.mem_singleton]
      constructor
      · intro stop
        exact ⟨[], cursor.ahead, Nat.le_refl 0, rfl, by simp, stop⟩
      · rintro ⟨rounds, following, few, ahead, _, stop⟩
        rw [Nat.le_zero, List.length_eq_zero_iff] at few
        subst few
        rw [stop, ← show cursor.ahead = following from ahead]
        rfl
  | succ count induction =>
      rw [roundEnds, List.mem_append, List.mem_singleton, List.mem_flatMap]
      constructor
      · rintro (⟨middle, inBody, later⟩ | stop)
        · rcases (meaning cursor middle).mp inBody with ⟨run, following, ahead, spelt, rfl⟩
          rcases (induction _).mp later with ⟨rounds, final, few, split, allSpelt, rfl⟩
          refine ⟨run :: rounds, final, Nat.succ_le_succ few, ?_, ?_, ?_⟩
          · rw [ahead, List.flatten_cons, List.append_assoc]
            exact congrArg (run ++ ·) split
          · exact List.forall_mem_cons.mpr ⟨spelt, allSpelt⟩
          · rw [Cursor.behind_behind]
            rfl
        · exact ⟨[], cursor.ahead, Nat.zero_le _, rfl, by simp, stop⟩
      · rintro ⟨rounds, following, few, ahead, allSpelt, rfl⟩
        cases rounds with
        | nil =>
            right
            rw [← show cursor.ahead = following from ahead]
            rfl
        | cons run rounds =>
            rcases List.forall_mem_cons.mp allSpelt with ⟨spelt, later⟩
            rw [List.flatten_cons, List.append_assoc] at ahead
            left
            refine ⟨cursor.behind run (rounds.flatten ++ following),
              (meaning _ _).mpr ⟨run, _, ahead, spelt, rfl⟩, (induction _).mpr ?_⟩
            refine ⟨rounds, following, Nat.le_of_succ_le_succ few, rfl, later, ?_⟩
            rw [Cursor.behind_behind]
            rfl

theorem length_le_length_flatten {rounds : List Text} (inked : ∀ round ∈ rounds, round ≠ []) :
    rounds.length ≤ rounds.flatten.length := by
  induction rounds with
  | nil => exact Nat.le_refl 0
  | cons round rounds induction =>
      rcases List.forall_mem_cons.mp inked with ⟨here, later⟩
      have positive := List.length_pos_of_ne_nil here
      have rest := induction later
      rw [List.length_cons, List.flatten_cons, List.length_append]
      omega

/-- Rounds that take nothing may be left out, and the others are no more than the characters
ahead, which bound the rounds that are made. -/
theorem endsBehind_repeated {body : Pattern} (meaning : EndsBehind body.ends body.Spells) :
    EndsBehind (repeated body).ends (repeated body).Spells := by
  intro cursor reached
  rw [ends, mem_roundEnds_iff meaning]
  constructor
  · rintro ⟨rounds, following, _, ahead, spelt, rfl⟩
    exact ⟨rounds.flatten, following, ahead, ⟨rounds, rfl, spelt⟩, rfl⟩
  · rintro ⟨run, following, ahead, ⟨rounds, rfl, spelt⟩, rfl⟩
    have same : (rounds.filter (!·.isEmpty)).flatten = rounds.flatten :=
      List.flatten_filter_not_isEmpty
    refine ⟨rounds.filter (!·.isEmpty), following, ?_, ?_, ?_, ?_⟩
    · rw [ahead, List.length_append, ← same]
      have inked : ∀ round ∈ rounds.filter (!·.isEmpty), round ≠ [] := by
        intro round member
        simpa using (List.mem_filter.mp member).2
      exact Nat.le_add_right_of_le (length_le_length_flatten inked)
    · rw [same]
      exact ahead
    · exact fun round member => spelt round (List.mem_filter.mp member).1
    · rw [same]

/-- An open-ended pattern ends behind its spellings. -/
theorem endsBehind_spells {pattern : Pattern} (openEnded : pattern.IsOpenEnded) :
    EndsBehind pattern.ends pattern.Spells := by
  induction pattern with
  | nothing =>
      intro cursor reached
      rw [ends, List.mem_singleton]
      constructor
      · intro stop
        exact ⟨[], cursor.ahead, rfl, rfl, stop⟩
      · rintro ⟨run, following, ahead, rfl, rfl⟩
        rw [← show cursor.ahead = following from ahead]
        rfl
  | one accepts =>
      intro cursor reached
      rw [mem_ends_one]
      constructor
      · rintro ⟨character, following, ahead, accepted, rfl⟩
        exact ⟨[character], following, ahead, ⟨character, rfl, accepted⟩, rfl⟩
      · rintro ⟨run, following, ahead, ⟨character, rfl, accepted⟩, rfl⟩
        exact ⟨character, following, ahead, accepted, rfl⟩
  | many accepts => exact fun cursor reached => mem_ends_many
  | fewest accepts => exact fun cursor reached => mem_ends_fewest.trans mem_ends_many
  | seq first second firstMeaning secondMeaning =>
      intro cursor reached
      rw [mem_ends_seq]
      constructor
      · rintro ⟨middle, inFirst, inSecond⟩
        rcases (firstMeaning openEnded.1 _ _).mp inFirst with
          ⟨before, _, ahead, spelt, rfl⟩
        rcases (secondMeaning openEnded.2 _ _).mp inSecond with
          ⟨after, following, rest, alsoSpelt, rfl⟩
        refine ⟨before ++ after, following, ?_, ⟨before, after, rfl, spelt, alsoSpelt⟩, ?_⟩
        · rw [ahead, List.append_assoc]
          exact congrArg (before ++ ·) rest
        · rw [Cursor.behind_behind]
      · rintro ⟨run, following, ahead, ⟨before, after, rfl, spelt, alsoSpelt⟩, rfl⟩
        rw [List.append_assoc] at ahead
        refine ⟨cursor.behind before (after ++ following),
          (firstMeaning openEnded.1 _ _).mpr ⟨before, _, ahead, spelt, rfl⟩,
          (secondMeaning openEnded.2 _ _).mpr ⟨after, following, rfl, alsoSpelt, ?_⟩⟩
        rw [Cursor.behind_behind]
  | either preferred fallback preferredMeaning fallbackMeaning =>
      intro cursor reached
      rw [mem_ends_either, preferredMeaning openEnded.1 cursor reached,
        fallbackMeaning openEnded.2 cursor reached]
      constructor
      · rintro (⟨run, following, ahead, spelt, rfl⟩ | ⟨run, following, ahead, spelt, rfl⟩)
        · exact ⟨run, following, ahead, .inl spelt, rfl⟩
        · exact ⟨run, following, ahead, .inr spelt, rfl⟩
      · rintro ⟨run, following, ahead, spelt | spelt, rfl⟩
        · exact .inl ⟨run, following, ahead, spelt, rfl⟩
        · exact .inr ⟨run, following, ahead, spelt, rfl⟩
  | repeated body meaning => exact endsBehind_repeated (meaning openEnded)
  | _ => exact openEnded.elim

/-- What stands behind an open-ended pattern does not decide whether it matches. -/
theorem exists_mem_ends_of_ahead_eq {pattern : Pattern} (openEnded : pattern.IsOpenEnded)
    {cursor other reached : Cursor} (member : reached ∈ pattern.ends cursor)
    (sameAhead : other.ahead = cursor.ahead) :
    ∃ otherReached, otherReached ∈ pattern.ends other := by
  have meaning := endsBehind_spells openEnded
  rcases (meaning cursor reached).mp member with ⟨run, following, ahead, spelt, _⟩
  exact ⟨_, (meaning other _).mpr ⟨run, following, sameAhead.trans ahead, spelt, rfl⟩⟩

/-! ## Spellings of the patterns that tables are built from -/

theorem spells_char_iff {expected : Char} {run : Text} :
    (char expected).Spells run ↔ run = [expected] := by
  simp only [char, Spells, beq_iff_eq]
  constructor
  · rintro ⟨_, single, rfl⟩
    exact single
  · exact fun single => ⟨expected, single, rfl⟩

theorem spells_inOrder_cons_iff {first : Pattern} {rest : List Pattern} {run : Text} :
    (inOrder (first :: rest)).Spells run ↔
      ∃ before after, run = before ++ after ∧ first.Spells before ∧
        (inOrder rest).Spells after := by
  cases rest with
  | nil =>
      simp only [inOrder, Spells]
      constructor
      · exact fun spelt => ⟨run, [], (List.append_nil run).symm, spelt, rfl⟩
      · rintro ⟨before, after, rfl, spelt, rfl⟩
        rwa [List.append_nil]
  | cons second rest => exact Iff.rfl

theorem spells_literal_iff {expected run : Text} :
    (literal expected).Spells run ↔ run = expected := by
  unfold literal
  induction expected generalizing run with
  | nil => exact Iff.rfl
  | cons head tail induction =>
      rw [List.map_cons, spells_inOrder_cons_iff]
      constructor
      · rintro ⟨before, after, rfl, first, rest⟩
        rw [spells_char_iff.mp first, induction.mp rest]
        rfl
      · rintro rfl
        exact ⟨[head], tail, rfl, spells_char_iff.mpr rfl, induction.mpr rfl⟩

theorem spells_many_iff {accepts : Char → Bool} {run : Text} :
    (many accepts).Spells run ↔ run.all accepts = true :=
  List.all_eq_true.symm

theorem spells_atLeastOne_iff {accepts : Char → Bool} {run : Text} :
    (atLeastOne accepts).Spells run ↔ run ≠ [] ∧ run.all accepts = true := by
  constructor
  · rintro ⟨before, after, rfl, ⟨character, rfl, accepted⟩, rest⟩
    refine ⟨List.cons_ne_nil _ _, ?_⟩
    rw [List.all_eq_true]
    exact List.forall_mem_cons.mpr ⟨accepted, rest⟩
  · rintro ⟨nonempty, accepted⟩
    rcases List.exists_cons_of_ne_nil nonempty with ⟨character, rest, rfl⟩
    rw [List.all_cons, Bool.and_eq_true] at accepted
    exact ⟨[character], rest, rfl, ⟨character, rfl, accepted.1⟩, List.all_eq_true.mp accepted.2⟩

theorem spells_firstOf_iff {patterns : List Pattern} {run : Text} :
    (firstOf patterns).Spells run ↔ ∃ pattern ∈ patterns, pattern.Spells run := by
  induction patterns with
  | nil => simp [firstOf, Spells]
  | cons preferred rest induction =>
      cases rest with
      | nil => simp [firstOf]
      | cons second rest =>
          have unfolded : firstOf (preferred :: second :: rest) =
              either preferred (firstOf (second :: rest)) := rfl
          rw [unfolded, Spells, induction]
          simp only [List.mem_cons, exists_eq_or_imp]

end Pattern

/-! ## Longest runs

The longest run of one class with which a text begins is the same however the text is cut. -/

theorem Text.eq_of_run_append {accepts : Char → Bool} {first second rest other : Text}
    (firstRun : first.all accepts = true) (secondRun : second.all accepts = true)
    (firstEnds : rest.head?.any accepts = false) (secondEnds : other.head?.any accepts = false)
    (same : first ++ rest = second ++ other) : first = second ∧ rest = other := by
  have longest {run behind : Text} (isRun : run.all accepts = true)
      (ends : behind.head?.any accepts = false) : (run ++ behind).takeWhile accepts = run := by
    rw [List.takeWhile_append_of_pos (List.all_eq_true.mp isRun)]
    cases behind with
    | nil => exact List.append_nil run
    | cons head tail =>
        have stops : accepts head = false := ends
        rw [List.takeWhile_cons_of_neg (ne_true_of_eq_false stops), List.append_nil]
  have runs : first = second := by
    rw [← longest firstRun firstEnds, same, longest secondRun secondEnds]
  rw [runs] at same
  exact ⟨runs, List.append_cancel_left same⟩

end GrowthGauge
