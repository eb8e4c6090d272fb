import GrowthGauge.Proofs.Pattern.Meaning
import GrowthGauge.Pattern.Search

namespace GrowthGauge

/-! ## More text behind a match

A pattern that never asks what stands behind it keeps its matches when the text
goes on. A word boundary does ask, but a keyword right behind the boundary has
the answer already. -/

/-- The same position with more text ahead. -/
def Cursor.extend (cursor : Cursor) (more : Text) : Cursor :=
  { cursor with ahead := cursor.ahead ++ more }

namespace Pattern

/-- Nothing in the pattern asks what is, or is not, ahead. -/
def IsOpenEnded : Pattern → Prop
  | nothing | one _ | many _ | fewest _ => True
  | seq first second => first.IsOpenEnded ∧ second.IsOpenEnded
  | either preferred fallback => preferred.IsOpenEnded ∧ fallback.IsOpenEnded
  | repeated body => body.IsOpenEnded
  | _ => False

theorem isOpenEnded_inOrder {patterns : List Pattern}
    (openEnded : ∀ pattern ∈ patterns, pattern.IsOpenEnded) :
    (inOrder patterns).IsOpenEnded := by
  induction patterns with
  | nil => trivial
  | cons first rest induction =>
      rcases List.forall_mem_cons.mp openEnded with ⟨head, tail⟩
      cases rest with
      | nil => exact head
      | cons second rest => exact ⟨head, induction tail⟩

theorem isOpenEnded_literal (expected : Text) : (literal expected).IsOpenEnded := by
  apply isOpenEnded_inOrder
  intro pattern member
  rcases List.mem_map.mp member with ⟨character, _, equal⟩
  exact equal ▸ trivial

theorem isOpenEnded_firstOf {patterns : List Pattern}
    (openEnded : ∀ pattern ∈ patterns, pattern.IsOpenEnded) :
    (firstOf patterns).IsOpenEnded := by
  induction patterns with
  | nil => trivial
  | cons first rest induction =>
      rcases List.forall_mem_cons.mp openEnded with ⟨head, tail⟩
      cases rest with
      | nil => exact head
      | cons second rest => exact ⟨head, induction tail⟩

theorem roundEnds_mono {body : Cursor → List Cursor} {fewer more : Nat} (le : fewer ≤ more)
    {cursor reached : Cursor} (member : reached ∈ roundEnds body fewer cursor) :
    reached ∈ roundEnds body more cursor := by
  induction more generalizing fewer cursor with
  | zero =>
      rw [Nat.le_zero] at le
      exact le ▸ member
  | succ more induction =>
      rw [roundEnds, List.mem_append]
      cases fewer with
      | zero => exact .inr member
      | succ fewer =>
          rcases List.mem_append.mp member with again | stop
          · rcases List.mem_flatMap.mp again with ⟨middle, inBody, rest⟩
            left
            exact List.mem_flatMap.mpr ⟨middle, inBody, induction (Nat.le_of_succ_le_succ le) rest⟩
          · exact .inr stop

theorem mem_roundEnds_extend {body : Cursor → List Cursor} {more : Text}
    (bodyExtends : ∀ cursor, ∀ reached ∈ body cursor,
      reached.extend more ∈ body (cursor.extend more))
    {rounds : Nat} {cursor reached : Cursor} (member : reached ∈ roundEnds body rounds cursor) :
    reached.extend more ∈ roundEnds body rounds (cursor.extend more) := by
  induction rounds generalizing cursor with
  | zero =>
      rw [roundEnds, List.mem_singleton] at member ⊢
      rw [member]
  | succ rounds induction =>
      rw [roundEnds, List.mem_append]
      rcases List.mem_append.mp member with again | stop
      · rcases List.mem_flatMap.mp again with ⟨middle, inBody, rest⟩
        left
        exact List.mem_flatMap.mpr
          ⟨middle.extend more, bodyExtends cursor middle inBody, induction rest⟩
      · rw [List.mem_singleton] at stop
        rw [stop]
        exact .inr List.mem_cons_self

/-- An end of an open-ended pattern is an end when the text goes on. -/
theorem mem_ends_extend {pattern : Pattern} (openEnded : pattern.IsOpenEnded) (more : Text)
    {cursor reached : Cursor} (member : reached ∈ pattern.ends cursor) :
    reached.extend more ∈ pattern.ends (cursor.extend more) := by
  induction pattern generalizing cursor reached with
  | nothing =>
      rw [ends, List.mem_singleton] at member ⊢
      rw [member]
  | one accepts =>
      rcases mem_ends_one.mp member with ⟨character, following, ahead, accepted, rfl⟩
      refine mem_ends_one.mpr ⟨character, following ++ more, ?_, accepted, rfl⟩
      rw [Cursor.extend, ahead]
      rfl
  | many accepts =>
      rcases mem_ends_many.mp member with ⟨run, following, ahead, accepted, rfl⟩
      refine mem_ends_many.mpr ⟨run, following ++ more, ?_, accepted, rfl⟩
      rw [Cursor.extend, ahead, List.append_assoc]
  | fewest accepts =>
      rcases mem_ends_many.mp (mem_ends_fewest.mp member) with
        ⟨run, following, ahead, accepted, rfl⟩
      refine mem_ends_fewest.mpr (mem_ends_many.mpr ⟨run, following ++ more, ?_, accepted, rfl⟩)
      rw [Cursor.extend, ahead, List.append_assoc]
  | seq first second firstExtends secondExtends =>
      rcases mem_ends_seq.mp member with ⟨middle, inFirst, inSecond⟩
      exact mem_ends_seq.mpr ⟨middle.extend more, firstExtends openEnded.1 inFirst,
        secondExtends openEnded.2 inSecond⟩
  | either preferred fallback preferredExtends fallbackExtends =>
      rcases mem_ends_either.mp member with inPreferred | inFallback
      · exact mem_ends_either.mpr (.inl (preferredExtends openEnded.1 inPreferred))
      · exact mem_ends_either.mpr (.inr (fallbackExtends openEnded.2 inFallback))
  | repeated body bodyExtends =>
      have lifted := mem_roundEnds_extend (fun _ _ inBody => bodyExtends openEnded inBody) member
      apply roundEnds_mono _ lifted
      rw [Cursor.extend, List.length_append]
      exact Nat.le_add_right _ _
  | _ => exact openEnded.elim

theorem boundary_ends_extend (cursor : Cursor) (more : Text) (nonempty : cursor.ahead ≠ [])
    (member : cursor ∈ boundary.ends cursor) :
    cursor.extend more ∈ boundary.ends (cursor.extend more) := by
  have sameAhead : (cursor.extend more).isWordAhead = cursor.isWordAhead := by
    rcases List.exists_cons_of_ne_nil nonempty with ⟨head, tail, ahead⟩
    simp [Cursor.isWordAhead, Cursor.extend, ahead]
  have sameBehind : (cursor.extend more).isWordBehind = cursor.isWordBehind := rfl
  rw [ends] at member ⊢
  rw [sameAhead, sameBehind]
  split at member
  · cases member
  · next differs =>
      rw [if_neg differs]
      exact List.mem_cons_self

/-- A keyword behind a word boundary, and what is asked for after it, still occurs
when the text goes on. -/
theorem occursIn_append_of_keyword {keyword : Text} {tail : List Pattern}
    (nonempty : keyword ≠ []) (openEnded : ∀ pattern ∈ tail, pattern.IsOpenEnded)
    {text : Text} (occurs : (inOrder (boundary :: literal keyword :: tail)).occursIn text = true)
    (more : Text) :
    (inOrder (boundary :: literal keyword :: tail)).occursIn (text ++ more) = true := by
  rcases (occursIn_iff _ text).mp occurs with ⟨before, ahead, split, reached, member⟩
  rcases mem_ends_inOrder_cons.mp member with ⟨start, atBoundary, rest⟩
  have same : start = ⟨before.getLast?, ahead, none⟩ := by
    rw [ends] at atBoundary
    split at atBoundary
    · cases atBoundary
    · exact List.mem_singleton.mp atBoundary
  subst same
  rcases mem_ends_inOrder_cons.mp rest with ⟨middle, inKeyword, _⟩
  rcases mem_ends_literal.mp inKeyword with ⟨following, aheadSplit, _⟩
  have aheadNonempty : ahead ≠ [] := by
    intro empty
    rw [empty] at aheadSplit
    exact nonempty (List.append_eq_nil_iff.mp aheadSplit.symm).1
  have restOpen : (inOrder (literal keyword :: tail)).IsOpenEnded := by
    apply isOpenEnded_inOrder
    exact List.forall_mem_cons.mpr ⟨isOpenEnded_literal keyword, openEnded⟩
  apply (occursIn_iff _ _).mpr
  refine ⟨before, ahead ++ more, by rw [split, List.append_assoc], reached.extend more, ?_⟩
  apply mem_ends_inOrder_cons.mpr
  exact ⟨_, boundary_ends_extend _ more aheadNonempty atBoundary,
    mem_ends_extend restOpen more rest⟩

/-! ## Runs that a pattern covers

Some patterns take a run of characters wherever it lies ahead, whatever stands
before it or comes behind it. -/

def Covers (pattern : Pattern) (run : Text) : Prop :=
  ∀ cursor following, cursor.ahead = run ++ following →
    cursor.behind run following ∈ pattern.ends cursor

theorem covers_nothing : nothing.Covers [] := by
  intro cursor following ahead
  rw [List.nil_append] at ahead
  rw [← ahead]
  exact List.mem_cons_self

theorem covers_one {accepts : Char → Bool} {character : Char}
    (accepted : accepts character = true) : (one accepts).Covers [character] := by
  intro cursor following ahead
  exact mem_ends_one.mpr ⟨character, following, ahead, accepted, rfl⟩

theorem covers_char (expected : Char) : (char expected).Covers [expected] :=
  covers_one (beq_self_eq_true expected)

theorem covers_many {accepts : Char → Bool} {run : Text}
    (accepted : ∀ character ∈ run, accepts character = true) : (many accepts).Covers run := by
  intro cursor following ahead
  exact mem_ends_many.mpr ⟨run, following, ahead, accepted, rfl⟩

theorem covers_seq {first second : Pattern} {before after : Text}
    (firstCovers : first.Covers before) (secondCovers : second.Covers after) :
    (seq first second).Covers (before ++ after) := by
  intro cursor following ahead
  rw [List.append_assoc] at ahead
  have split := secondCovers (cursor.behind before (after ++ following)) following rfl
  rw [Cursor.behind_behind] at split
  exact mem_ends_seq.mpr ⟨_, firstCovers cursor _ ahead, split⟩

theorem covers_inOrder {patterns : List Pattern} {runs : List Text}
    (covers : List.Forall₂ Covers patterns runs) : (inOrder patterns).Covers runs.flatten := by
  induction covers with
  | nil => exact covers_nothing
  | cons first rest induction =>
      cases rest with
      | nil =>
          rw [List.flatten_singleton]
          exact first
      | cons second rest => exact covers_seq first induction

theorem covers_literal (expected : Text) : (literal expected).Covers expected := by
  have single : List.Forall₂ Covers (expected.map char)
      (expected.map fun character => [character]) := by
    induction expected with
    | nil => exact .nil
    | cons head tail induction => exact .cons (covers_char head) induction
  have covers := covers_inOrder single
  rwa [← List.flatMap_def, List.flatMap_singleton'] at covers

theorem covers_preferred {preferred : Pattern} {run : Text} (covers : preferred.Covers run)
    (fallback : Pattern) : (either preferred fallback).Covers run := by
  intro cursor following ahead
  exact mem_ends_either.mpr (.inl (covers cursor following ahead))

/-- A repeated pattern may be repeated no times. -/
theorem covers_repeated_nil (body : Pattern) : (repeated body).Covers [] := by
  intro cursor following ahead
  rw [List.nil_append] at ahead
  rw [← ahead, Cursor.behind_nil, ends]
  cases cursor.ahead.length with
  | zero => exact List.mem_cons_self
  | succ rounds => exact List.mem_append_right _ List.mem_cons_self

theorem Covers.exists_end {pattern : Pattern} {run following : Text} (covers : pattern.Covers run)
    {cursor : Cursor} (ahead : cursor.ahead = run ++ following) :
    ∃ reached ∈ pattern.ends cursor, reached.ahead = following :=
  ⟨_, covers cursor following ahead, rfl⟩

theorem covers_perhaps_nil (body : Pattern) : (perhaps body).Covers [] := by
  intro cursor following ahead
  exact mem_ends_either.mpr (.inr (covers_nothing cursor following ahead))

theorem covers_many_nil (accepts : Char → Bool) : (many accepts).Covers [] :=
  covers_many fun _ member => absurd member List.not_mem_nil

theorem covers_atLeastOne {accepts : Char → Bool} {run : Text} (nonempty : run ≠ [])
    (accepted : run.all accepts = true) : (atLeastOne accepts).Covers run := by
  rcases List.exists_cons_of_ne_nil nonempty with ⟨head, tail, rfl⟩
  rw [List.all_cons, Bool.and_eq_true] at accepted
  have first : (one accepts).Covers [head] := covers_one accepted.1
  exact covers_seq first (covers_many (List.all_eq_true.mp accepted.2))

theorem mem_ends_inOrder_append {first second : List Pattern} {cursor middle reached : Cursor}
    (inFirst : middle ∈ (inOrder first).ends cursor)
    (inSecond : reached ∈ (inOrder second).ends middle) :
    reached ∈ (inOrder (first ++ second)).ends cursor := by
  induction first generalizing cursor with
  | nil =>
      rw [inOrder, ends, List.mem_singleton] at inFirst
      exact inFirst ▸ inSecond
  | cons head tail induction =>
      rcases mem_ends_inOrder_cons.mp inFirst with ⟨next, inHead, inTail⟩
      exact mem_ends_inOrder_cons.mpr ⟨next, inHead, induction inTail⟩

end Pattern

theorem firstForm_isSome_iff {Form : Type} (forms : List Form) (pattern : Form → Pattern)
    (text : Text) :
    (firstForm forms pattern text).isSome = true ↔
      ∃ form ∈ forms, (pattern form).occursIn text = true := by
  rw [firstForm, List.findSome?_isSome_iff]
  simp only [Option.isSome_map]
  rfl

end GrowthGauge
