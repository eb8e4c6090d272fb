import GrowthGauge.Proofs.Nesting.BraceMoves
import Mathlib.Algebra.Order.Ring.Int
import Mathlib.Data.List.Induction
import Mathlib.Order.Bounds.Defs

namespace GrowthGauge.BraceNesting

/-! ## The depth of a text

The depth counts opening braces up and closing braces down, and never falls below
zero. A closing brace that nothing opened is thereby forgotten, so the depth is
the greatest surplus of opening braces that any end of the text shows. -/

def depthAfter (depth : Nat) (character : Char) : Nat :=
  if character == '{' then depth + 1
  else if character == '}' then depth - 1
  else depth

/-- The opening braces of a text less its closing ones. -/
def braceBalance (text : Text) : Int :=
  text.count '{' - text.count '}'

def braceWeight (character : Char) : Int :=
  if character == '{' then 1
  else if character == '}' then -1
  else 0

theorem braceBalance_concat (text : Text) (character : Char) :
    braceBalance (text ++ [character]) = braceBalance text + braceWeight character := by
  simp only [braceBalance, braceWeight, List.count_append, List.count_singleton, beq_iff_eq]
  by_cases opening : character = '{'
  · subst opening
    simp
    omega
  · by_cases closing : character = '}'
    · subst closing
      simp
      omega
    · simp [opening, closing]

theorem depthAfter_eq_max (depth : Nat) (character : Char) :
    (depthAfter depth character : Int) = max 0 (depth + braceWeight character) := by
  unfold depthAfter braceWeight
  split
  · omega
  · split <;> omega

/-- The balances of the ends of a text. The empty end is one of them. -/
def endBalances (text : Text) : Set Int :=
  {balance | ∃ ending, ending <:+ text ∧ braceBalance ending = balance}

/-- One more character adds its weight to every end, and the empty end is always
there. -/
theorem isGreatest_endBalances_concat {text : Text} {depth : Nat}
    (greatest : IsGreatest (endBalances text) depth) (character : Char) :
    IsGreatest (endBalances (text ++ [character])) (depthAfter depth character) := by
  rw [depthAfter_eq_max]
  constructor
  · rcases le_total (depth + braceWeight character) 0 with negative | positive
    · rw [max_eq_left negative]
      exact ⟨[], List.nil_suffix, rfl⟩
    · rw [max_eq_right positive]
      rcases greatest.1 with ⟨ending, isEnd, balance⟩
      refine ⟨ending ++ [character], List.suffix_concat_iff.mpr (.inr ⟨ending, rfl, isEnd⟩), ?_⟩
      rw [braceBalance_concat, balance]
  · rintro balance ⟨ending, isEnd, rfl⟩
    rcases List.suffix_concat_iff.mp isEnd with empty | ⟨shorter, split, isEnd⟩
    · subst empty
      exact le_max_left 0 _
    · rw [split, braceBalance_concat]
      have bound : braceBalance shorter ≤ depth := greatest.2 ⟨shorter, isEnd, rfl⟩
      exact le_max_of_le_right (by omega)

theorem isGreatest_endBalances (text : Text) :
    IsGreatest (endBalances text) (text.foldl depthAfter 0 : Nat) := by
  induction text using List.reverseRecOn with
  | nil =>
      constructor
      · exact ⟨[], List.nil_suffix, rfl⟩
      · rintro balance ⟨ending, isEnd, rfl⟩
        rw [List.suffix_nil.mp isEnd]
        exact le_refl 0
  | append_singleton text character induction =>
      rw [List.foldl_append]
      exact isGreatest_endBalances_concat induction character

theorem readChar_depth (nesting : BraceNesting) (character : Char) :
    (nesting.readChar character).depth = depthAfter nesting.depth character := by
  by_cases opening : character = '{'
  · subst opening
    change nesting.openBrace.depth = nesting.depth + 1
    unfold openBrace
    split <;> rfl
  by_cases closing : character = '}'
  · subst closing
    rfl
  rcases exists_parens_readChar nesting opening closing with ⟨parens, equal, _⟩
  simp [equal, depthAfter, opening, closing]

theorem foldl_readChar_depth (nesting : BraceNesting) (text : Text) :
    (text.foldl readChar nesting).depth = text.foldl depthAfter nesting.depth := by
  induction text generalizing nesting with
  | nil => rfl
  | cons head tail induction =>
      rw [List.foldl_cons, List.foldl_cons, induction, readChar_depth]

theorem endLine_depth (awaited isHeader : Bool) (stripped : Text) (nesting : BraceNesting) :
    (nesting.endLine awaited isHeader stripped).depth = nesting.depth := by
  unfold endLine
  split
  · rfl
  · split <;> rfl

theorem depthAfter_blank (depth : Nat) (character : Char) (blank : isBlank character = true) :
    depthAfter depth character = depth := by
  have notOpening : character ≠ '{' := by rintro rfl; cases blank
  have notClosing : character ≠ '}' := by rintro rfl; cases blank
  simp [depthAfter, notOpening, notClosing]

theorem readLine_depth (nesting : BraceNesting) (line : Text) :
    (nesting.readLine line).depth = line.foldl depthAfter nesting.depth := by
  rw [← Text.foldl_strip depthAfter_blank]
  unfold readLine
  by_cases empty : line.strip.isEmpty = true
  · simp [List.isEmpty_iff.mp empty]
  · simp only [empty, Bool.false_eq_true, if_false, endLine_depth, foldl_readChar_depth]
    split <;> rfl

/-- The text of the lines that a tracker reads: the blank ones are passed over. -/
def textRead (lines : List Text) : Text :=
  (lines.filter fun line => !line.isAllBlank).flatten

theorem readLines_depth (nesting : BraceNesting) (lines : List Text) :
    (nesting.readLines lines).depth = (textRead lines).foldl depthAfter nesting.depth := by
  induction lines generalizing nesting with
  | nil => rfl
  | cons line rest induction =>
      change ((nesting.readLine line).readLines rest).depth = _
      rw [induction, readLine_depth, textRead, textRead, List.filter_cons]
      by_cases blank : line.isAllBlank = true
      · simp [blank, Text.foldl_of_isAllBlank depthAfter_blank blank]
      · simp [blank]

/-! ## What holds of every reading -/

/-- Reading any lines, well-formed or not, makes their moves. Every state on the way
is sound, and a closing brace would end at most one loop there. A loop whose brace has
taken the depth to its body's has been open throughout exactly when the depth has not
been below that since. The next line adds at most one loop and one level. The depth is
the greatest surplus of opening braces at the end of the text. -/
theorem reading_invariant (lines : List Text) :
    initial.readLines lines = initial.makeMoves (initial.moves lines) ∧
    (∀ passed ∈ initial.course (initial.moves lines),
      passed.IsSound ∧ passed.bodies.length ≤ passed.closeBrace.bodies.length + 1) ∧
    (∀ before since after,
      initial.moves lines = before ++ .read '{' :: (since ++ after) →
      0 < (initial.makeMoves before).waiting →
      let opened := (initial.makeMoves before).move (.read '{')
      opened.bodies = opened.depth :: (initial.makeMoves before).bodies ∧
      ((∀ passed ∈ opened.course since, opened.depth ∈ passed.bodies) ↔
        ∀ passed ∈ opened.course since, opened.depth ≤ passed.depth)) ∧
    (initial.readLines lines).IsSound ∧
    (∀ line,
      let before := (initial.readLines lines).tally
      let after := ((initial.readLines lines).readLine line).tally
      before.loops ≤ after.loops ∧ after.loops ≤ before.loops + 1 ∧
      before.deepest ≤ after.deepest ∧ after.deepest ≤ before.deepest + 1) ∧
    IsGreatest (endBalances (textRead lines)) (initial.readLines lines).depth := by
  have sound := isSound_readLines isSound_initial lines
  refine ⟨readLines_eq_makeMoves initial lines, ?_, ?_, sound, ?_, ?_⟩
  · intro passed member
    have passedSound := isSound_of_mem_course isSound_initial _ passed member
    refine ⟨passedSound, ?_⟩
    rcases closeBrace_bodies passedSound with top | ⟨same, _⟩
    · rw [top, List.length_cons]
    · rw [same]
      exact Nat.le_succ _
  · intro before since after _ waits
    have opening := isSound_makeMoves isSound_initial before
    have opens : (initial.makeMoves before).move (.read '{') =
        (initial.makeMoves before).openBrace :=
      rfl
    have pushed := openBrace_of_waiting waits
    have bodies : (initial.makeMoves before).openBrace.bodies =
        (initial.makeMoves before).openBrace.depth :: (initial.makeMoves before).bodies := by
      rw [pushed]
    refine ⟨opens ▸ bodies, ?_⟩
    apply mem_bodies_course_iff (isSound_move opening _)
    rw [opens, bodies]
    exact List.mem_cons_self
  · intro line
    have nested := sound.current_le
    rcases readLine_tally (initial.readLines lines) line with same | charged
    · rw [same]
      omega
    · rw [charged]
      simp only [LoopTally.charge]
      omega
  · rw [readLines_depth]
    exact isGreatest_endBalances (textRead lines)

end GrowthGauge.BraceNesting
