import GrowthGauge.Nesting.Brace
import GrowthGauge.Proofs.Text.Strip

namespace GrowthGauge.BraceNesting

/-! ## Moves

A line is read in small moves: its header is met, its characters are read one
after the other, and where its end completes a statement, the headers that wait
for that statement are done. Whatever every move keeps, a whole reading keeps. -/

inductive Move
  | header
  | read (character : Char)
  | finish
deriving Repr, DecidableEq

/-- The headers that wait have had their statement, unless one of them is still
inside its parentheses. -/
def finishStatement (nesting : BraceNesting) : BraceNesting :=
  if nesting.parens != 0 then nesting else { nesting with waiting := 0 }

def move (nesting : BraceNesting) : Move → BraceNesting
  | .header => nesting.meetHeader
  | .read character => nesting.readChar character
  | .finish => nesting.finishStatement

def makeMoves (nesting : BraceNesting) (moves : List Move) : BraceNesting :=
  moves.foldl move nesting

/-- The moves that a line brings about. A blank line brings about none. -/
def lineMoves (nesting : BraceNesting) (line : Text) : List Move :=
  let stripped := line.strip
  let awaited := nesting.waiting != 0 && nesting.parens == 0
  let isHeader := (LoopHeader.ofLine? line).isSome
  if stripped.isEmpty then
    []
  else
    (if isHeader then [.header] else []) ++ stripped.map .read ++
      (if stripped.getLast? == some ';' || (awaited && !isHeader) then [.finish] else [])

/-- The moves of a whole reading. -/
def moves (nesting : BraceNesting) : List Text → List Move
  | [] => []
  | line :: rest => nesting.lineMoves line ++ (nesting.readLine line).moves rest

/-- The states that a reading passes through, the one it begins with among them. -/
def course (nesting : BraceNesting) : List Move → List BraceNesting
  | [] => [nesting]
  | first :: rest => nesting :: (nesting.move first).course rest

theorem makeMoves_append (nesting : BraceNesting) (first second : List Move) :
    nesting.makeMoves (first ++ second) = (nesting.makeMoves first).makeMoves second :=
  List.foldl_append

theorem makeMoves_map_read (nesting : BraceNesting) (text : Text) :
    nesting.makeMoves (text.map .read) = text.foldl readChar nesting :=
  List.foldl_map

theorem endLine_eq_finishStatement (awaited isHeader : Bool) (stripped : Text)
    (nesting : BraceNesting) :
    nesting.endLine awaited isHeader stripped =
      if stripped.getLast? == some ';' || (awaited && !isHeader) then nesting.finishStatement
      else nesting := by
  unfold endLine finishStatement
  by_cases inParens : (nesting.parens != 0) = true
  · simp only [inParens, if_true, ite_self]
  · simp only [inParens, Bool.false_eq_true, if_false]

/-- Reading a line makes its moves. -/
theorem readLine_eq_makeMoves (nesting : BraceNesting) (line : Text) :
    nesting.readLine line = nesting.makeMoves (nesting.lineMoves line) := by
  unfold readLine lineMoves
  by_cases empty : line.strip.isEmpty = true
  · simp only [empty, if_true]
    rfl
  · simp only [empty, Bool.false_eq_true, if_false, makeMoves_append, makeMoves_map_read,
      endLine_eq_finishStatement]
    cases (LoopHeader.ofLine? line).isSome <;> split <;> rfl

theorem readLines_eq_makeMoves (nesting : BraceNesting) (lines : List Text) :
    nesting.readLines lines = nesting.makeMoves (nesting.moves lines) := by
  induction lines generalizing nesting with
  | nil => rfl
  | cons line rest induction =>
      rw [moves, makeMoves_append, ← readLine_eq_makeMoves]
      exact induction (nesting.readLine line)

/-! ## What a character does -/

theorem openBrace_of_waiting {nesting : BraceNesting} (waits : 0 < nesting.waiting) :
    nesting.openBrace =
      { nesting with
        depth := nesting.depth + 1
        waiting := nesting.waiting - 1
        parens := 0
        bodies := (nesting.depth + 1) :: nesting.bodies } := by
  rcases Nat.exists_eq_succ_of_ne_zero (Nat.ne_of_gt waits) with ⟨waiting, equal⟩
  simp [openBrace, equal]

theorem openBrace_of_not_waiting {nesting : BraceNesting} (idle : nesting.waiting = 0) :
    nesting.openBrace = { nesting with depth := nesting.depth + 1 } := by
  simp [openBrace, idle]

/-- A character other than a brace changes at most the open parentheses of a
header that waits. -/
theorem exists_parens_readChar (nesting : BraceNesting) {character : Char}
    (notOpening : character ≠ '{') (notClosing : character ≠ '}') :
    ∃ parens, nesting.readChar character = { nesting with parens } ∧
      (nesting.waiting = 0 → parens = nesting.parens) := by
  simp only [readChar, beq_iff_eq, notOpening, notClosing, if_false]
  split
  · exact ⟨nesting.parens, rfl, fun _ => rfl⟩
  · next waits =>
      split
      · exact ⟨nesting.parens + 1, rfl, fun idle => absurd idle waits⟩
      · split
        · exact ⟨nesting.parens - 1, rfl, fun idle => absurd idle waits⟩
        · exact ⟨nesting.parens, rfl, fun _ => rfl⟩

/-! ## Soundness

A state is sound when its bodies stack up under the present depth, parentheses
are open only for a header that waits, and the tally has kept up with the loops
that are open. -/

structure IsSound (nesting : BraceNesting) : Prop where
  ordered : nesting.bodies.Pairwise (· > ·)
  bounded : ∀ body ∈ nesting.bodies, 1 ≤ body ∧ body ≤ nesting.depth
  awaited : 0 < nesting.parens → 0 < nesting.waiting
  current_le : nesting.current ≤ nesting.tally.deepest
  deepest_le : nesting.tally.deepest ≤ nesting.tally.loops
  deepest_eq_zero_iff : nesting.tally.deepest = 0 ↔ nesting.tally.loops = 0

theorem isSound_initial : initial.IsSound := by
  constructor <;> simp [initial, current, LoopTally.zero]

theorem isSound_meetHeader {nesting : BraceNesting} (sound : nesting.IsSound) :
    nesting.meetHeader.IsSound := by
  have nested := sound.current_le
  have counted := sound.deepest_le
  constructor
  · exact sound.ordered
  · exact sound.bounded
  · intro _
    exact Nat.succ_pos nesting.waiting
  · simp only [current, meetHeader, LoopTally.charge] at *
    omega
  · simp only [meetHeader, LoopTally.charge]
    omega
  · simp only [meetHeader, LoopTally.charge]
    omega

theorem isSound_openBrace {nesting : BraceNesting} (sound : nesting.IsSound) :
    nesting.openBrace.IsSound := by
  have nested := sound.current_le
  rcases Nat.eq_zero_or_pos nesting.waiting with idle | waits
  · rw [openBrace_of_not_waiting idle]
    refine ⟨sound.ordered, ?_, sound.awaited, nested, sound.deepest_le,
      sound.deepest_eq_zero_iff⟩
    intro body member
    have bounds := sound.bounded body member
    exact ⟨bounds.1, Nat.le_succ_of_le bounds.2⟩
  · rw [openBrace_of_waiting waits]
    refine ⟨?_, ?_, by simp, ?_, sound.deepest_le, sound.deepest_eq_zero_iff⟩
    · refine List.pairwise_cons.mpr ⟨?_, sound.ordered⟩
      intro body member
      exact Nat.lt_succ_of_le (sound.bounded body member).2
    · intro body member
      rcases List.mem_cons.mp member with equal | member
      · subst equal
        exact ⟨Nat.succ_pos nesting.depth, Nat.le_refl _⟩
      · have bounds := sound.bounded body member
        exact ⟨bounds.1, Nat.le_succ_of_le bounds.2⟩
    · simp only [current, List.length_cons] at *
      omega

theorem dropWhile_of_forall_lt {bodies : List Nat} {depth : Nat}
    (below : ∀ body ∈ bodies, body < depth) : bodies.dropWhile (depth ≤ ·) = bodies := by
  cases bodies with
  | nil => rfl
  | cons head tail =>
      have headBelow := below head List.mem_cons_self
      exact List.dropWhile_cons_of_neg (by simpa using headBelow)

/-- In a sound state a closing brace ends the one loop whose body stands at the
present depth, or none. -/
theorem closeBrace_bodies {nesting : BraceNesting} (sound : nesting.IsSound) :
    nesting.bodies = nesting.depth :: nesting.closeBrace.bodies ∨
      nesting.bodies = nesting.closeBrace.bodies ∧
        ∀ body ∈ nesting.bodies, body < nesting.depth := by
  cases split : nesting.bodies with
  | nil => exact .inr ⟨by simp [closeBrace, split], by simp⟩
  | cons head tail =>
      have ordered := sound.ordered
      rw [split] at ordered
      have headBound := (sound.bounded head (by simp [split])).2
      have tailBelow := (List.pairwise_cons.mp ordered).1
      rcases Nat.eq_or_lt_of_le headBound with equal | headBelow
      · left
        subst equal
        simp only [closeBrace, split, Nat.le_refl, decide_true, List.dropWhile_cons_of_pos]
        rw [dropWhile_of_forall_lt tailBelow]
      · right
        have below : ∀ body ∈ head :: tail, body < nesting.depth := by
          intro body member
          rcases List.mem_cons.mp member with equal | member
          · exact equal ▸ headBelow
          · exact Nat.lt_trans (tailBelow body member) headBelow
        refine ⟨?_, below⟩
        simp only [closeBrace, split]
        exact (dropWhile_of_forall_lt below).symm

theorem closeBrace_bodies_lt {nesting : BraceNesting} (sound : nesting.IsSound) :
    ∀ body ∈ nesting.closeBrace.bodies, body < nesting.depth := by
  rcases closeBrace_bodies sound with top | ⟨same, below⟩
  · have ordered := sound.ordered
    rw [top] at ordered
    exact (List.pairwise_cons.mp ordered).1
  · rwa [← same]

theorem closeBrace_bodies_sublist (nesting : BraceNesting) :
    nesting.closeBrace.bodies.Sublist nesting.bodies :=
  List.dropWhile_sublist _

theorem isSound_closeBrace {nesting : BraceNesting} (sound : nesting.IsSound) :
    nesting.closeBrace.IsSound := by
  have fewer := nesting.closeBrace_bodies_sublist
  refine ⟨sound.ordered.sublist fewer, ?_, sound.awaited, ?_, sound.deepest_le,
    sound.deepest_eq_zero_iff⟩
  · intro body member
    refine ⟨(sound.bounded body (fewer.subset member)).1, ?_⟩
    exact Nat.le_sub_one_of_lt (closeBrace_bodies_lt sound body member)
  · have nested := sound.current_le
    have shorter := fewer.length_le
    simp only [current, closeBrace] at *
    omega

theorem isSound_readChar {nesting : BraceNesting} (sound : nesting.IsSound)
    (character : Char) : (nesting.readChar character).IsSound := by
  by_cases opening : character = '{'
  · subst opening
    exact isSound_openBrace sound
  by_cases closing : character = '}'
  · subst closing
    exact isSound_closeBrace sound
  rcases exists_parens_readChar nesting opening closing with ⟨parens, equal, idle⟩
  rw [equal]
  refine ⟨sound.ordered, sound.bounded, ?_, sound.current_le, sound.deepest_le,
    sound.deepest_eq_zero_iff⟩
  intro inParens
  by_contra waits
  have none : nesting.waiting = 0 := Nat.eq_zero_of_not_pos waits
  rw [idle none] at inParens
  exact waits (sound.awaited inParens)

theorem isSound_finishStatement {nesting : BraceNesting} (sound : nesting.IsSound) :
    nesting.finishStatement.IsSound := by
  unfold finishStatement
  split
  · exact sound
  · next outside =>
      refine ⟨sound.ordered, sound.bounded, ?_, ?_, sound.deepest_le,
        sound.deepest_eq_zero_iff⟩
      · intro inParens
        simp only [bne_iff_ne, ne_eq, Decidable.not_not] at outside
        exact absurd outside (Nat.ne_of_gt inParens)
      · have nested := sound.current_le
        simp only [current] at *
        omega

theorem isSound_move {nesting : BraceNesting} (sound : nesting.IsSound) (next : Move) :
    (nesting.move next).IsSound := by
  cases next with
  | header => exact isSound_meetHeader sound
  | read character => exact isSound_readChar sound character
  | finish => exact isSound_finishStatement sound

/-- Every state that a reading passes through is sound when its first one is. -/
theorem isSound_of_mem_course {nesting : BraceNesting} (sound : nesting.IsSound)
    (moves : List Move) : ∀ passed ∈ nesting.course moves, passed.IsSound := by
  induction moves generalizing nesting with
  | nil =>
      intro passed member
      rw [course, List.mem_singleton] at member
      exact member ▸ sound
  | cons first rest induction =>
      intro passed member
      rcases List.mem_cons.mp member with equal | member
      · exact equal ▸ sound
      · exact induction (isSound_move sound first) passed member

theorem isSound_makeMoves {nesting : BraceNesting} (sound : nesting.IsSound)
    (moves : List Move) : (nesting.makeMoves moves).IsSound := by
  induction moves generalizing nesting with
  | nil => exact sound
  | cons first rest induction => exact induction (isSound_move sound first)

theorem isSound_readLines {nesting : BraceNesting} (sound : nesting.IsSound)
    (lines : List Text) : (nesting.readLines lines).IsSound := by
  rw [readLines_eq_makeMoves]
  exact isSound_makeMoves sound _

/-! ## How long a loop stays open -/

/-- A move ends the loop of a body exactly when it takes the depth below it. -/
theorem mem_bodies_move_iff {nesting : BraceNesting} (sound : nesting.IsSound) {body : Nat}
    (member : body ∈ nesting.bodies) (next : Move) :
    body ∈ (nesting.move next).bodies ↔ body ≤ (nesting.move next).depth := by
  constructor
  · intro stays
    exact ((isSound_move sound next).bounded body stays).2
  · intro deep
    cases next with
    | header => exact member
    | finish =>
        simp only [move, finishStatement]
        split <;> exact member
    | read character =>
        by_cases opening : character = '{'
        · subst opening
          change body ∈ nesting.openBrace.bodies
          rcases Nat.eq_zero_or_pos nesting.waiting with idle | waits
          · rwa [openBrace_of_not_waiting idle]
          · rw [openBrace_of_waiting waits]
            exact List.mem_cons_of_mem _ member
        by_cases closing : character = '}'
        · subst closing
          change body ∈ nesting.closeBrace.bodies
          change body ≤ nesting.depth - 1 at deep
          rcases closeBrace_bodies sound with top | ⟨same, _⟩
          · have positive := (sound.bounded body member).1
            rw [top] at member
            rcases List.mem_cons.mp member with equal | member
            · omega
            · exact member
          · rwa [← same]
        rcases exists_parens_readChar nesting opening closing with ⟨parens, equal, _⟩
        rw [move, equal]
        exact member

/-- A body has been on the stack throughout exactly when the depth has never been
below it. -/
theorem mem_bodies_course_iff {nesting : BraceNesting} (sound : nesting.IsSound) {body : Nat}
    (member : body ∈ nesting.bodies) (moves : List Move) :
    (∀ passed ∈ nesting.course moves, body ∈ passed.bodies) ↔
      ∀ passed ∈ nesting.course moves, body ≤ passed.depth := by
  induction moves generalizing nesting with
  | nil => simp [course, member, (sound.bounded body member).2]
  | cons first rest induction =>
      have step := mem_bodies_move_iff sound member first
      have here := (sound.bounded body member).2
      simp only [course, List.forall_mem_cons, member, here, true_and]
      constructor
      · intro stays passed inCourse
        exact ((isSound_of_mem_course (isSound_move sound first) rest passed inCourse).bounded
          body (stays passed inCourse)).2
      · intro deep
        have start : nesting.move first ∈ (nesting.move first).course rest := by
          cases rest <;> simp [course]
        exact (induction (isSound_move sound first) (step.mpr (deep _ start))).mpr deep

/-! ## What a line adds to the tally -/

theorem readChar_tally (nesting : BraceNesting) (character : Char) :
    (nesting.readChar character).tally = nesting.tally := by
  by_cases opening : character = '{'
  · subst opening
    change nesting.openBrace.tally = nesting.tally
    unfold openBrace
    split <;> rfl
  by_cases closing : character = '}'
  · subst closing
    rfl
  rcases exists_parens_readChar nesting opening closing with ⟨parens, equal, _⟩
  rw [equal]

theorem foldl_readChar_tally (nesting : BraceNesting) (text : Text) :
    (text.foldl readChar nesting).tally = nesting.tally := by
  induction text generalizing nesting with
  | nil => rfl
  | cons head tail induction =>
      rw [List.foldl_cons, induction, readChar_tally]

theorem endLine_tally (awaited isHeader : Bool) (stripped : Text) (nesting : BraceNesting) :
    (nesting.endLine awaited isHeader stripped).tally = nesting.tally := by
  unfold endLine
  split
  · rfl
  · split <;> rfl

/-- A line charges the loop of its header, and nothing else. -/
theorem readLine_tally (nesting : BraceNesting) (line : Text) :
    (nesting.readLine line).tally = nesting.tally ∨
      (nesting.readLine line).tally = nesting.tally.charge (nesting.current + 1) := by
  unfold readLine
  by_cases empty : line.strip.isEmpty = true
  · simp [empty]
  · simp only [empty, Bool.false_eq_true, if_false, endLine_tally, foldl_readChar_tally]
    split
    · exact .inr rfl
    · exact .inl rfl

end GrowthGauge.BraceNesting
