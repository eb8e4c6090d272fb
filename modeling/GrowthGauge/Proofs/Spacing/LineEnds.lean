import GrowthGauge.Proofs.Spacing.Keeping

namespace GrowthGauge

/-! ## Reaching the end of a line

Two patterns must reach the end of a line. They may stop inside a gap, before a line feed
in it, so the positions at which they stop correspond to none in the other text. It only
matters that they can stop. -/

/-- Both find something or nothing at aligned positions. -/
abbrev AgreeToStop (proceed other : Cursor → Option Cursor) : Prop :=
  Agree (fun _ _ => True) proceed other

theorem agreeToStop_iff (proceed other : Cursor → Option Cursor) :
    AgreeToStop proceed other ↔ ∀ ⦃cursor otherCursor⦄, Aligned cursor otherCursor →
      (proceed cursor).isSome = (other otherCursor).isSome := by
  have rel_iff (first second : Option Cursor) :
      Option.Rel (fun _ _ => True) first second ↔ first.isSome = second.isSome := by
    constructor
    · rintro (_ | _) <;> rfl
    · intro equal
      cases first with
      | none =>
          cases second with
          | none => exact .none
          | some _ => cases equal
      | some _ =>
          cases second with
          | none => cases equal
          | some _ => exact .some trivial
  simp only [AgreeToStop, Agree, rel_iff]

namespace Pattern

theorem isSome_run_iff (pattern : Pattern) (cursor : Cursor)
    (proceed : Cursor → Option Cursor) :
    (pattern.run cursor proceed).isSome = true ↔
      ∃ reached ∈ pattern.ends cursor, (proceed reached).isSome = true := by
  rw [run_eq_findSome?, List.findSome?_isSome_iff]

section

variable {mark : Pattern} {proceed other : Cursor → Option Cursor}

/-- Blanks before what may be left out are taken before it or before what follows. -/
theorem isSome_run_blanks_perhaps (cursor : Cursor) :
    (blanks.run cursor ((perhaps mark).run · proceed)).isSome =
      ((blanks.run cursor (mark.run · proceed)).isSome || (blanks.run cursor proceed).isSome) := by
  rw [Bool.eq_iff_iff, Bool.or_eq_true, isSome_run_iff, isSome_run_iff, isSome_run_iff]
  simp only [run_perhaps, Option.isSome_or, Bool.or_eq_true]
  constructor
  · rintro ⟨reached, member, marked | unmarked⟩
    · exact .inl ⟨reached, member, marked⟩
    · exact .inr ⟨reached, member, unmarked⟩
  · rintro (⟨reached, member, marked⟩ | ⟨reached, member, unmarked⟩)
    · exact ⟨reached, member, .inl marked⟩
    · exact ⟨reached, member, .inr unmarked⟩

theorem agreeToStop_blanks_perhaps (inked : mark.StartsInked)
    (marked : AgreeToStop (mark.run · proceed) (mark.run · other))
    (unmarked : AgreeToStop (blanks.run · proceed) (blanks.run · other)) :
    AgreeToStop (blanks.run · ((perhaps mark).run · proceed))
      (blanks.run · ((perhaps mark).run · other)) := by
  have gapThenMark : AgreeToStop _ _ :=
    agree_blanks (inked proceed).isPatient (inked other).isPatient marked
  rw [agreeToStop_iff] at unmarked gapThenMark ⊢
  intro cursor otherCursor aligned
  rw [isSome_run_blanks_perhaps, isSome_run_blanks_perhaps]
  exact congrArg₂ _ (gapThenMark aligned) (unmarked aligned)

end

/-- Blanks behind blanks are blanks. -/
theorem isSome_run_blanks_blanks (proceed : Cursor → Option Cursor) (cursor : Cursor) :
    (blanks.run cursor (blanks.run · proceed)).isSome = (blanks.run cursor proceed).isSome := by
  rw [Bool.eq_iff_iff, isSome_run_iff, isSome_run_iff]
  constructor
  · rintro ⟨middle, inFirst, found⟩
    rcases (isSome_run_iff ..).mp found with ⟨reached, inSecond, found⟩
    rcases mem_ends_many.mp inFirst with ⟨run, following, ahead, blank, rfl⟩
    rcases mem_ends_many.mp inSecond with ⟨second, after, split, secondBlank, rfl⟩
    rw [Cursor.behind_behind] at found
    refine ⟨_, mem_ends_many.mpr ⟨run ++ second, after, ?_, ?_, rfl⟩, found⟩
    · rw [ahead, show following = second ++ after from split, List.append_assoc]
    · intro character member
      rcases List.mem_append.mp member with inRun | inRest
      · exact blank character inRun
      · exact secondBlank character inRest
  · rintro ⟨reached, member, found⟩
    have later := (isSome_run_iff ..).mpr ⟨reached, member, found⟩
    exact ⟨cursor, self_mem_ends_many isBlank cursor, later⟩

/-! ### Runs up to the end of a line -/

theorem isSome_run_lineEnd (cursor : Cursor) :
    (lineEnd.run cursor some).isSome = cursor.ahead.head?.all (· == '\n') := by
  rw [run]
  split
  · next ends => exact ends.symm
  · next goesOn => exact (Bool.eq_false_iff.mpr goesOn).symm

/-- The line ends before the first character that the class refuses. -/
def reachesLineEnd (accepts : Char → Bool) : Text → Bool
  | [] => true
  | character :: rest => character == '\n' || (accepts character && reachesLineEnd accepts rest)

section

variable {accepts : Char → Bool}

theorem isSome_run_many_lineEnd (cursor : Cursor) :
    ((seq (many accepts) lineEnd).run cursor some).isSome =
      reachesLineEnd accepts cursor.ahead := by
  rcases cursor with ⟨previous, text, name⟩
  change ((many accepts).run ⟨previous, text, name⟩ (lineEnd.run · some)).isSome = _
  induction text generalizing previous with
  | nil => rw [run_many_of_refused rfl, isSome_run_lineEnd]; rfl
  | cons character rest induction =>
      rw [reachesLineEnd]
      cases accepted : accepts character with
      | false =>
          rw [run_many_of_refused (by exact accepted), isSome_run_lineEnd, Bool.false_and,
            Bool.or_false]
          rfl
      | true =>
          rw [run_many_of_accepted accepted, orElse_eq_or, Option.isSome_or, induction,
            isSome_run_lineEnd, Bool.true_and, Bool.or_comm]
          rfl

theorem reachesLineEnd_gap (spares : SparesBlanks accepts) {gap : Text}
    (blank : gap.isAllBlank = true) (text : Text) :
    reachesLineEnd accepts (gap ++ text) = (gap.contains '\n' || reachesLineEnd accepts text) := by
  induction gap with
  | nil => rfl
  | cons head gap induction =>
      rcases Text.isAllBlank_cons.mp blank with ⟨headBlank, gapBlank⟩
      rw [List.cons_append, reachesLineEnd, induction gapBlank, List.contains_cons]
      by_cases lineFeed : head = '\n'
      · rw [lineFeed]
        rfl
      · rw [spares head headBlank lineFeed, beq_false_of_ne lineFeed,
          beq_false_of_ne (Ne.symm lineFeed)]
        simp

theorem reachesLineEnd_eq (spares : SparesBlanks accepts) {text other : Text}
    (respaced : Respaced text other) :
    reachesLineEnd accepts text = reachesLineEnd accepts other := by
  have ending {gap : Text} (blank : gap.isAllBlank = true) :
      reachesLineEnd accepts gap = true := by
    rw [← List.append_nil gap, reachesLineEnd_gap spares blank]
    exact Bool.or_true _
  induction respaced with
  | ending blank otherBlank => rw [ending blank, ending otherBlank]
  | @ink gap otherGap rest otherRest character same inked tail induction =>
      have lineFeed : gap.contains '\n' = otherGap.contains '\n' := by
        rw [Bool.eq_iff_iff, List.contains_iff_mem, List.contains_iff_mem]
        exact same.lineFeed
      rw [reachesLineEnd_gap spares same.blank, reachesLineEnd_gap spares same.otherBlank,
        lineFeed, reachesLineEnd, reachesLineEnd, induction]

theorem agreeToStop_many_lineEnd (spares : SparesBlanks accepts) :
    AgreeToStop ((seq (many accepts) lineEnd).run · some)
      ((seq (many accepts) lineEnd).run · some) := by
  rw [agreeToStop_iff]
  intro cursor otherCursor aligned
  rw [isSome_run_many_lineEnd, isSome_run_many_lineEnd]
  exact reachesLineEnd_eq spares aligned.ahead

end

end Pattern

end GrowthGauge
