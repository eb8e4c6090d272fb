import GrowthGauge.Proofs.Pattern.Meaning
import GrowthGauge.Proofs.Spacing.Respaced
import Mathlib.Data.Option.Basic

namespace GrowthGauge

/-! ## Positions in two texts

A pattern is run on two texts that differ in their gaps only. Both runs go on from
positions behind the same characters, so what they come to agrees whenever what
follows agrees. Gaps are taken in whole: a pattern behind a gap either finds a
character there or does not care how much of the gap has been taken. -/

/-- Positions in two texts with the same characters ahead, gaps aside, the same kind of
character behind, and the same word marked as a name so far. -/
structure Aligned (cursor other : Cursor) : Prop where
  ahead : Respaced cursor.ahead other.ahead
  wordBehind : cursor.isWordBehind = other.isWordBehind
  name : cursor.name.map Span.text = other.name.map Span.text
  isName : (cursor.name.map Span.text).all (·.all isWord) = true

namespace Cursor

/-- The position behind the gap ahead. -/
def pastGap (cursor : Cursor) : Cursor :=
  cursor.behind (cursor.ahead.takeWhile isBlank) cursor.ahead.stripStart

def startsBlank (cursor : Cursor) : Bool :=
  cursor.ahead.startsBlank

theorem pastGap_eq_self {cursor : Cursor} (inked : cursor.startsBlank = false) :
    cursor.pastGap = cursor := by
  rcases cursor with ⟨previous, ahead, name⟩
  cases ahead with
  | nil => cases inked
  | cons head rest =>
      have none : (head :: rest).takeWhile isBlank = [] :=
        List.takeWhile_cons_of_neg (Bool.eq_false_iff.mp inked)
      rw [pastGap, none, Text.stripStart_of_startsInked inked]
      rfl

/-- A blank character less ahead makes no difference behind the gap. -/
theorem pastGap_cons {head : Char} (blank : isBlank head = true) (previous : Option Char)
    (rest : Text) (name : Option Span) :
    pastGap ⟨previous, head :: rest, name⟩ = pastGap ⟨some head, rest, name⟩ := by
  simp only [pastGap, behind, Text.stripStart, List.takeWhile_cons_of_pos blank,
    List.dropWhile_cons_of_pos blank, getLast?_cons_or]

theorem pastGap_pastGap (cursor : Cursor) : cursor.pastGap.pastGap = cursor.pastGap := by
  rcases cursor with ⟨previous, ahead, name⟩
  induction ahead generalizing previous with
  | nil => rfl
  | cons head rest induction =>
      cases inked : isBlank head with
      | true =>
          rw [pastGap_cons inked]
          exact induction (some head)
      | false =>
          have here : pastGap ⟨previous, head :: rest, name⟩ = ⟨previous, head :: rest, name⟩ :=
            pastGap_eq_self inked
          rw [here, here]

theorem pastGap_of_split {cursor : Cursor} {gap rest : Text} {character : Char}
    (blank : gap.isAllBlank = true) (inked : isBlank character = false)
    (split : cursor.ahead = gap ++ character :: rest) :
    cursor.pastGap = cursor.behind gap (character :: rest) := by
  rw [pastGap, split, Text.takeWhile_gap blank inked, Text.stripStart_gap blank inked]

/-- Behind a gap there is no word, unless the gap is empty. -/
theorem any_isWord_getLast? {gap : Text} (blank : gap.isAllBlank = true)
    (previous : Option Char) :
    (gap.getLast?.or previous).any isWord = (gap.isEmpty && previous.any isWord) := by
  cases last : gap.getLast? with
  | none =>
      rw [List.getLast?_eq_none_iff.mp last]
      rfl
  | some character =>
      have member := List.mem_of_getLast? last
      have inked := refusesBlanks_isWord character (Text.isAllBlank_iff.mp blank character member)
      have nonempty : gap.isEmpty = false :=
        List.isEmpty_eq_false_iff.mpr (List.ne_nil_of_mem member)
      rw [nonempty]
      exact inked

theorem any_isWord_getLast?_none {gap : Text} (blank : gap.isAllBlank = true) :
    (gap.getLast?.or none).any isWord = false := by
  rw [any_isWord_getLast? blank]
  exact Bool.and_false _

end Cursor

namespace Aligned

variable {cursor other : Cursor}

theorem unnamed {previous otherPrevious : Option Char} {text otherText : Text}
    (respaced : Respaced text otherText)
    (wordBehind : previous.any isWord = otherPrevious.any isWord) :
    Aligned ⟨previous, text, none⟩ ⟨otherPrevious, otherText, none⟩ :=
  ⟨respaced, wordBehind, rfl, rfl⟩

theorem behind_gap (aligned : Aligned cursor other) {gap otherGap text otherText : Text}
    (same : SameGap gap otherGap) (respaced : Respaced text otherText) :
    Aligned (cursor.behind gap text) (other.behind otherGap otherText) := by
  refine ⟨respaced, ?_, aligned.name, aligned.isName⟩
  have wordBehind := aligned.wordBehind
  simp only [Cursor.isWordBehind, Cursor.behind] at wordBehind ⊢
  rw [Cursor.any_isWord_getLast? same.blank, Cursor.any_isWord_getLast? same.otherBlank,
    same.isEmpty_eq, wordBehind]

theorem unnamed_behind_gap {gap otherGap text otherText : Text} (same : SameGap gap otherGap)
    (respaced : Respaced text otherText) {previous otherPrevious : Option Char}
    (wordBehind : previous.any isWord = otherPrevious.any isWord) :
    Aligned ⟨gap.getLast?.or previous, text, none⟩
      ⟨otherGap.getLast?.or otherPrevious, otherText, none⟩ :=
  (unnamed (.refl []) wordBehind).behind_gap same respaced

theorem behind_one (aligned : Aligned cursor other) (character : Char) {text otherText : Text}
    (respaced : Respaced text otherText) :
    Aligned ⟨some character, text, cursor.name⟩ ⟨some character, otherText, other.name⟩ :=
  ⟨respaced, rfl, aligned.name, aligned.isName⟩

/-- Behind the gaps the texts are at their ends, or the positions are aligned again and
there was a gap in both or neither. -/
theorem pastGap (aligned : Aligned cursor other) :
    (cursor.pastGap.ahead = [] ∧ other.pastGap.ahead = []) ∨
      (Aligned cursor.pastGap other.pastGap ∧
        cursor.ahead.head?.any isBlank = other.ahead.head?.any isBlank) := by
  rcases aligned.ahead.split with
    ⟨blank, otherBlank⟩ | ⟨gap, otherGap, rest, otherRest, character, ahead, otherAhead, same,
      inked, tail⟩
  · exact .inl ⟨Text.stripStart_eq_nil_of_isAllBlank blank,
      Text.stripStart_eq_nil_of_isAllBlank otherBlank⟩
  · rw [Cursor.pastGap_of_split same.blank inked ahead,
      Cursor.pastGap_of_split same.otherBlank inked otherAhead, ahead, otherAhead]
    exact .inr ⟨aligned.behind_gap same (tail.cons inked), same.head?_isBlank inked rest otherRest⟩

end Aligned

/-! ## What follows a pattern

A pattern hands every position it reaches to what follows. What follows may need a
character right there, or be patient: it finds nothing in a gap that it does not find
behind the gap. -/

section

variable (proceed : Cursor → Option Cursor)

def NeedsInk : Prop :=
  ∀ cursor, cursor.startsBlank = true → proceed cursor = none

structure IsPatient : Prop where
  past : ∀ cursor, proceed cursor.pastGap = none → proceed cursor = none
  ending : ∀ cursor, cursor.ahead = [] → proceed cursor = none

end

theorem NeedsInk.isPatient {proceed : Cursor → Option Cursor} (needsInk : NeedsInk proceed) :
    IsPatient proceed where
  past cursor none := by
    cases startsBlank : cursor.startsBlank with
    | true => exact needsInk cursor startsBlank
    | false => rwa [Cursor.pastGap_eq_self startsBlank] at none
  ending cursor empty := needsInk cursor (by rw [Cursor.startsBlank, empty]; rfl)

/-- Both find something or nothing at aligned positions, and what they find is related. -/
def Agree (result : Cursor → Cursor → Prop) (proceed other : Cursor → Option Cursor) : Prop :=
  ∀ ⦃cursor otherCursor⦄, Aligned cursor otherCursor →
    Option.Rel result (proceed cursor) (other otherCursor)

theorem orElse_eq_or (first second : Option Cursor) : (first <|> second) = first.or second :=
  Option.orElse_eq_or

theorem rel_orElse {result : Cursor → Cursor → Prop} {first second other fallback : Option Cursor}
    (firstRel : Option.Rel result first other) (secondRel : Option.Rel result second fallback) :
    Option.Rel result (first <|> second) (other <|> fallback) := by
  cases firstRel with
  | some related => exact .some related
  | none => exact secondRel

/-- What is known of the answers themselves may be added to how they are related. -/
theorem rel_of_rel {related result : Cursor → Cursor → Prop} {first second : Option Cursor}
    (rel : Option.Rel related first second)
    (implies : ∀ answer other, first = some answer → second = some other →
      related answer other → result answer other) : Option.Rel result first second := by
  cases rel with
  | some areRelated => exact .some (implies _ _ rfl rfl areRelated)
  | none => exact .none

namespace Pattern

/-! ### Runs of one class -/

section

variable {accepts : Char → Bool} {proceed : Cursor → Option Cursor}

theorem findSome?_reach (name : Option Span) (reached : List Cursor) (previous : Option Char)
    (text : Text) :
    (Cursor.reach accepts name reached previous text).findSome? proceed =
      ((Cursor.reach accepts name [] previous text).findSome? proceed <|>
        reached.findSome? proceed) := by
  induction text generalizing reached previous with
  | nil => simp only [Cursor.reach, List.findSome?_cons, List.findSome?_nil]; split <;> simp [*]
  | cons character rest induction =>
      simp only [Cursor.reach]
      split
      · rw [induction, induction [_]]
        simp only [List.findSome?_cons, List.findSome?_nil]
        cases (Cursor.reach accepts name [] (some character) rest).findSome? proceed <;>
          cases proceed ⟨previous, character :: rest, name⟩ <;> rfl
      · simp only [List.findSome?_cons, List.findSome?_nil]
        split <;> simp [*]

theorem run_many_of_refused {cursor : Cursor}
    (refused : cursor.ahead.head?.any accepts = false) :
    (many accepts).run cursor proceed = proceed cursor := by
  rcases cursor with ⟨previous, ahead, name⟩
  cases ahead with
  | nil => simp [run, Cursor.farthestFirst, Cursor.reach, List.findSome?_cons]; split <;> simp [*]
  | cons character rest =>
      have refused : accepts character = false := refused
      simp [run, Cursor.farthestFirst, Cursor.reach, refused, List.findSome?_cons]
      split <;> simp [*]

theorem run_many_of_accepted {previous : Option Char} {character : Char} {rest : Text}
    {name : Option Span} (accepted : accepts character = true) :
    (many accepts).run ⟨previous, character :: rest, name⟩ proceed =
      ((many accepts).run ⟨some character, rest, name⟩ proceed <|>
        proceed ⟨previous, character :: rest, name⟩) := by
  simp only [run, Cursor.farthestFirst, Cursor.reach, accepted, if_true]
  rw [findSome?_reach]
  simp only [List.findSome?_cons, List.findSome?_nil]
  cases proceed ⟨previous, character :: rest, name⟩ <;> rfl

/-- A gap ahead is taken in whole or not at all when what follows needs ink. -/
theorem run_many_gap (needsInk : NeedsInk proceed) {gap : Text} (blank : gap.isAllBlank = true)
    (previous : Option Char) (name : Option Span) (text : Text) :
    (many accepts).run ⟨previous, gap ++ text, name⟩ proceed =
      if gap.all accepts then
        (many accepts).run ⟨gap.getLast?.or previous, text, name⟩ proceed
      else
        none := by
  induction gap generalizing previous with
  | nil => rfl
  | cons head gap induction =>
      rcases Text.isAllBlank_cons.mp blank with ⟨headBlank, gapBlank⟩
      have here : proceed ⟨previous, head :: (gap ++ text), name⟩ = none :=
        needsInk _ headBlank
      rw [List.cons_append, Cursor.getLast?_cons_or, List.all_cons]
      cases accepted : accepts head with
      | false =>
          rw [run_many_of_refused (by exact accepted), here]
          rfl
      | true =>
          rw [run_many_of_accepted accepted, here, induction gapBlank, Bool.true_and]
          exact (orElse_eq_or ..).trans Option.or_none

theorem run_many_ending (needsInk : NeedsInk proceed) {cursor : Cursor}
    (blank : cursor.ahead.isAllBlank = true) : (many accepts).run cursor proceed = none := by
  rcases cursor with ⟨previous, ahead, name⟩
  have gap : (many accepts).run ⟨previous, ahead ++ [], name⟩ proceed = _ :=
    run_many_gap needsInk blank previous name []
  have stop : (many accepts).run ⟨ahead.getLast?.or previous, [], name⟩ proceed = none :=
    (run_many_of_refused rfl).trans (needsInk _ rfl)
  rw [List.append_nil] at gap
  exact gap.trans (by rw [stop, ite_self])

/-- Between the present position and the one behind the gap a patient continuation
needs only the latter. -/
theorem run_blanks (patient : IsPatient proceed) (cursor : Cursor) :
    blanks.run cursor proceed = proceed cursor.pastGap := by
  rcases cursor with ⟨previous, ahead, name⟩
  induction ahead generalizing previous with
  | nil => exact run_many_of_refused rfl
  | cons head rest induction =>
      cases blank : isBlank head with
      | false =>
          have here : Cursor.pastGap ⟨previous, head :: rest, name⟩ =
              ⟨previous, head :: rest, name⟩ :=
            Cursor.pastGap_eq_self blank
          rw [here]
          exact run_many_of_refused blank
      | true =>
          have later := induction (some head)
          rw [← Cursor.pastGap_cons blank previous] at later
          rw [blanks, run_many_of_accepted blank, ← blanks, later]
          cases behind : proceed (Cursor.pastGap ⟨previous, head :: rest, name⟩) with
          | some reached => rfl
          | none => exact patient.past _ behind

theorem run_someBlanks (patient : IsPatient proceed) (cursor : Cursor) :
    someBlanks.run cursor proceed =
      if cursor.ahead.head?.any isBlank then proceed cursor.pastGap else none := by
  rcases cursor with ⟨previous, ahead, name⟩
  cases ahead with
  | nil => rfl
  | cons head rest =>
      change (if isBlank head then blanks.run ⟨some head, rest, name⟩ proceed else none) =
        if isBlank head then _ else none
      cases blank : isBlank head with
      | false => rfl
      | true => rw [if_pos rfl, if_pos rfl, run_blanks patient, Cursor.pastGap_cons blank]

end

/-! ### Runs in two texts -/

section

variable {result : Cursor → Cursor → Prop} {proceed other : Cursor → Option Cursor}
  {accepts : Char → Bool}

theorem agree_blanks (patient : IsPatient proceed) (otherPatient : IsPatient other)
    (agree : Agree result proceed other) :
    Agree result (blanks.run · proceed) (blanks.run · other) := by
  intro cursor otherCursor aligned
  change Option.Rel result (blanks.run cursor proceed) (blanks.run otherCursor other)
  rw [run_blanks patient, run_blanks otherPatient]
  rcases aligned.pastGap with ⟨empty, otherEmpty⟩ | ⟨behind, _⟩
  · rw [patient.ending _ empty, otherPatient.ending _ otherEmpty]
    exact .none
  · exact agree behind

theorem agree_someBlanks (patient : IsPatient proceed) (otherPatient : IsPatient other)
    (agree : Agree result proceed other) :
    Agree result (someBlanks.run · proceed) (someBlanks.run · other) := by
  intro cursor otherCursor aligned
  change Option.Rel result (someBlanks.run cursor proceed) (someBlanks.run otherCursor other)
  rw [run_someBlanks patient, run_someBlanks otherPatient]
  rcases aligned.pastGap with ⟨empty, otherEmpty⟩ | ⟨behind, sameStart⟩
  · rw [patient.ending _ empty, otherPatient.ending _ otherEmpty, ite_self, ite_self]
    exact .none
  · rw [sameStart]
    split
    · exact agree behind
    · exact .none

/-- A run of a class without blanks is the same in both texts. -/
theorem rel_run_many (refuses : RefusesBlanks accepts) {cursor otherCursor : Cursor}
    (aligned : Aligned cursor otherCursor)
    (agree : ∀ ⦃reached otherReached run⦄, Takes cursor reached run →
      Takes otherCursor otherReached run → run.all accepts = true →
      Aligned reached otherReached → Option.Rel result (proceed reached) (other otherReached)) :
    Option.Rel result ((many accepts).run cursor proceed)
      ((many accepts).run otherCursor other) := by
  rcases cursor with ⟨previous, text, name⟩
  rcases otherCursor with ⟨otherPrevious, otherText, otherName⟩
  have stop := agree (takes_nil _) (takes_nil _) rfl aligned
  induction text generalizing previous otherPrevious otherText with
  | nil =>
      have refused := aligned.ahead.head?_any refuses
      rw [run_many_of_refused rfl, run_many_of_refused refused.symm]
      exact stop
  | cons head rest induction =>
      have refused := aligned.ahead.head?_any refuses
      -- The run stops here in both texts, or takes one more character in both.
      cases accepted : accepts head with
      | false =>
          rw [run_many_of_refused (by exact accepted),
            run_many_of_refused (refused.symm.trans accepted)]
          exact stop
      | true =>
          rcases aligned.ahead.uncons with
            ⟨character, behind, otherBehind, ahead, otherAhead, _, tail⟩ | ⟨blank, _⟩
          · cases ahead
            dsimp only at otherAhead
            subst otherAhead
            rw [run_many_of_accepted accepted, run_many_of_accepted accepted]
            have one (previous : Option Char) (rest : Text) (name : Option Span) :
                Takes ⟨previous, head :: rest, name⟩ ⟨some head, rest, name⟩ [head] := ⟨rfl, rfl⟩
            have next := aligned.behind_one head tail
            apply rel_orElse (induction _ _ _ next _ (agree (one ..) (one ..) _ next)) stop
            · intro reached otherReached run takes otherTakes all
              have whole : (head :: run).all accepts = true := by
                rw [List.all_cons, accepted, all]
                rfl
              exact agree ((one ..).append takes) ((one ..).append otherTakes) whole
            · rw [List.all_cons, accepted]
              rfl
          · exact absurd (refuses head blank) (by rw [accepted]; exact Bool.noConfusion)

/-- A run of a class that spares blanks takes gaps along. -/
theorem rel_run_many_of_spares (spares : SparesBlanks accepts)
    (needsInk : NeedsInk proceed) (otherNeedsInk : NeedsInk other)
    (agree : Agree result proceed other) {text otherText : Text}
    (respaced : Respaced text otherText) (previous otherPrevious : Option Char)
    (name otherName : Option Span)
    (aligned : Aligned ⟨previous, text, name⟩ ⟨otherPrevious, otherText, otherName⟩) :
    Option.Rel result ((many accepts).run ⟨previous, text, name⟩ proceed)
      ((many accepts).run ⟨otherPrevious, otherText, otherName⟩ other) := by
  induction respaced generalizing previous otherPrevious with
  | ending blank otherBlank =>
      rw [run_many_ending needsInk blank, run_many_ending otherNeedsInk otherBlank]
      exact .none
  | @ink gap otherGap rest otherRest character same inked tail induction =>
      rw [run_many_gap needsInk same.blank, run_many_gap otherNeedsInk same.otherBlank,
        same.all_eq spares]
      split
      · have behind := aligned.behind_gap same (tail.cons inked)
        cases accepted : accepts character with
        | false =>
            rw [run_many_of_refused (by exact accepted), run_many_of_refused (by exact accepted)]
            exact agree behind
        | true =>
            rw [run_many_of_accepted accepted, run_many_of_accepted accepted]
            exact rel_orElse (induction _ _ (behind.behind_one character tail)) (agree behind)
      · exact .none

end

end Pattern

end GrowthGauge
