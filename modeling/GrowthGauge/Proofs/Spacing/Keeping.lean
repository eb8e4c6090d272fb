import GrowthGauge.Declaration
import GrowthGauge.Proofs.Pattern.Occurring
import GrowthGauge.Proofs.Spacing.Running

namespace GrowthGauge

namespace Pattern

/-! ## Patterns that need ink or are patient

A pattern either needs a character where it begins, or it passes over the gap there in
whole. Which of the two it does is found from its first parts. -/

def StartsInked (pattern : Pattern) : Prop :=
  ∀ proceed, NeedsInk (pattern.run · proceed)

def Patient (pattern : Pattern) : Prop :=
  ∀ proceed, IsPatient (pattern.run · proceed)

theorem StartsInked.patient {pattern : Pattern} (startsInked : pattern.StartsInked) :
    pattern.Patient :=
  fun proceed => (startsInked proceed).isPatient

section

variable {first second preferred fallback : Pattern} {accepts : Char → Bool}

theorem startsInked_one (refuses : RefusesBlanks accepts) : (one accepts).StartsInked := by
  intro proceed cursor blank
  have refused := refuses.head?_any blank
  rcases cursor with ⟨previous, ahead, name⟩
  cases ahead with
  | nil => rfl
  | cons head rest => exact if_neg (Bool.eq_false_iff.mp refused)

theorem startsInked_seq (firstInked : first.StartsInked) (second : Pattern) :
    (seq first second).StartsInked :=
  fun _ => firstInked _

theorem startsInked_either (preferredInked : preferred.StartsInked)
    (fallbackInked : fallback.StartsInked) : (either preferred fallback).StartsInked := by
  intro proceed cursor blank
  have fails : preferred.run cursor proceed = none := preferredInked proceed cursor blank
  change (preferred.run cursor proceed <|> fallback.run cursor proceed) = _
  rw [fails]
  exact fallbackInked proceed cursor blank

theorem startsInked_named (inked : first.StartsInked) : (named first).StartsInked :=
  fun proceed cursor blank => inked (fun reached => proceed { reached with name := _ }) cursor blank

theorem startsInked_boundary_seq (inked : second.StartsInked) :
    (seq boundary second).StartsInked := by
  intro proceed cursor blank
  have fails : second.run cursor proceed = none := inked proceed cursor blank
  change (if _ then none else second.run cursor proceed) = _
  rw [fails, ite_self]

theorem startsInked_inOrder_cons (inked : first.StartsInked) (rest : List Pattern) :
    (inOrder (first :: rest)).StartsInked := by
  cases rest with
  | nil => exact inked
  | cons second rest => exact startsInked_seq inked _

theorem startsInked_firstOf {patterns : List Pattern}
    (inked : ∀ pattern ∈ patterns, pattern.StartsInked) : (firstOf patterns).StartsInked := by
  induction patterns with
  | nil => exact startsInked_one fun _ _ => rfl
  | cons first rest induction =>
      rcases List.forall_mem_cons.mp inked with ⟨head, tail⟩
      cases rest with
      | nil => exact head
      | cons second rest => exact startsInked_either head (induction tail)

theorem startsInked_char {expected : Char} (inked : isBlank expected = false) :
    (char expected).StartsInked :=
  startsInked_one (refusesBlanks_beq inked)

theorem startsInked_literal {expected : Text} (inked : expected.startsBlank = false) :
    (literal expected).StartsInked := by
  cases expected with
  | nil => cases inked
  | cons head rest => exact startsInked_inOrder_cons (startsInked_char inked) _

theorem startsInked_wordRun : wordRun.StartsInked :=
  startsInked_seq (startsInked_one refusesBlanks_isWord) _

theorem startsInked_exactly {expected : String}
    (inked : Text.startsBlank expected.toList = false) : (exactly expected).StartsInked :=
  startsInked_literal inked

theorem patient_seq_blanks (patient : second.Patient) : (seq blanks second).Patient := by
  intro proceed
  constructor
  · intro cursor none
    change blanks.run _ (second.run · proceed) = _ at none
    rw [run_blanks (patient proceed), Cursor.pastGap_pastGap] at none
    exact (run_blanks (patient proceed) cursor).trans none
  · intro cursor empty
    change blanks.run _ (second.run · proceed) = _
    rw [run_blanks (patient proceed)]
    apply (patient proceed).ending
    rw [Cursor.pastGap, empty]
    rfl

theorem patient_perhaps_seq (inked : first.StartsInked) (patient : second.Patient) :
    (seq (perhaps first) second).Patient := by
  have firstPatient := (startsInked_seq inked second).patient
  intro proceed
  have both (cursor : Cursor) : (seq (perhaps first) second).run cursor proceed =
      ((seq first second).run cursor proceed).or (second.run cursor proceed) :=
    orElse_eq_or ..
  constructor
  · intro cursor none
    change (seq (perhaps first) second).run _ proceed = _ at none ⊢
    rw [both, Option.or_eq_none_iff] at none ⊢
    exact ⟨(firstPatient proceed).past cursor none.1, (patient proceed).past cursor none.2⟩
  · intro cursor empty
    rw [both, Option.or_eq_none_iff]
    exact ⟨(firstPatient proceed).ending cursor empty, (patient proceed).ending cursor empty⟩

theorem patient_many_seq (inked : second.StartsInked) : (seq (many accepts) second).Patient := by
  intro proceed
  constructor
  · intro cursor none
    have ahead : cursor.ahead = cursor.ahead.takeWhile isBlank ++ cursor.ahead.stripStart :=
      List.takeWhile_append_dropWhile.symm
    have blank : Text.isAllBlank (cursor.ahead.takeWhile isBlank) = true :=
      List.all_takeWhile
    have gap : (many accepts).run
        ⟨cursor.previous, cursor.ahead.takeWhile isBlank ++ cursor.ahead.stripStart, cursor.name⟩
        (second.run · proceed) = _ :=
      run_many_gap (inked proceed) blank _ _ _
    rw [← ahead] at gap
    refine gap.trans ?_
    split
    · exact none
    · rfl
  · intro cursor empty
    exact run_many_ending (inked proceed) (by rw [empty]; rfl)

end

/-! ## Patterns that keep agreement

A pattern keeps agreement when what agrees behind it agrees from it on. Whether a pattern
does so is found from its parts. -/

/-- Agreement of what follows is agreement from the pattern on. -/
def Keeps (pattern : Pattern) : Prop :=
  ∀ ⦃result : Cursor → Cursor → Prop⦄ ⦃proceed other : Cursor → Option Cursor⦄,
    Agree result proceed other → Agree result (pattern.run · proceed) (pattern.run · other)

section

variable {first second preferred fallback body : Pattern} {accepts : Char → Bool}

theorem keeps_nothing : nothing.Keeps :=
  fun _ _ _ agree => agree

theorem keeps_one (refuses : RefusesBlanks accepts) : (one accepts).Keeps := by
  intro result proceed other agree cursor otherCursor aligned
  rcases cursor with ⟨previous, text, name⟩
  rcases otherCursor with ⟨otherPrevious, otherText, otherName⟩
  rcases aligned.ahead.uncons with
    ⟨character, rest, otherRest, ahead, otherAhead, _, tail⟩ | ⟨blank, otherBlank⟩
  · dsimp only at ahead otherAhead
    subst ahead otherAhead
    simp only [run]
    split
    · exact agree (aligned.behind_one character tail)
    · exact .none
  · rw [startsInked_one refuses proceed _ blank, startsInked_one refuses other _ otherBlank]
    exact .none

theorem keeps_many (refuses : RefusesBlanks accepts) : (many accepts).Keeps :=
  fun _ _ _ agree _ _ aligned =>
    rel_run_many refuses aligned fun _ _ _ _ _ _ behind => agree behind

theorem keeps_seq (firstKeeps : first.Keeps) (secondKeeps : second.Keeps) :
    (seq first second).Keeps :=
  fun _ _ _ agree => firstKeeps (secondKeeps agree)

theorem keeps_seq_seq {third : Pattern} (keeps : (seq first (seq second third)).Keeps) :
    (seq (seq first second) third).Keeps :=
  keeps

theorem keeps_either (preferredKeeps : preferred.Keeps) (fallbackKeeps : fallback.Keeps) :
    (either preferred fallback).Keeps :=
  fun _ _ _ agree _ _ aligned =>
    rel_orElse (preferredKeeps agree aligned) (fallbackKeeps agree aligned)

theorem keeps_perhaps_seq (taken : (seq first second).Keeps)
    (left : second.Keeps) : (seq (perhaps first) second).Keeps :=
  fun _ _ _ agree _ _ aligned => rel_orElse (taken agree aligned) (left agree aligned)

theorem keeps_inOrder {patterns : List Pattern} (keeps : ∀ pattern ∈ patterns, pattern.Keeps) :
    (inOrder patterns).Keeps := by
  induction patterns with
  | nil => exact keeps_nothing
  | cons first rest induction =>
      rcases List.forall_mem_cons.mp keeps with ⟨head, tail⟩
      cases rest with
      | nil => exact head
      | cons second rest => exact keeps_seq head (induction tail)

theorem keeps_firstOf {patterns : List Pattern} (keeps : ∀ pattern ∈ patterns, pattern.Keeps) :
    (firstOf patterns).Keeps := by
  induction patterns with
  | nil => exact keeps_one fun _ _ => rfl
  | cons first rest induction =>
      rcases List.forall_mem_cons.mp keeps with ⟨head, tail⟩
      cases rest with
      | nil => exact head
      | cons second rest => exact keeps_either head (induction tail)

theorem keeps_char {expected : Char} (inked : isBlank expected = false) :
    (char expected).Keeps :=
  keeps_one (refusesBlanks_beq inked)

theorem keeps_literal {expected : Text} (inked : expected.all (!isBlank ·) = true) :
    (literal expected).Keeps := by
  rw [List.all_eq_true] at inked
  apply keeps_inOrder
  intro pattern member
  rcases List.mem_map.mp member with ⟨character, inExpected, equal⟩
  have characterInked : isBlank character = false := by simpa using inked character inExpected
  exact equal ▸ keeps_char characterInked

theorem keeps_exactly {expected : String} (inked : expected.toList.all (!isBlank ·) = true) :
    (exactly expected).Keeps :=
  keeps_literal inked

theorem keeps_boundary : boundary.Keeps := by
  intro result proceed other agree cursor otherCursor aligned
  have wordAhead : cursor.isWordAhead = otherCursor.isWordAhead :=
    aligned.ahead.head?_any refusesBlanks_isWord
  simp only [run, aligned.wordBehind, wordAhead]
  split
  · exact .none
  · exact agree aligned

theorem keeps_notFollowedBy (refuses : RefusesBlanks accepts) : (notFollowedBy accepts).Keeps := by
  intro result proceed other agree cursor otherCursor aligned
  simp only [run, aligned.ahead.head?_any refuses]
  split
  · exact .none
  · exact agree aligned

theorem keeps_atLeastOne (refuses : RefusesBlanks accepts) : (atLeastOne accepts).Keeps :=
  keeps_seq (keeps_one refuses) (keeps_many refuses)

theorem keeps_wordRun : wordRun.Keeps :=
  keeps_atLeastOne refusesBlanks_isWord

/-- The word that is marked is the same, as no gap is inside a word. -/
theorem keeps_name : DeclarationForm.name.Keeps := by
  intro result proceed other agree cursor otherCursor aligned
  rcases cursor with ⟨previous, text, name⟩
  rcases otherCursor with ⟨otherPrevious, otherText, otherName⟩
  rcases aligned.ahead.uncons with
    ⟨character, rest, otherRest, ahead, otherAhead, _, tail⟩ | ⟨blank, otherBlank⟩
  · dsimp only at ahead otherAhead
    subst ahead otherAhead
    change Option.Rel result
      (if isWord character then (many isWord).run ⟨some character, rest, name⟩ _ else none)
      (if isWord character then (many isWord).run ⟨some character, otherRest, otherName⟩ _
        else none)
    split
    · next isWordCharacter =>
        apply rel_run_many refusesBlanks_isWord (aligned.behind_one character tail)
        intro reached otherReached run takes otherTakes allWord behind
        have marked {ahead following : Text} (split : ahead = run ++ following) :
            Span.text ⟨character :: ahead, following⟩ = character :: run := by
          rw [split]
          exact Span.text_append (character :: run) following
        apply agree
        refine ⟨behind.ahead, behind.wordBehind, ?_, ?_⟩
        · exact congrArg some ((marked takes.1).trans (marked otherTakes.1).symm)
        · rw [Option.map_some, marked takes.1, Option.all_some, List.all_cons, isWordCharacter]
          exact allWord
    · exact .none
  · have startsInked := startsInked_named startsInked_wordRun
    have none := startsInked proceed _ blank
    have otherNone := startsInked other _ otherBlank
    rw [DeclarationForm.name, none, otherNone]
    exact .none

theorem keeps_blanks_seq (patient : second.Patient) (keeps : second.Keeps) :
    (seq blanks second).Keeps :=
  fun _ _ _ agree => agree_blanks (patient _) (patient _) (keeps agree)

theorem keeps_someBlanks_seq (patient : second.Patient) (keeps : second.Keeps) :
    (seq someBlanks second).Keeps :=
  fun _ _ _ agree => agree_someBlanks (patient _) (patient _) (keeps agree)

theorem keeps_many_seq (spares : SparesBlanks accepts) (inked : second.StartsInked)
    (keeps : second.Keeps) : (seq (many accepts) second).Keeps :=
  fun _ _ _ agree _ _ aligned =>
    rel_run_many_of_spares spares (inked _) (inked _) (keeps agree) aligned.ahead _ _ _ _ aligned

end

theorem run_inOrder_append (front tail : List Pattern) (cursor : Cursor)
    (proceed : Cursor → Option Cursor) :
    (inOrder (front ++ tail)).run cursor proceed =
      (inOrder front).run cursor ((inOrder tail).run · proceed) := by
  induction front generalizing cursor with
  | nil => rfl
  | cons first rest induction =>
      cases rest with
      | nil =>
          cases tail with
          | nil => rfl
          | cons second tail => rfl
      | cons second rest => exact congrArg (first.run cursor) (funext induction)

/-- A pattern that keeps agreement may stand before one that agrees. -/
theorem agree_inOrder_append {front tail : List Pattern} {result : Cursor → Cursor → Prop}
    {proceed other : Cursor → Option Cursor} (keeps : (inOrder front).Keeps)
    (agree : Agree result ((inOrder tail).run · proceed) ((inOrder tail).run · other)) :
    Agree result ((inOrder (front ++ tail)).run · proceed)
      ((inOrder (front ++ tail)).run · other) := by
  simp only [run_inOrder_append]
  exact keeps agree

/-! ### Repeated patterns

The rounds of a repeated pattern are bounded by the length of the text ahead, which the
gaps change. As every round takes something, more rounds make no difference. -/

/-- Every match of the pattern takes at least one character. -/
def Consumes (pattern : Pattern) : Prop :=
  ∀ cursor, ∀ reached ∈ pattern.ends cursor, reached.ahead.length < cursor.ahead.length

theorem Requires.consumes {pattern : Pattern} {property : Char → Bool}
    (requires : pattern.Requires property) : pattern.Consumes :=
  fun _ _ => length_ahead_lt_of_requires requires

section

variable {body second : Pattern} {result : Cursor → Cursor → Prop}
  {proceed other : Cursor → Option Cursor}

theorem roundEnds_eq (consumes : body.Consumes) {fewer more : Nat} {cursor : Cursor}
    (fewerEnough : cursor.ahead.length ≤ fewer) (moreEnough : cursor.ahead.length ≤ more) :
    roundEnds body.ends fewer cursor = roundEnds body.ends more cursor := by
  have stuck {cursor : Cursor} (empty : cursor.ahead.length ≤ 0) : body.ends cursor = [] := by
    rw [List.eq_nil_iff_forall_not_mem]
    intro reached member
    have shorter := consumes cursor reached member
    omega
  induction fewer generalizing more cursor with
  | zero =>
      cases more with
      | zero => rfl
      | succ more => rw [roundEnds, roundEnds, stuck fewerEnough]; rfl
  | succ fewer induction =>
      cases more with
      | zero => rw [roundEnds, roundEnds, stuck moreEnough]; rfl
      | succ more =>
          rw [roundEnds, roundEnds]
          apply congrArg (· ++ [cursor])
          apply List.flatMap_congr
          intro reached member
          have shorter := consumes cursor reached member
          exact induction (by omega) (by omega)

theorem run_repeated (consumes : body.Consumes) {count : Nat} {cursor : Cursor}
    (enough : cursor.ahead.length ≤ count) :
    (repeated body).run cursor proceed = rounds body.run proceed count cursor := by
  rw [run_eq_findSome?, rounds_eq_findSome? (run_eq_findSome? body), ends,
    roundEnds_eq consumes (Nat.le_refl _) enough]

/-- Repeated patterns agree when any number of rounds agree. -/
theorem agree_repeated (consumes : body.Consumes)
    (agree : ∀ count, Agree result (rounds body.run proceed count) (rounds body.run other count)) :
    Agree result ((repeated body).run · proceed) ((repeated body).run · other) := by
  intro cursor otherCursor aligned
  have enough := Nat.le_max_left cursor.ahead.length otherCursor.ahead.length
  have otherEnough := Nat.le_max_right cursor.ahead.length otherCursor.ahead.length
  change Option.Rel result ((repeated body).run cursor proceed)
    ((repeated body).run otherCursor other)
  rw [run_repeated consumes enough, run_repeated consumes otherEnough]
  exact agree _ aligned

theorem keeps_repeated (consumes : body.Consumes) (keeps : body.Keeps) :
    (repeated body).Keeps := by
  intro result proceed other agree
  apply agree_repeated consumes
  intro count
  induction count with
  | zero => exact agree
  | succ count induction =>
      intro cursor otherCursor aligned
      exact rel_orElse (keeps induction aligned) (agree aligned)

theorem needsInk_rounds (inked : body.StartsInked) (needsInk : NeedsInk proceed) (count : Nat) :
    NeedsInk (rounds body.run proceed count) := by
  cases count with
  | zero => exact needsInk
  | succ count =>
      intro cursor blank
      have fails : body.run cursor (rounds body.run proceed count) = none := inked _ cursor blank
      rw [rounds, fails]
      exact needsInk cursor blank

theorem startsInked_repeated_seq (inked : body.StartsInked) (secondInked : second.StartsInked) :
    (seq (repeated body) second).StartsInked :=
  fun _ _ blank => needsInk_rounds inked (secondInked _) _ _ blank

/-- A word and the blanks after it may be repeated before another word. -/
theorem keeps_repeated_someBlanks_seq (consumes : (seq body someBlanks).Consumes)
    (inked : body.StartsInked) (keeps : body.Keeps) (secondInked : second.StartsInked)
    (secondKeeps : second.Keeps) : (seq (repeated (seq body someBlanks)) second).Keeps := by
  intro result proceed other agree
  have roundInked := startsInked_seq inked someBlanks
  apply agree_repeated consumes
  intro count
  induction count with
  | zero => exact secondKeeps agree
  | succ count induction =>
      intro cursor otherCursor aligned
      have patient (proceed : Cursor → Option Cursor) :
          IsPatient (rounds (seq body someBlanks).run (second.run · proceed) count) :=
        (needsInk_rounds roundInked (secondInked proceed) count).isPatient
      have round := keeps (agree_someBlanks (patient proceed) (patient other) induction)
      exact rel_orElse (round aligned) (secondKeeps agree aligned)

end

/-! ### Blanks around a mark -/

section

variable {mark second : Pattern}

theorem run_perhaps (proceed : Cursor → Option Cursor) (cursor : Cursor) :
    (perhaps mark).run cursor proceed = (mark.run cursor proceed).or (proceed cursor) :=
  orElse_eq_or ..

/-- A mark that may stand between blanks stands right behind the first of them, and
without it the blanks before and after it are one gap. -/
theorem run_blanks_perhaps {proceed : Cursor → Option Cursor} (inked : mark.StartsInked)
    (patient : IsPatient proceed) (cursor : Cursor) :
    blanks.run cursor (fun reached =>
        (perhaps mark).run reached (someBlanks.run · proceed)) =
      (mark.run cursor.pastGap (someBlanks.run · proceed)).or (someBlanks.run cursor proceed) := by
  rcases cursor with ⟨previous, text, name⟩
  induction text generalizing previous with
  | nil => exact (run_many_of_refused rfl).trans (orElse_eq_or ..)
  | cons head rest induction =>
      cases blank : isBlank head with
      | false =>
          have here : Cursor.pastGap ⟨previous, head :: rest, name⟩ =
              ⟨previous, head :: rest, name⟩ := Cursor.pastGap_eq_self blank
          rw [here]
          exact (run_many_of_refused (by exact blank)).trans (orElse_eq_or ..)
      | true =>
          -- The mark does not begin here, so either the blanks go on or the mark is left out.
          have fails : mark.run ⟨previous, head :: rest, name⟩ (someBlanks.run · proceed) = none :=
            inked _ _ blank
          have here : (perhaps mark).run ⟨previous, head :: rest, name⟩
              (someBlanks.run · proceed) = proceed (Cursor.pastGap ⟨some head, rest, name⟩) := by
            rw [run_perhaps, fails, run_someBlanks patient, Cursor.pastGap_cons blank]
            exact if_pos blank
          have later := induction (some head)
          rw [run_someBlanks patient] at later ⊢
          rw [blanks, run_many_of_accepted blank, ← blanks, later, here,
            Cursor.pastGap_cons blank, orElse_eq_or, Option.or_assoc]
          have same (found : Option Cursor) (condition : Bool) :
              (if condition then found else none).or found = found := by
            cases condition <;> simp
          rw [same]
          exact congrArg _ (if_pos blank).symm

theorem keeps_blanks_perhaps_someBlanks_seq (inked : mark.StartsInked) (keeps : mark.Keeps)
    (patient : second.Patient) (secondKeeps : second.Keeps) :
    (seq blanks (seq (perhaps mark) (seq someBlanks second))).Keeps := by
  intro result proceed other agree cursor otherCursor aligned
  have behind := agree_someBlanks (patient proceed) (patient other) (secondKeeps agree)
  have marked := agree_blanks (inked _).isPatient (inked _).isPatient (keeps behind) aligned
  simp only [run_blanks (inked _).isPatient] at marked
  have apart (proceed : Cursor → Option Cursor) (cursor : Cursor) :
      (seq blanks (seq (perhaps mark) (seq someBlanks second))).run cursor proceed = _ :=
    run_blanks_perhaps inked (patient proceed) cursor
  simp only [apart, ← orElse_eq_or]
  exact rel_orElse marked (behind aligned)

end

end Pattern

end GrowthGauge
