import GrowthGauge.Pattern.Search

namespace GrowthGauge

/-! ## The ends of a pattern

`ends` lists every position at which a match that begins at a cursor may end, in
the order in which the ends are tried. It is what a pattern means: running a
pattern is looking through its ends for the first that can go on, so two
patterns with the same ends are interchangeable. -/

namespace Pattern

/-- The ends after at most `rounds` rounds of a body, more rounds preferred. -/
def roundEnds (body : Cursor → List Cursor) : (rounds : Nat) → Cursor → List Cursor
  | 0, cursor => [cursor]
  | rounds + 1, cursor => (body cursor).flatMap (roundEnds body rounds) ++ [cursor]

def ends : Pattern → Cursor → List Cursor
  | nothing, cursor => [cursor]
  | one accepts, cursor =>
      match cursor.ahead with
      | [] => []
      | character :: rest =>
          if accepts character then [⟨some character, rest, cursor.name⟩] else []
  | many accepts, cursor => cursor.farthestFirst accepts
  | fewest accepts, cursor => cursor.nearestFirst accepts
  | seq first second, cursor => (first.ends cursor).flatMap second.ends
  | either preferred fallback, cursor => preferred.ends cursor ++ fallback.ends cursor
  | repeated body, cursor => roundEnds body.ends cursor.ahead.length cursor
  | named body, cursor =>
      (body.ends cursor).map fun reached =>
        { reached with name := some ⟨cursor.ahead, reached.ahead⟩ }
  | boundary, cursor => if cursor.isWordBehind == cursor.isWordAhead then [] else [cursor]
  | lineStart, cursor => if cursor.previous.all (· == '\n') then [cursor] else []
  | lineEnd, cursor => if cursor.ahead.head?.all (· == '\n') then [cursor] else []
  | textEnd, cursor =>
      if cursor.ahead == [] || cursor.ahead == ['\n'] then [cursor] else []
  | followedBy body, cursor => if (body.ends cursor).isEmpty then [] else [cursor]
  | notFollowedBy accepts, cursor => if cursor.ahead.head?.any accepts then [] else [cursor]

theorem findSome?_flatMap {α β γ : Type} (values : List α) (expand : α → List β)
    (proceed : β → Option γ) :
    (values.flatMap expand).findSome? proceed =
      values.findSome? fun value => (expand value).findSome? proceed := by
  induction values with
  | nil => rfl
  | cons value rest induction =>
      simp only [List.flatMap_cons, List.findSome?_append, List.findSome?_cons, induction]
      cases (expand value).findSome? proceed <;> rfl

theorem rounds_eq_findSome? {body : Cursor → (Cursor → Option Cursor) → Option Cursor}
    {bodyEnds : Cursor → List Cursor}
    (meaning : ∀ cursor proceed, body cursor proceed = (bodyEnds cursor).findSome? proceed)
    (proceed : Cursor → Option Cursor) (count : Nat) (cursor : Cursor) :
    rounds body proceed count cursor = (roundEnds bodyEnds count cursor).findSome? proceed := by
  induction count generalizing cursor with
  | zero => simp [rounds, roundEnds]
  | succ count induction =>
      have again : rounds body proceed count =
          fun reached => (roundEnds bodyEnds count reached).findSome? proceed :=
        funext induction
      simp only [rounds, roundEnds, meaning, again, List.findSome?_append, findSome?_flatMap]
      cases (bodyEnds cursor).findSome? _ <;> simp

theorem findSome?_some {α : Type} (values : List α) : values.findSome? some = values.head? := by
  cases values <;> rfl

/-- Running a pattern tries its ends in order. -/
theorem run_eq_findSome? (pattern : Pattern) (cursor : Cursor)
    (proceed : Cursor → Option Cursor) :
    pattern.run cursor proceed = (pattern.ends cursor).findSome? proceed := by
  induction pattern generalizing cursor proceed with
  | nothing => simp [run, ends]
  | one accepts =>
      cases ahead : cursor.ahead with
      | nil => simp [run, ends, ahead]
      | cons character rest =>
          simp only [run, ends, ahead]
          split <;> simp
  | many accepts => rfl
  | fewest accepts => rfl
  | seq first second firstMeaning secondMeaning =>
      simp [run, ends, findSome?_flatMap, firstMeaning, secondMeaning]
  | either preferred fallback preferredMeaning fallbackMeaning =>
      simp only [run, ends, preferredMeaning, fallbackMeaning, List.findSome?_append]
      cases (preferred.ends cursor).findSome? proceed <;> rfl
  | repeated body meaning => exact rounds_eq_findSome? meaning proceed _ cursor
  | named body meaning => simp [run, ends, meaning, List.findSome?_map, Function.comp_def]
  | boundary => simp only [run, ends]; split <;> simp
  | lineStart => simp only [run, ends]; split <;> simp
  | lineEnd => simp only [run, ends]; split <;> simp
  | textEnd => simp only [run, ends]; split <;> simp
  | followedBy body meaning =>
      simp only [run, ends, meaning, findSome?_some]
      cases body.ends cursor <;> simp
  | notFollowedBy accepts => simp only [run, ends]; split <;> simp

/-- A match takes the end that is tried first. -/
theorem matchAt_eq_head? (pattern : Pattern) (cursor : Cursor) :
    pattern.matchAt cursor = (pattern.ends cursor).head?.map fun stop => ⟨cursor, stop⟩ := by
  rw [matchAt, run_eq_findSome?, findSome?_some]

end Pattern

end GrowthGauge
