import GrowthGauge.Text.Blank
import Mathlib.Data.List.TakeWhile

namespace GrowthGauge.Text

/-! ## Lines between line feeds

Patterns know no line break but the line feed. To them a line is what stands between two line
feeds, or between one and an end of the text. -/

/-- The text before a position where a line starts. -/
def StartsLine (before : Text) : Prop :=
  before.getLast?.all (· == '\n') = true

/-- The text behind a position where a line ends. -/
def EndsLine (after : Text) : Prop :=
  after.head?.all (· == '\n') = true

theorem startsLine_nil : StartsLine [] := rfl

theorem endsLine_nil : EndsLine [] := rfl

theorem startsLine_append_cons (front : Text) {before : Text} (starts : before.StartsLine) :
    StartsLine (front ++ '\n' :: before) := by
  rw [StartsLine, List.getLast?_append, List.getLast?_cons]
  rw [StartsLine] at starts
  cases last : before.getLast? with
  | none => rfl
  | some character => rwa [last] at starts

theorem StartsLine.eq_nil_or {before : Text} (starts : before.StartsLine) :
    before = [] ∨ ∃ front, before = front ++ ['\n'] := by
  rcases List.eq_nil_or_concat before with empty | ⟨front, last, rfl⟩
  · exact .inl empty
  · rw [List.concat_eq_append] at starts ⊢
    rw [StartsLine, List.getLast?_append, List.getLast?_singleton] at starts
    exact .inr ⟨front, by rw [eq_of_beq (show (last == '\n') = true from starts)]⟩

theorem EndsLine.eq_nil_or {after : Text} (ends : after.EndsLine) :
    after = [] ∨ ∃ rest, after = '\n' :: rest := by
  cases after with
  | nil => exact .inl rfl
  | cons head rest =>
      rw [EndsLine, List.head?_cons, Option.all_some] at ends
      exact .inr ⟨rest, by rw [eq_of_beq ends]⟩

theorem splitOn_append_feed (before after : Text) :
    (before ++ '\n' :: after).splitOn '\n' = before.splitOn '\n' ++ after.splitOn '\n' := by
  rw [List.splitOn_eq_splitOnP]
  exact List.splitOnP_append_cons before after (beq_self_eq_true '\n')

/-- The pieces of a text that is split at its line feeds are its lines. -/
theorem mem_splitOn_iff {line text : Text} :
    line ∈ text.splitOn '\n' ↔
      '\n' ∉ line ∧ ∃ before after, text = before ++ (line ++ after) ∧ before.StartsLine ∧
        after.EndsLine := by
  constructor
  · intro member
    induction split : text.length using Nat.strongRecOn generalizing text with
    | _ length induction =>
        by_cases fed : '\n' ∈ text
        · rcases List.eq_append_cons_of_mem fed with ⟨first, rest, rfl, unfed⟩
          rw [splitOn_append_feed, List.splitOn_eq_singleton unfed, List.mem_append,
            List.mem_singleton] at member
          rcases member with rfl | later
          · exact ⟨unfed, [], '\n' :: rest, rfl, startsLine_nil, rfl⟩
          · rw [List.length_append, List.length_cons] at split
            rcases induction rest.length (by omega) later rfl with
              ⟨unfed, before, after, rfl, starts, ends⟩
            exact ⟨unfed, first ++ '\n' :: before, after, by simp,
              startsLine_append_cons first starts, ends⟩
        · rw [List.splitOn_eq_singleton fed, List.mem_singleton] at member
          subst member
          exact ⟨fed, [], [], by simp, startsLine_nil, endsLine_nil⟩
  · rintro ⟨unfed, before, after, rfl, starts, ends⟩
    have first : line ∈ (line ++ after).splitOn '\n' := by
      rcases ends.eq_nil_or with rfl | ⟨rest, rfl⟩
      · rw [List.append_nil, List.splitOn_eq_singleton unfed]
        exact List.mem_singleton_self line
      · rw [splitOn_append_feed, List.splitOn_eq_singleton unfed]
        exact List.mem_cons_self
    rcases starts.eq_nil_or with rfl | ⟨front, rfl⟩
    · exact first
    · rw [List.append_assoc, List.singleton_append, splitOn_append_feed]
      exact List.mem_append_right _ first

/-- A text in front of a line's end is the start of a line, where no line feed is in it. -/
theorem exists_line_of_start {front : Text} (unfed : '\n' ∉ front) (after : Text) :
    ∃ rest later, after = rest ++ later ∧ '\n' ∉ front ++ rest ∧ EndsLine later := by
  refine ⟨after.takeWhile (· != '\n'), after.dropWhile (· != '\n'),
    List.takeWhile_append_dropWhile.symm, ?_, ?_⟩
  · rw [List.mem_append]
    rintro (inFront | inRest)
    · exact unfed inFront
    · simpa using List.mem_takeWhile_imp inRest
  · rw [EndsLine]
    cases split : (after.dropWhile (· != '\n')).head? with
    | none => rfl
    | some character =>
        have stopped := List.head?_dropWhile_not (· != '\n') after
        rw [split] at stopped
        simpa using stopped

end GrowthGauge.Text
