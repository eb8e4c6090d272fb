import GrowthGauge.Text.Line
import Mathlib.Data.List.Basic

namespace GrowthGauge.Text

/-! ## Lines joined to a text

Lines without line breaks of their own, none of them empty, are the lines of the text
that joins them with line feeds. -/

def joined (lines : List Text) : Text :=
  List.intercalate ['\n'] lines

theorem joined_cons_cons (first second : Text) (rest : List Text) :
    joined (first :: second :: rest) = first ++ '\n' :: joined (second :: rest) := by
  rw [joined, List.intercalate_cons_cons, List.append_assoc]
  rfl

/-- A line on its own: no line break in it, and not empty. -/
def isLine (line : Text) : Bool :=
  !line.isEmpty && line.all (!isLineBreak ·)

theorem isLine_iff (line : Text) :
    line.isLine = true ↔ line ≠ [] ∧ ∀ character ∈ line, isLineBreak character = false := by
  simp [isLine]

theorem linesFrom_cons {character : Char} (unbroken : isLineBreak character = false)
    (current rest : Text) :
    linesFrom current (character :: rest) = linesFrom (character :: current) rest := by
  have notReturn : character ≠ '\r' := by
    rintro rfl
    cases unbroken
  rw [linesFrom, unbroken, if_neg Bool.false_ne_true]
  intro following isReturn
  exact absurd isReturn notReturn

theorem linesFrom_break (current rest : Text) :
    linesFrom current ('\n' :: rest) = current.reverse :: linesFrom [] rest := by
  rw [linesFrom]
  · exact if_pos rfl
  · intro following isReturn
    exact absurd isReturn (by decide)

theorem linesFrom_nil {current : Text} (nonempty : current ≠ []) :
    linesFrom current [] = [current.reverse] := by
  cases current with
  | nil => exact absurd rfl nonempty
  | cons head tail => rfl

theorem linesFrom_append {line : Text}
    (unbroken : ∀ character ∈ line, isLineBreak character = false) (current rest : Text) :
    linesFrom current (line ++ rest) = linesFrom (line.reverse ++ current) rest := by
  induction line generalizing current with
  | nil => rfl
  | cons character tail induction =>
      rcases List.forall_mem_cons.mp unbroken with ⟨characterUnbroken, tailUnbroken⟩
      rw [List.cons_append, linesFrom_cons characterUnbroken, induction tailUnbroken,
        List.reverse_cons, List.append_assoc]
      rfl

theorem lines_joined {lines : List Text} (areLines : ∀ line ∈ lines, line.isLine = true) :
    (joined lines).lines = lines := by
  induction lines with
  | nil => rfl
  | cons line rest induction =>
      rcases List.forall_mem_cons.mp areLines with ⟨lineIsLine, restLines⟩
      rcases (isLine_iff line).mp lineIsLine with ⟨nonempty, unbroken⟩
      have kept : line.reverse.reverse = line := List.reverse_reverse line
      have started : linesFrom [] line = linesFrom line.reverse [] := by
        have appended := linesFrom_append unbroken [] []
        rwa [List.append_nil, List.append_nil] at appended
      cases rest with
      | nil =>
          rw [joined, List.intercalate_singleton, lines, started,
            linesFrom_nil (List.reverse_ne_nil_iff.mpr nonempty), kept]
      | cons second rest =>
          rw [joined_cons_cons, lines, linesFrom_append unbroken, List.append_nil,
            linesFrom_break, kept]
          exact congrArg (line :: ·) (induction restLines)

/-- A line in a joined text stands at the text's beginning or behind a line feed. -/
theorem exists_joined_split {lines : List Text} {line : Text} (member : line ∈ lines) :
    ∃ before after, joined lines = before ++ (line ++ after) ∧
      before.getLast?.all (· == '\n') = true := by
  induction lines with
  | nil => cases member
  | cons first rest induction =>
      cases rest with
      | nil =>
          rw [List.mem_singleton] at member
          exact ⟨[], [], by simp [joined, member], rfl⟩
      | cons second rest =>
          rw [joined_cons_cons]
          rcases List.mem_cons.mp member with equal | member
          · exact ⟨[], '\n' :: joined (second :: rest), by rw [equal]; rfl, rfl⟩
          · rcases induction member with ⟨before, after, split, starts⟩
            refine ⟨first ++ '\n' :: before, after, by rw [split]; simp, ?_⟩
            rw [List.getLast?_append_of_ne_nil _ (List.cons_ne_nil _ _), List.getLast?_cons]
            cases ends : before.getLast? with
            | none => rfl
            | some last => rwa [ends] at starts

theorem mem_joined_of_mem {lines : List Text} {line : Text} (member : line ∈ lines)
    {character : Char} (inLine : character ∈ line) : character ∈ joined lines := by
  rcases exists_joined_split member with ⟨before, after, split, _⟩
  rw [split]
  exact List.mem_append_right _ (List.mem_append_left _ inLine)

theorem mem_joined {lines : List Text} {character : Char} (member : character ∈ joined lines) :
    character = '\n' ∨ ∃ line ∈ lines, character ∈ line := by
  induction lines with
  | nil => cases member
  | cons first rest induction =>
      cases rest with
      | nil =>
          rw [joined, List.intercalate_singleton] at member
          exact .inr ⟨first, List.mem_cons_self, member⟩
      | cons second rest =>
          rw [joined_cons_cons, List.mem_append, List.mem_cons] at member
          rcases member with inFirst | equal | inRest
          · exact .inr ⟨first, List.mem_cons_self, inFirst⟩
          · exact .inl equal
          · rcases induction inRest with equal | ⟨line, inLines, inLine⟩
            · exact .inl equal
            · exact .inr ⟨line, List.mem_cons_of_mem _ inLines, inLine⟩

theorem head?_joined {line : Text} (nonempty : line ≠ []) (rest : List Text) :
    (joined (line :: rest)).head? = line.head? := by
  cases rest with
  | nil => rw [joined, List.intercalate_singleton]
  | cons second rest => rw [joined_cons_cons, List.head?_append_of_ne_nil _ nonempty]

theorem getLast?_joined {lines : List Text} {last : Text} (isLast : lines.getLast? = some last)
    (nonempty : last ≠ []) : (joined lines).getLast? = last.getLast? := by
  induction lines with
  | nil => cases isLast
  | cons first rest induction =>
      cases rest with
      | nil =>
          rw [List.getLast?_singleton, Option.some.injEq] at isLast
          rw [joined, List.intercalate_singleton, isLast]
      | cons second rest =>
          rw [List.getLast?_cons_cons] at isLast
          have ends := induction isLast
          have later : (joined (second :: rest)).getLast? ≠ none := by
            rwa [ends, ne_eq, List.getLast?_eq_none_iff]
          rw [joined_cons_cons, List.getLast?_append_of_ne_nil _ (List.cons_ne_nil _ _),
            List.getLast?_cons_of_ne_nil (mt List.getLast?_eq_none_iff.mpr later), ends]

end GrowthGauge.Text
