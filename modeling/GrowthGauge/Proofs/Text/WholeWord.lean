import GrowthGauge.Proofs.Spacing.Lines
import GrowthGauge.Text.Word

namespace GrowthGauge.Text

/-! ## Whole words

A word occurs as a whole where neither the character before it nor the one behind it is a
word character. Cutting a text at blank characters neither makes nor breaks such an
occurrence, so what a line has in it, the text has too. -/

def HasWord (text word : Text) : Prop :=
  ∃ before after : Text, text = before ++ (word ++ after) ∧
    before.getLast?.any isWord = false ∧ after.head?.any isWord = false

/-- The word stands as a whole behind the first `place` characters. -/
def wordAt (text word : Text) (place : Nat) : Bool :=
  word.isPrefixOf (text.drop place) && !(text.take place).getLast?.any isWord &&
    !((text.drop place).drop word.length).head?.any isWord

theorem hasWord_iff (text word : Text) :
    text.HasWord word ↔ ∃ place < text.length + 1, text.wordAt word place = true := by
  constructor
  · rintro ⟨before, after, rfl, wordBehind, wordAhead⟩
    refine ⟨before.length, ?_, ?_⟩
    · rw [List.length_append]
      omega
    · simp [wordAt, wordBehind, wordAhead]
  · rintro ⟨place, _, stands⟩
    simp only [wordAt, Bool.and_eq_true, Bool.not_eq_true', List.isPrefixOf_iff_prefix] at stands
    rcases stands with ⟨⟨⟨after, split⟩, wordBehind⟩, wordAhead⟩
    rw [← split, List.drop_left] at wordAhead
    refine ⟨text.take place, after, ?_, wordBehind, wordAhead⟩
    rw [split, List.take_append_drop]

instance (text word : Text) : Decidable (text.HasWord word) :=
  decidable_of_iff _ (hasWord_iff text word).symm

example : HasWord "x = do_it(for, y)".toList "for".toList := by decide +kernel

example : ¬HasWord "x = do_it(before, y)".toList "for".toList := by decide +kernel

theorem any_isWord_getLast?_append {before after : Text}
    (first : before.getLast?.any isWord = false) (second : after.getLast?.any isWord = false) :
    (before ++ after).getLast?.any isWord = false := by
  rw [List.getLast?_append]
  cases ends : after.getLast? with
  | none => exact first
  | some last => rwa [ends] at second

theorem any_isWord_head?_append {before after : Text}
    (first : before.head?.any isWord = false) (second : after.head?.any isWord = false) :
    (before ++ after).head?.any isWord = false := by
  cases before with
  | nil => exact second
  | cons head tail => exact first

/-- A word of a part is a word of the whole, when no word goes on beyond the part. -/
theorem HasWord.of_part {part word : Text} (has : part.HasWord word) {before after : Text}
    (wordBehind : before.getLast?.any isWord = false)
    (wordAhead : after.head?.any isWord = false) : (before ++ (part ++ after)).HasWord word := by
  rcases has with ⟨first, last, rfl, partBehind, partAhead⟩
  refine ⟨before ++ first, last ++ after, by simp, ?_, ?_⟩
  · exact any_isWord_getLast?_append wordBehind partBehind
  · exact any_isWord_head?_append partAhead wordAhead

/-! ### Stripped lines -/

theorem any_isWord_getLast?_of_isAllBlank {gap : Text} (blank : gap.isAllBlank = true) :
    gap.getLast?.any isWord = false := by
  cases last : gap.getLast? with
  | none => rfl
  | some character =>
      have member := List.mem_of_getLast? last
      exact refusesBlanks_isWord character (isAllBlank_iff.mp blank character member)

theorem any_isWord_head?_of_isAllBlank {gap : Text} (blank : gap.isAllBlank = true) :
    gap.head?.any isWord = false :=
  refusesBlanks_isWord.head?_any (startsBlank_of_isAllBlank blank)

theorem HasWord.of_strip {line word : Text} (has : line.strip.HasWord word) :
    line.HasWord word := by
  rcases exists_append_strip_append line with ⟨before, after, beforeBlank, afterBlank, split⟩
  rw [split, List.append_assoc]
  exact has.of_part (any_isWord_getLast?_of_isAllBlank beforeBlank)
    (any_isWord_head?_of_isAllBlank afterBlank)

/-! ### Lines -/

/-- A line stands between two line breaks, or between one and an end of the text. -/
theorem exists_split_of_mem_linesFrom {line current rest : Text}
    (member : line ∈ linesFrom current rest) :
    ∃ before after, current.reverse ++ rest = before ++ (line ++ after) ∧
      before.getLast?.all isLineBreak = true ∧ after.head?.all isLineBreak = true := by
  -- Behind a line break the search starts again with an empty line.
  have later {rest : Text} {character : Char} (isBreak : isLineBreak character = true)
      (current : Text)
      (found : ∃ before after, [] ++ rest = before ++ (line ++ after) ∧
        before.getLast?.all isLineBreak = true ∧ after.head?.all isLineBreak = true) :
      ∃ before after, current ++ character :: rest = before ++ (line ++ after) ∧
        before.getLast?.all isLineBreak = true ∧ after.head?.all isLineBreak = true := by
    rcases found with ⟨before, after, split, starts, ends⟩
    refine ⟨current ++ character :: before, after, by simp [← split], ?_, ends⟩
    rw [List.getLast?_append_of_ne_nil _ (List.cons_ne_nil _ _), List.getLast?_cons]
    cases last : before.getLast? with
    | none => exact isBreak
    | some other => rwa [last] at starts
  fun_induction linesFrom current rest with
  | case1 => cases member
  | case2 head tail =>
      rw [List.mem_singleton] at member
      exact ⟨[], [], by simp [member], rfl, rfl⟩
  | case3 current rest induction =>
      rcases List.mem_cons.mp member with rfl | member
      · exact ⟨[], '\r' :: '\n' :: rest, rfl, rfl, rfl⟩
      · have found := later (show isLineBreak '\n' = true from rfl) (current.reverse ++ ['\r'])
          (induction member)
        rwa [List.append_assoc] at found
  | case4 current character rest _ isBreak induction =>
      rcases List.mem_cons.mp member with rfl | member
      · exact ⟨[], character :: rest, rfl, rfl, isBreak⟩
      · exact later isBreak current.reverse (induction member)
  | case5 current character rest _ unbroken induction =>
      rcases induction member with ⟨before, after, split, starts, ends⟩
      exact ⟨before, after, by rw [← split]; simp, starts, ends⟩

theorem any_isWord_of_all_isLineBreak {edge : Option Char}
    (isBreak : edge.all isLineBreak = true) : edge.any isWord = false := by
  cases edge with
  | none => rfl
  | some character => exact refusesBlanks_isWord character (isBlank_of_isLineBreak isBreak)

theorem HasWord.of_mem_lines {text line word : Text} (has : line.HasWord word)
    (member : line ∈ text.lines) : text.HasWord word := by
  rcases exists_split_of_mem_linesFrom member with ⟨before, after, split, starts, ends⟩
  have whole : text = before ++ (line ++ after) := split
  rw [whole]
  exact has.of_part (any_isWord_of_all_isLineBreak starts) (any_isWord_of_all_isLineBreak ends)

end GrowthGauge.Text
