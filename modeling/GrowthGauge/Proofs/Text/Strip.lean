import GrowthGauge.Text.Line
import Mathlib.Data.List.DropRight
import Mathlib.Data.List.TakeWhile

namespace GrowthGauge

/-! ## Blank characters around a line

A tracker reads the stripped line. What stands around it is blank, so a reader
that ignores blank characters may as well read the whole line. -/

namespace Text

theorem isAllBlank_iff {text : Text} :
    text.isAllBlank = true ↔ ∀ character ∈ text, isBlank character = true :=
  List.all_eq_true

theorem isAllBlank_cons {head : Char} {rest : Text} :
    isAllBlank (head :: rest) = true ↔ isBlank head = true ∧ rest.isAllBlank = true := by
  rw [isAllBlank, List.all_cons, Bool.and_eq_true, isAllBlank]

theorem isAllBlank_append {first second : Text} :
    isAllBlank (first ++ second) = true ↔
      first.isAllBlank = true ∧ second.isAllBlank = true := by
  rw [isAllBlank, List.all_append, Bool.and_eq_true, isAllBlank, isAllBlank]

theorem stripEnd_eq_rdropWhile (text : Text) : text.stripEnd = text.rdropWhile isBlank :=
  rfl

theorem exists_stripEnd_append (text : Text) :
    ∃ after : Text, after.isAllBlank = true ∧ text = text.stripEnd ++ after := by
  refine ⟨text.rtakeWhile isBlank, ?_, ?_⟩
  · rw [isAllBlank_iff]
    exact fun character member => List.mem_rtakeWhile_imp member
  · rw [stripEnd_eq_rdropWhile, List.rdropWhile_append_rtakeWhile]

/-- A line is its stripped text with blank characters around it. -/
theorem exists_append_strip_append (line : Text) :
    ∃ before after : Text, before.isAllBlank = true ∧ after.isAllBlank = true ∧
      line = before ++ line.strip ++ after := by
  rcases exists_stripEnd_append line.stripStart with ⟨after, afterBlank, split⟩
  refine ⟨line.takeWhile isBlank, after, ?_, afterBlank, ?_⟩
  · rw [isAllBlank_iff]
    exact fun character member => List.mem_takeWhile_imp member
  · calc
      line = line.takeWhile isBlank ++ line.stripStart := List.takeWhile_append_dropWhile.symm
      _ = line.takeWhile isBlank ++ (line.strip ++ after) := by
        rw [strip, ← split]
      _ = line.takeWhile isBlank ++ line.strip ++ after := (List.append_assoc ..).symm

theorem mem_of_mem_strip {line : Text} {character : Char} (member : character ∈ line.strip) :
    character ∈ line := by
  rcases exists_append_strip_append line with ⟨before, after, _, _, split⟩
  rw [split]
  exact List.mem_append_left _ (List.mem_append_right _ member)

theorem mem_strip_of_mem {line : Text} {character : Char} (member : character ∈ line)
    (inked : isBlank character = false) : character ∈ line.strip := by
  rcases exists_append_strip_append line with ⟨before, after, beforeBlank, afterBlank, split⟩
  rw [split, List.mem_append, List.mem_append] at member
  have outside {blanks : Text} (allBlank : blanks.isAllBlank = true) : character ∉ blanks := by
    intro inBlanks
    rw [isAllBlank_iff] at allBlank
    exact Bool.false_ne_true (inked.symm.trans (allBlank character inBlanks))
  rcases member with (inBefore | inStrip) | inAfter
  · exact absurd inBefore (outside beforeBlank)
  · exact inStrip
  · exact absurd inAfter (outside afterBlank)

theorem stripStart_blank_append {before : Text} (blank : before.isAllBlank = true) (text : Text) :
    stripStart (before ++ text) = text.stripStart := by
  rw [isAllBlank_iff] at blank
  exact List.dropWhile_append_of_pos blank

theorem stripStart_eq_nil_of_isAllBlank {text : Text} (blank : text.isAllBlank = true) :
    text.stripStart = [] := by
  rw [isAllBlank_iff] at blank
  exact List.dropWhile_eq_nil_iff.mpr blank

theorem stripEnd_append_blank {after : Text} (blank : after.isAllBlank = true) (text : Text) :
    stripEnd (text ++ after) = text.stripEnd := by
  rw [isAllBlank_iff] at blank
  rw [stripEnd, List.reverse_append, List.dropWhile_append_of_pos]
  · rfl
  · exact fun character member => blank character (List.mem_reverse.mp member)

theorem strip_append_blank {after : Text} (blank : after.isAllBlank = true) (text : Text) :
    strip (text ++ after) = text.strip := by
  unfold strip
  rw [stripStart, List.dropWhile_append]
  split
  · next empty =>
      have none : text.stripStart = [] := List.isEmpty_iff.mp empty
      rw [none]
      exact congrArg stripEnd (stripStart_eq_nil_of_isAllBlank blank)
  · exact stripEnd_append_blank blank text.stripStart

/-- Blank characters around a text are no part of what remains when it is stripped. -/
theorem strip_blank_append_blank {before after : Text} (beforeBlank : before.isAllBlank = true)
    (afterBlank : after.isAllBlank = true) (text : Text) :
    strip (before ++ text ++ after) = text.strip := by
  rw [strip_append_blank afterBlank]
  exact congrArg stripEnd (stripStart_blank_append beforeBlank text)

theorem strip_strip (text : Text) : text.strip.strip = text.strip := by
  rcases exists_append_strip_append text with ⟨before, after, beforeBlank, afterBlank, split⟩
  have stripped := strip_blank_append_blank beforeBlank afterBlank text.strip
  rw [← split] at stripped
  exact stripped.symm

theorem strip_eq_nil_iff (line : Text) : line.strip = [] ↔ line.isAllBlank = true := by
  constructor
  · intro empty
    rcases exists_append_strip_append line with ⟨before, after, beforeBlank, afterBlank, split⟩
    rw [empty, List.append_nil] at split
    rw [split]
    exact isAllBlank_append.mpr ⟨beforeBlank, afterBlank⟩
  · intro blank
    rw [strip, stripStart_eq_nil_of_isAllBlank blank]
    rfl

/-- A text whose two ends are no blank characters is stripped already. -/
theorem strip_eq_self {text : Text} (first : text.head?.all (!isBlank ·) = true)
    (last : text.getLast?.all (!isBlank ·) = true) : text.strip = text := by
  have start : text.stripStart = text := by
    cases text with
    | nil => rfl
    | cons head tail => exact List.dropWhile_cons_of_neg (by simpa using first)
  rw [strip, start, stripEnd_eq_rdropWhile, List.rdropWhile_eq_self_iff]
  intro nonempty
  rw [List.getLast?_eq_getLast_of_ne_nil nonempty] at last
  simpa using last

theorem length_strip_le (text : Text) : text.strip.length ≤ text.length := by
  rcases exists_append_strip_append text with ⟨before, after, _, _, split⟩
  have lengths := congrArg List.length split
  rw [List.length_append, List.length_append] at lengths
  omega

/-- A blank character at an end of a stripped text could have been stripped. -/
theorem all_head?_strip (text : Text) : text.strip.head?.all (!isBlank ·) = true := by
  cases stripped : text.strip with
  | nil => rfl
  | cons head tail =>
      by_contra blank
      have shorter := length_strip_le tail
      have alone : isAllBlank [head] = true := by simpa [isAllBlank] using blank
      have again : strip (head :: tail) = head :: tail := stripped ▸ strip_strip text
      have same : strip tail = strip (head :: tail) :=
        (congrArg stripEnd (stripStart_blank_append alone tail)).symm
      rw [same, again, List.length_cons] at shorter
      exact Nat.not_succ_le_self _ shorter

theorem all_getLast?_strip (text : Text) : text.strip.getLast?.all (!isBlank ·) = true := by
  rcases List.eq_nil_or_concat text.strip with empty | ⟨front, last, stripped⟩
  · rw [empty]
    rfl
  · rw [List.concat_eq_append] at stripped
    by_contra blank
    have shorter := length_strip_le front
    have alone : isAllBlank [last] = true := by simpa [isAllBlank, stripped] using blank
    have again : strip (front ++ [last]) = front ++ [last] := stripped ▸ strip_strip text
    rw [← strip_append_blank alone front, again, List.length_append] at shorter
    exact Nat.not_succ_le_self _ shorter

/-- A text with ink in it keeps what it is stripped to when more comes behind it. -/
theorem exists_strip_append {text : Text} (inked : text.isAllBlank = false) (more : Text) :
    ∃ rest, strip (text ++ more) = text.strip ++ rest := by
  have started : text.stripStart.isEmpty = false := by
    rw [Bool.eq_false_iff]
    intro empty
    have blank : text.isAllBlank = true := by
      rw [← strip_eq_nil_iff, strip, List.isEmpty_iff.mp empty]
      rfl
    exact Bool.false_ne_true (inked.symm.trans blank)
  have start : stripStart (text ++ more) = text.stripStart ++ more := by
    unfold stripStart at started ⊢
    rw [List.dropWhile_append, started, if_neg Bool.false_ne_true]
  rw [strip, strip, start, stripEnd, List.reverse_append, List.dropWhile_append]
  split
  · exact ⟨[], (List.append_nil _).symm⟩
  · rcases exists_stripEnd_append text.stripStart with ⟨after, _, split⟩
    refine ⟨after ++ (more.reverse.dropWhile isBlank).reverse, ?_⟩
    rw [List.reverse_append, List.reverse_reverse, ← List.append_assoc, ← split]

/-- The last character of a stripped line is the last one that is no blank. -/
theorem getLast?_strip (line : Text) :
    line.strip.getLast? = line.reverse.find? (!isBlank ·) := by
  have opening : (line.takeWhile isBlank).reverse.find? (!isBlank ·) = none := by
    rw [List.find?_eq_none]
    intro character member
    simpa using List.mem_takeWhile_imp (List.mem_reverse.mp member)
  calc
    line.strip.getLast? = (line.stripStart.reverse.dropWhile isBlank).head? := by
      rw [strip, stripEnd, List.getLast?_reverse]
    _ = line.stripStart.reverse.find? (!isBlank ·) := by
      rw [List.find?_not_eq_head?_dropWhile]
    _ = (line.takeWhile isBlank ++ line.stripStart).reverse.find? (!isBlank ·) := by
      rw [List.reverse_append, List.find?_append, opening, Option.or_none]
    _ = line.reverse.find? (!isBlank ·) := by
      rw [stripStart, List.takeWhile_append_dropWhile]

/-- Where the end of a line has ink in it, the line's last character is the end's. -/
theorem getLast?_strip_append (line : Text) {ending : Text} (inked : ending.isAllBlank = false) :
    (strip (line ++ ending)).getLast? = ending.strip.getLast? := by
  have found : ending.strip.getLast? ≠ none := by
    rw [ne_eq, List.getLast?_eq_none_iff, strip_eq_nil_iff, inked]
    exact Bool.false_ne_true
  rw [getLast?_strip] at found
  rw [getLast?_strip, getLast?_strip, List.reverse_append, List.find?_append,
    Option.or_of_isSome (Option.isSome_iff_ne_none.mpr found)]

theorem foldl_of_isAllBlank {State : Type} {read : State → Char → State}
    (ignores : ∀ state character, isBlank character = true → read state character = state)
    {text : Text} (blank : text.isAllBlank = true) (state : State) :
    text.foldl read state = state := by
  induction text with
  | nil => rfl
  | cons head tail induction =>
      rcases isAllBlank_cons.mp blank with ⟨headBlank, tailBlank⟩
      rw [List.foldl_cons, ignores state head headBlank]
      exact induction tailBlank

/-- A reader that ignores blank characters need not strip the line first. -/
theorem foldl_strip {State : Type} {read : State → Char → State}
    (ignores : ∀ state character, isBlank character = true → read state character = state)
    (line : Text) (state : State) : line.strip.foldl read state = line.foldl read state := by
  rcases exists_append_strip_append line with ⟨before, after, beforeBlank, afterBlank, split⟩
  conv => rhs; rw [split]
  rw [List.foldl_append, List.foldl_append, foldl_of_isAllBlank ignores beforeBlank,
    foldl_of_isAllBlank ignores afterBlank]

end Text

end GrowthGauge
