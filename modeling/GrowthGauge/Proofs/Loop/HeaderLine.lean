import GrowthGauge.Loop.Header
import GrowthGauge.Proofs.Pattern.Extension
import GrowthGauge.Proofs.Text.Strip

namespace GrowthGauge.LoopHeader

open Pattern

/-! ## Lines that are loop headers

A line is a header when one of the spellings occurs in it and it is not the tail
of a `do` block. Blanks around the line make no difference. -/

theorem ofLine?_eq_of_strip_eq {line other : Text} (same : line.strip = other.strip) :
    ofLine? line = ofLine? other := by
  rw [ofLine?, ofLine?, isDoWhileTail, isDoWhileTail, same]

theorem ofLine?_strip (line : Text) : ofLine? line.strip = ofLine? line :=
  ofLine?_eq_of_strip_eq (Text.strip_strip line)

theorem ofLine?_isSome_iff (line : Text) :
    (ofLine? line).isSome = true ↔
      isDoWhileTail line = false ∧ ∃ form ∈ all, form.pattern.occursIn line.strip = true := by
  rw [← firstForm_isSome_iff, ofLine?]
  cases isDoWhileTail line <;> simp

theorem ofLine?_of_isAllBlank {line : Text} (blank : line.isAllBlank = true) :
    ofLine? line = none := by
  have empty : line.strip = Text.strip [] := (Text.strip_eq_nil_iff line).mpr blank
  rw [ofLine?_eq_of_strip_eq empty]
  decide +kernel

theorem isAllBlank_of_isSome {line : Text} (recognised : (ofLine? line).isSome = true) :
    line.isAllBlank = false := by
  rw [Bool.eq_false_iff]
  intro blank
  rw [ofLine?_of_isAllBlank blank] at recognised
  cases recognised

@[simp] theorem isOpenEnded_exactly (expected : String) : (exactly expected).IsOpenEnded :=
  isOpenEnded_literal expected.toList

@[simp] theorem isOpenEnded_blanks : blanks.IsOpenEnded := trivial

@[simp] theorem isOpenEnded_someBlanks : someBlanks.IsOpenEnded := ⟨trivial, trivial⟩

@[simp] theorem isOpenEnded_identifier : identifier.IsOpenEnded := ⟨trivial, trivial⟩

@[simp] theorem isOpenEnded_char (expected : Char) : (Pattern.char expected).IsOpenEnded := trivial

/-- Every spelling begins with its keyword, behind a word boundary, and asks for
nothing behind what it takes. -/
theorem exists_keyword (form : LoopHeader) :
    ∃ keyword tail, keyword ≠ [] ∧ (∀ pattern ∈ tail, pattern.IsOpenEnded) ∧
      form.pattern = inOrder (boundary :: literal keyword :: tail) := by
  have openEnded : ∀ mark,
      ∀ pattern ∈ [blanks, Pattern.char mark], pattern.IsOpenEnded := by
    simp
  have overOpenEnded : ∀ connector,
      ∀ pattern ∈ [someBlanks, identifier, someBlanks, exactly connector, someBlanks],
        pattern.IsOpenEnded := by
    simp
  cases form with
  | forParens => exact ⟨"for".toList, _, by decide, openEnded '(', rfl⟩
  | forIn => exact ⟨"for".toList, _, by decide, overOpenEnded "in", rfl⟩
  | forOf => exact ⟨"for".toList, _, by decide, overOpenEnded "of", rfl⟩
  | forShortDeclaration =>
      have more :
          (inOrder [blanks, Pattern.char ',', blanks, identifier]).repeated.IsOpenEnded := by
        change (inOrder _).IsOpenEnded
        apply isOpenEnded_inOrder
        simp
      refine ⟨"for".toList, [someBlanks, identifier, repeated _, blanks, exactly ":="], by decide,
        ?_, rfl⟩
      simpa using more
  | whileParens => exact ⟨"while".toList, _, by decide, openEnded '(', rfl⟩
  | whileIn => exact ⟨"while".toList, _, by decide, overOpenEnded "in", rfl⟩
  | doBlock => exact ⟨"do".toList, _, by decide, openEnded '{', rfl⟩

theorem head?_of_isDoWhileTail {line : Text} (tail : isDoWhileTail line = true) :
    line.strip.head? = some '}' := by
  rcases (matchAt_isSome_iff doWhileTail _).mp tail with ⟨reached, member⟩
  rcases mem_ends_inOrder_cons.mp member with ⟨middle, inBrace, _⟩
  rcases mem_ends_one.mp inBrace with ⟨character, following, ahead, accepted, _⟩
  rw [show line.strip = character :: following from ahead, eq_of_beq accepted]
  rfl

/-- More text on the line of a header without braces leaves it a header. -/
theorem ofLine?_append {line : Text} (recognised : (ofLine? line).isSome = true)
    (braceless : '}' ∉ line) (more : Text) : (ofLine? (line ++ more)).isSome = true := by
  rcases (ofLine?_isSome_iff line).mp recognised with ⟨_, form, inAll, occurs⟩
  rcases Text.exists_strip_append (isAllBlank_of_isSome recognised) more with ⟨rest, strip⟩
  rcases exists_keyword form with ⟨keyword, tail, nonempty, openEnded, pattern⟩
  refine (ofLine?_isSome_iff _).mpr ⟨?_, form, inAll, ?_⟩
  · rw [Bool.eq_false_iff]
    intro isTail
    have opening := head?_of_isDoWhileTail isTail
    have inked : line.strip ≠ [] := by
      rw [ne_eq, Text.strip_eq_nil_iff, isAllBlank_of_isSome recognised]
      exact Bool.false_ne_true
    rw [strip, List.head?_append_of_ne_nil _ inked] at opening
    exact braceless (Text.mem_of_mem_strip (List.mem_of_head? opening))
  · rw [pattern] at occurs
    rw [strip, pattern]
    exact occursIn_append_of_keyword nonempty openEnded occurs rest

theorem ofLine?_openingBrace : ofLine? ['{'] = none := by decide +kernel

theorem ofLine?_closingBrace : ofLine? ['}'] = none := by decide +kernel

theorem ofLine?_doBlock : (ofLine? "do \x7b".toList).isSome = true := by decide +kernel

/-- The line that ends a `do` block, whatever its condition is. -/
theorem ofLine?_doWhileTail {condition : Text} (inline : '\n' ∉ condition) :
    ofLine? ("\x7d while (".toList ++ condition ++ ");".toList) = none := by
  have stripped : Text.strip ("\x7d while (".toList ++ condition ++ ");".toList) =
      "\x7d while (".toList ++ condition ++ ");".toList := by
    apply Text.strip_eq_self
    · rfl
    · rw [List.getLast?_append_of_ne_nil _ (by decide)]
      rfl
  have inlineAccepted : ∀ character ∈ condition, isInline character = true := by
    intro character member
    rw [isInline, bne_iff_ne]
    rintro rfl
    exact inline member
  have covers : (inOrder [Pattern.char '}', blanks, exactly "while", blanks, Pattern.char '(',
      many isInline, Pattern.char ')', blanks, perhaps (Pattern.char ';'), blanks]).Covers
        [['}'], [' '], "while".toList, [' '], ['('], condition, [')'], [], [';'], []].flatten := by
    have none : blanks.Covers [] := covers_many (by simp)
    have space : blanks.Covers [' '] := covers_many (List.forall_mem_singleton.mpr rfl)
    have semicolon : (perhaps (Pattern.char ';')).Covers [';'] :=
      covers_preferred (covers_char ';') nothing
    apply covers_inOrder
    exact .cons (covers_char '}') (.cons space (.cons (covers_literal _) (.cons space
      (.cons (covers_char '(') (.cons (covers_many inlineAccepted) (.cons (covers_char ')')
      (.cons none (.cons semicolon (.cons none .nil)))))))))
  have isTail : isDoWhileTail ("\x7d while (".toList ++ condition ++ ");".toList) = true := by
    rw [isDoWhileTail, stripped, matchStart?, matchAt_isSome_iff]
    have ahead := covers (Cursor.start _) [] (List.append_nil _).symm
    exact ⟨_, mem_ends_inOrder_append ahead (List.mem_singleton_self _)⟩
  rw [ofLine?, isTail]
  rfl

end GrowthGauge.LoopHeader
