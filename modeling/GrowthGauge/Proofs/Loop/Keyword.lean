import GrowthGauge.Loop.Chain
import GrowthGauge.Proofs.Loop.HeaderLine
import GrowthGauge.Proofs.Spacing.Calls
import GrowthGauge.Proofs.Text.WholeWord

namespace GrowthGauge

open Pattern

/-! ## Keywords of loops

Every spelling of a loop header has a keyword in it, and the keyword stands there as a
whole word: a boundary comes before it, and what has to follow begins with a blank or with
an opening mark. -/

/-- Wherever the pattern matches, no word goes on. -/
def Pattern.EndsWord (pattern : Pattern) : Prop :=
  ∀ cursor reached, reached ∈ pattern.ends cursor → cursor.isWordAhead = false

namespace Pattern

theorem isWordAhead_of_blanks {cursor middle : Cursor} (member : middle ∈ blanks.ends cursor)
    (behind : middle.isWordAhead = false) : cursor.isWordAhead = false := by
  rcases mem_ends_many.mp member with ⟨gap, following, ahead, blank, rfl⟩
  rw [Cursor.isWordAhead, ahead]
  exact Text.any_isWord_head?_append
    (Text.any_isWord_head?_of_isAllBlank (List.all_eq_true.mpr blank)) behind

theorem endsWord_one {accepts : Char → Bool}
    (refuses : ∀ character, accepts character = true → isWord character = false) :
    (one accepts).EndsWord := by
  intro cursor reached member
  rcases mem_ends_one.mp member with ⟨character, following, ahead, accepted, _⟩
  rw [Cursor.isWordAhead, ahead]
  exact refuses character accepted

theorem EndsWord.seq {first : Pattern} (ends : first.EndsWord) (second : Pattern) :
    (seq first second).EndsWord := by
  intro cursor reached member
  rcases mem_ends_seq.mp member with ⟨middle, inFirst, _⟩
  exact ends cursor middle inFirst

theorem EndsWord.blanks_seq {second : Pattern} (ends : second.EndsWord) :
    (Pattern.seq blanks second).EndsWord := by
  intro cursor reached member
  rcases mem_ends_seq.mp member with ⟨middle, inBlanks, inSecond⟩
  exact isWordAhead_of_blanks inBlanks (ends middle reached inSecond)

theorem endsWord_char {mark : Char} (isMark : isWord mark = false) : (char mark).EndsWord := by
  apply endsWord_one
  intro character accepted
  rwa [eq_of_beq accepted]

theorem endsWord_someBlanks : someBlanks.EndsWord :=
  (endsWord_one refusesBlanks_isWord).seq (many isBlank)

/-- A keyword behind a boundary, with something behind it that ends a word, is a whole
word. -/
theorem hasWord_of_occursIn {keyword : Text} (nonempty : keyword ≠ [])
    (isName : keyword.all isWord = true) {tail : List Pattern} (ends : (inOrder tail).EndsWord)
    {text : Text} (occurs : (inOrder (boundary :: literal keyword :: tail)).occursIn text = true) :
    text.HasWord keyword := by
  rcases (occursIn_iff _ text).mp occurs with ⟨before, ahead, split, reached, member⟩
  rcases mem_ends_inOrder_cons.mp member with ⟨start, atBoundary, rest⟩
  rcases mem_ends_inOrder_cons.mp rest with ⟨middle, inKeyword, inTail⟩
  rcases mem_ends_literal.mp inKeyword with ⟨following, startAhead, rfl⟩
  have wordEnds := ends _ _ inTail
  have wordStarts := SelfCall.isWordAhead_of_name nonempty isName startAhead
  rw [Pattern.ends] at atBoundary
  split at atBoundary
  · cases atBoundary
  · next differs =>
      rw [List.mem_singleton.mp atBoundary] at startAhead wordStarts
      rw [wordStarts, beq_iff_eq, Bool.not_eq_true] at differs
      exact ⟨before, following, by rw [split]; exact congrArg _ startAhead, differs, wordEnds⟩

end Pattern

namespace LoopHeader

def keywords : List Text :=
  ["for".toList, "while".toList, "do".toList]

/-- Every spelling begins with one of the keywords, as a whole word. -/
theorem exists_whole_keyword (form : LoopHeader) :
    ∃ keyword ∈ keywords, ∃ tail, (inOrder tail).EndsWord ∧
      form.pattern = inOrder (boundary :: literal keyword :: tail) := by
  have paren : (inOrder [blanks, Pattern.char '(']).EndsWord :=
    (endsWord_char (by decide +kernel)).blanks_seq
  have brace : (inOrder [blanks, Pattern.char '{']).EndsWord :=
    (endsWord_char (by decide +kernel)).blanks_seq
  have spaced (second : Pattern) (rest : List Pattern) :
      (inOrder (someBlanks :: second :: rest)).EndsWord :=
    endsWord_someBlanks.seq (inOrder (second :: rest))
  have isFor : "for".toList ∈ keywords := List.mem_cons_self
  have isWhile : "while".toList ∈ keywords := List.mem_cons_of_mem _ List.mem_cons_self
  have isDo : "do".toList ∈ keywords := by decide
  cases form with
  | forParens => exact ⟨_, isFor, _, paren, rfl⟩
  | forIn => exact ⟨_, isFor, _, spaced identifier _, rfl⟩
  | forOf => exact ⟨_, isFor, _, spaced identifier _, rfl⟩
  | forShortDeclaration => exact ⟨_, isFor, _, spaced identifier _, rfl⟩
  | whileParens => exact ⟨_, isWhile, _, paren, rfl⟩
  | whileIn => exact ⟨_, isWhile, _, spaced identifier _, rfl⟩
  | doBlock => exact ⟨_, isDo, _, brace, rfl⟩

theorem keywords_are_words {keyword : Text} (member : keyword ∈ keywords) :
    keyword ≠ [] ∧ keyword.all isWord = true := by
  have all : ∀ keyword ∈ keywords, keyword ≠ [] ∧ keyword.all isWord = true := by
    decide +kernel
  exact all keyword member

/-- A line that is a loop header has a keyword in it. -/
theorem exists_hasWord_of_isSome {line : Text} (recognised : (ofLine? line).isSome = true) :
    ∃ keyword ∈ keywords, line.HasWord keyword := by
  rcases (ofLine?_isSome_iff line).mp recognised with ⟨_, form, _, occurs⟩
  rcases exists_whole_keyword form with ⟨keyword, member, tail, ends, pattern⟩
  rcases keywords_are_words member with ⟨nonempty, isName⟩
  rw [pattern] at occurs
  exact ⟨keyword, member, (hasWord_of_occursIn nonempty isName ends occurs).of_strip⟩

end LoopHeader

namespace LoopChain

/-- So does a line of indented text that opens loops. -/
theorem exists_hasWord_of_headerColumns {line : Text} (opens : headerColumns line ≠ []) :
    ∃ keyword ∈ LoopHeader.keywords, line.HasWord keyword := by
  have starts : opensLoop line.strip = true := by
    by_contra closed
    rw [headerColumns, if_neg closed] at opens
    exact opens rfl
  rw [opensLoop, Bool.or_eq_true, List.isPrefixOf_iff_prefix, List.isPrefixOf_iff_prefix] at starts
  have space : Option.any isWord (some ' ') = false := by decide +kernel
  rcases starts with ⟨rest, split⟩ | ⟨rest, split⟩
  · have has : line.strip.HasWord "for".toList := ⟨[], ' ' :: rest, split.symm, rfl, space⟩
    exact ⟨_, by decide, has.of_strip⟩
  · have has : line.strip.HasWord "while".toList := ⟨[], ' ' :: rest, split.symm, rfl, space⟩
    exact ⟨_, by decide, has.of_strip⟩

end LoopChain

end GrowthGauge
