import GrowthGauge.Proofs.Calls.Declared

namespace GrowthGauge

namespace Pattern

/-! ## Where nothing matches

A search skips a beginning of the text at which nothing matches, and so does a count. -/

section

variable {pattern : Pattern} {previous : Option Char} {character : Char} {front rest : Text}

theorem IsClear.matchAt_eq_none {width : Nat} {text : Text}
    (clear : pattern.IsClear (width + 1) previous text) :
    pattern.matchAt ⟨previous, text, none⟩ = none :=
  clear [] text rfl (Nat.succ_pos width)

theorem IsClear.tail {width : Nat}
    (clear : pattern.IsClear (width + 1) previous (character :: rest)) :
    pattern.IsClear width (some character) rest := by
  intro before after split short
  have later := clear (character :: before) after (congrArg (character :: ·) split)
    (Nat.succ_lt_succ short)
  rwa [Cursor.getLast?_cons_or] at later

theorem searchFrom_of_isClear (clear : pattern.IsClear front.length previous (front ++ rest)) :
    pattern.searchFrom previous (front ++ rest) =
      pattern.searchFrom (front.getLast?.or previous) rest := by
  induction front generalizing previous with
  | nil => rfl
  | cons character front induction =>
      have here := clear.matchAt_eq_none
      rw [List.cons_append] at here clear ⊢
      rw [searchFrom, here, Cursor.getLast?_cons_or]
      exact induction clear.tail

theorem beginnings_of_isClear (clear : pattern.IsClear front.length previous (front ++ rest)) :
    pattern.beginnings previous (front ++ rest) =
      pattern.beginnings (front.getLast?.or previous) rest := by
  induction front generalizing previous with
  | nil => rfl
  | cons character front induction =>
      have here := clear.matchAt_eq_none
      rw [List.cons_append] at here clear ⊢
      rw [beginnings, here, Cursor.getLast?_cons_or, induction clear.tail]
      exact Nat.zero_add _

end

theorem searchFrom_of_matchAt {pattern : Pattern} {previous : Option Char} {text : Text}
    {found : Match} (matched : pattern.matchAt ⟨previous, text, none⟩ = some found) :
    pattern.searchFrom previous text = some found := by
  cases text with
  | nil => exact matched
  | cons head tail => rw [searchFrom, matched]

/-- A pattern that begins a line has no match in a part of the first line but at its start. -/
theorem isClear_of_lineStart {body : List Pattern} {front rest : Text} (unfed : '\n' ∉ front)
    (start : (inOrder (lineStart :: body)).matchAt ⟨none, front ++ rest, none⟩ = none) :
    (inOrder (lineStart :: body)).IsClear front.length none (front ++ rest) := by
  intro before after split short
  rcases List.eq_nil_or_concat before with rfl | ⟨passed, last, rfl⟩
  · rw [split] at start
    exact start
  · rw [List.concat_eq_append] at split short ⊢
    have inFront : last ∈ front := by
      have isPrefix : passed ++ [last] <+: front :=
        List.prefix_of_prefix_length_le ⟨after, split.symm⟩ (List.prefix_append front rest)
          (Nat.le_of_lt short)
      exact isPrefix.subset (by simp)
    rw [Option.eq_none_iff_forall_not_mem]
    intro found matched
    rcases mem_ends_of_matchAt matched with ⟨_, member⟩
    rcases mem_ends_inOrder_cons.mp member with ⟨_, atStart, _⟩
    have breaks := (IndentedHeader.mem_ends_lineStart_iff.mp atStart).1
    rw [List.getLast?_concat, Option.some_or, Option.all_some, beq_iff_eq] at breaks
    exact unfed (breaks ▸ inFront)

/-! ## Marks behind words

Calls and most declarations begin with a word, and a mark that they accept has to stand
behind it. Where another mark stands there, they begin neither in the word nor in what
separates it from the mark. -/

/-- Every match begins in a word, behind which a mark stands that is accepted. -/
def BeginsWord (pattern : Pattern) (accepts : Char → Bool) : Prop :=
  ∀ cursor reached, reached ∈ pattern.ends cursor → cursor.isWordAhead = true ∧
    ∃ mark, cursor.ahead.markBehindWord = some mark ∧ accepts mark = true

section

variable {pattern : Pattern} {accepts : Char → Bool}

theorem BeginsWord.mono {more : Char → Bool} (begins : pattern.BeginsWord accepts)
    (imp : ∀ mark, accepts mark = true → more mark = true) : pattern.BeginsWord more := by
  intro cursor reached member
  rcases begins cursor reached member with ⟨wordAhead, mark, behind, accepted⟩
  exact ⟨wordAhead, mark, behind, imp mark accepted⟩

theorem BeginsWord.boundary_seq (begins : pattern.BeginsWord accepts) :
    (seq boundary pattern).BeginsWord accepts := by
  intro cursor reached member
  rcases mem_ends_seq.mp member with ⟨start, atBoundary, inRest⟩
  rw [eq_of_mem_ite_not atBoundary] at inRest
  exact begins cursor reached inRest

theorem beginsWord_keywords {names : List String}
    (areWords : ∀ keyword ∈ names, keyword.toList ≠ [] ∧ keyword.toList.all isWord = true)
    (refuses : RefusesBlanks accepts) {rest : Pattern} (begins : rest.Begins accepts) :
    (seq (DeclarationForm.keywords names) (seq someBlanks rest)).BeginsWord accepts := by
  intro cursor reached member
  refine ⟨?_, DeclarationForm.exists_markBehindWord_of_keyword
    (fun keyword isKeyword => (areWords keyword isKeyword).2) refuses begins member⟩
  rcases mem_ends_seq.mp member with ⟨_, inKeyword, _⟩
  rcases DeclarationForm.mem_ends_keywords.mp inKeyword with ⟨keyword, isKeyword, _, ahead, _⟩
  rcases areWords keyword isKeyword with ⟨nonempty, isName⟩
  exact SelfCall.isWordAhead_of_name nonempty isName ahead

/-- Before the end of a part without word characters no word begins. -/
theorem any_isWord_head?_of_split {part rest passed after : Text}
    (wordless : ∀ character ∈ part, isWord character = false)
    (split : part ++ rest = passed ++ after) (inside : passed.length < part.length) :
    after.head?.any isWord = false := by
  have ahead : after = part.drop passed.length ++ rest := by
    rw [← List.drop_append_of_le_length (Nat.le_of_lt inside), split, List.drop_left]
  have begun : part.drop passed.length ≠ [] := by
    rw [ne_eq, List.drop_eq_nil_iff]
    exact Nat.not_le_of_lt inside
  rcases List.exists_cons_of_ne_nil begun with ⟨head, tail, drop⟩
  have inPart : head ∈ part := List.mem_of_mem_drop (drop ▸ List.mem_cons_self)
  rw [ahead, drop, List.cons_append, List.head?_cons, Option.any_some]
  exact wordless head inPart

/-- Neither in the word nor up to what follows the refused mark does anything match. -/
theorem BeginsWord.isClear (begins : pattern.BeginsWord accepts) {word gap space : Text}
    {mark : Char} (isName : word.all isWord = true) (gapBlank : gap.isAllBlank = true)
    (spaceBlank : space.isAllBlank = true) (unworded : isWord mark = false)
    (inked : isBlank mark = false) (refused : accepts mark = false) (previous : Option Char)
    (rest : Text) :
    pattern.IsClear (word ++ (gap ++ mark :: space)).length previous
      (word ++ (gap ++ mark :: space) ++ rest) := by
  intro before after split short
  rw [Option.eq_none_iff_forall_not_mem]
  intro found matched
  rcases mem_ends_of_matchAt matched with ⟨_, member⟩
  rcases begins _ _ member with ⟨wordAhead, other, behind, accepted⟩
  rw [List.append_assoc] at split
  rcases List.append_eq_append_iff.mp split with ⟨passed, cut, later⟩ | ⟨ending, cut, ahead⟩
  · -- Behind the word no other begins before the rest.
    rw [cut, List.length_append, List.length_append] at short
    have wordless : ∀ character ∈ gap ++ mark :: space, isWord character = false := by
      rw [List.forall_mem_append, List.forall_mem_cons]
      exact ⟨fun character member =>
          refusesBlanks_isWord character (Text.isAllBlank_iff.mp gapBlank character member),
        unworded, fun character member =>
          refusesBlanks_isWord character (Text.isAllBlank_iff.mp spaceBlank character member)⟩
    have none := any_isWord_head?_of_split wordless later (Nat.lt_of_add_lt_add_left short)
    exact Bool.false_ne_true (none.symm.trans wordAhead)
  · -- In the word the mark behind it decides.
    rw [cut, List.all_append, Bool.and_eq_true] at isName
    have stands : after.markBehindWord = some mark := by
      rw [ahead, List.append_assoc, List.cons_append]
      exact Text.markBehindWord_eq isName.2 gapBlank inked (.inr unworded)
    rw [Option.some.inj (stands.symm.trans behind), accepted] at refused
    cases refused

theorem BeginsWord.searchFrom_refused (begins : pattern.BeginsWord accepts) {word gap space : Text}
    {mark : Char} (isName : word.all isWord = true) (gapBlank : gap.isAllBlank = true)
    (spaceBlank : space.isAllBlank = true) (unworded : isWord mark = false)
    (inked : isBlank mark = false) (refused : accepts mark = false) (previous : Option Char)
    (rest : Text) :
    pattern.searchFrom previous (word ++ (gap ++ mark :: space) ++ rest) =
      pattern.searchFrom (space.getLast?.or (some mark)) rest := by
  rw [searchFrom_of_isClear (begins.isClear isName gapBlank spaceBlank unworded inked refused
    previous rest), Cursor.getLast?_append_or, Cursor.getLast?_append_or, Cursor.getLast?_cons_or]

end

end Pattern

open Pattern

namespace DeclarationForm

/-- What stands behind the first word of a declaration without a primitive type. -/
def isMarkBehindWord (character : Char) : Bool :=
  isTypeChar character || character == '='

theorem beginsWord_pattern {form : DeclarationForm} (other : form ≠ .typed) :
    form.pattern.BeginsWord isMarkBehindWord := by
  have ofType : ∀ mark, isTypeChar mark = true → isMarkBehindWord mark = true :=
    fun mark accepted => by rw [isMarkBehindWord, accepted, Bool.true_or]
  have ofWord : ∀ mark, isWord mark = true → isMarkBehindWord mark = true :=
    fun mark accepted => ofType mark (by rw [isTypeChar, accepted, Bool.true_or])
  cases form with
  | qualified =>
      exact (beginsWord_keywords (by decide) refusesBlanks_isTypeChar
        ((begins_atLeastOne isTypeChar).inOrder _)).mono ofType
  | constFunction =>
      exact (beginsWord_keywords (by decide) refusesBlanks_isWord
        (begins_name.inOrder _)).mono ofWord
  | assignedFunction =>
      intro cursor reached member
      have marked : reached ∈ (inOrder ([DeclarationForm.name, blanks, Pattern.char '='] ++
        [blanks, exactly "function", blanks, Pattern.char '('])).ends cursor := member
      rcases exists_name_before_mark rfl marked with
        ⟨name, gap, after, takes, blank, nonempty, isName, _⟩
      have ahead := takes.1
      rw [List.append_assoc, List.append_assoc, List.cons_append] at ahead
      refine ⟨SelfCall.isWordAhead_of_name nonempty isName ahead, '=', ?_, rfl⟩
      rw [ahead]
      exact Text.markBehindWord_eq isName blank rfl (.inr rfl)
  | bare =>
      exact ((beginsWord_keywords (by decide) refusesBlanks_isWord
        (begins_name.inOrder _)).mono ofWord).boundary_seq
  | typed => exact absurd rfl other

end DeclarationForm

namespace SelfCall

theorem beginsWord_callPattern {name : Text} (nonempty : name ≠ [])
    (isName : name.all isWord = true) : (callPattern name).BeginsWord (· == '(') := by
  intro cursor reached member
  rcases mem_ends_callPattern member with ⟨_, gap, blank, ahead⟩
  refine ⟨isWordAhead_of_name nonempty isName ahead, '(', ?_, rfl⟩
  rw [ahead]
  exact Text.markBehindWord_eq isName blank rfl (.inr rfl)

end SelfCall

end GrowthGauge
