import GrowthGauge.Proofs.Calls.Places
import GrowthGauge.Proofs.Layout.HeaderLine

namespace GrowthGauge

open Pattern

/-! ## Where a declaration stands

A search takes the leftmost match. Two of the forms could begin inside a word, as nothing in
them asks for a boundary. -/

namespace DeclarationForm

theorem mem_ends_keywords {names : List String} {cursor reached : Cursor} :
    reached ∈ (keywords names).ends cursor ↔
      ∃ keyword ∈ names, ∃ following, cursor.ahead = keyword.toList ++ following ∧
        reached = cursor.behind keyword.toList following := by
  rw [keywords, mem_ends_firstOf]
  constructor
  · intro member
    rcases member with ⟨_, inTable, inKeyword⟩
    rcases List.mem_map.mp inTable with ⟨keyword, isKeyword, rfl⟩
    exact ⟨keyword, isKeyword, mem_ends_literal.mp inKeyword⟩
  · intro member
    rcases member with ⟨keyword, isKeyword, inKeyword⟩
    exact ⟨exactly keyword, List.mem_map_of_mem isKeyword, mem_ends_literal.mpr inKeyword⟩

end DeclarationForm

/-! ### The mark behind a word

A declaration that begins inside a longer word begins with a keyword there. What stands
behind the keyword tells it from a call. -/

namespace Text

/-- The first character behind the text's first word and the blanks after it. -/
def markBehindWord (text : Text) : Option Char :=
  (stripStart (text.dropWhile isWord)).head?

theorem markBehindWord_eq {word gap after : Text} {mark : Char} (isName : word.all isWord = true)
    (blank : gap.isAllBlank = true) (inked : isBlank mark = false)
    (ends : gap ≠ [] ∨ isWord mark = false) :
    markBehindWord (word ++ (gap ++ mark :: after)) = some mark := by
  have rest : List.dropWhile isWord (gap ++ mark :: after) = gap ++ mark :: after := by
    cases gap with
    | nil => exact List.dropWhile_cons_of_neg (by simpa using ends)
    | cons head tail =>
        have refused := refusesBlanks_isWord head (isAllBlank_cons.mp blank).1
        exact List.dropWhile_cons_of_neg (by simp [refused])
  rw [markBehindWord, List.dropWhile_append_of_pos (List.all_eq_true.mp isName), rest,
    stripStart_gap blank inked]
  rfl

end Text

/-- Every match begins with a character that is accepted. -/
def Pattern.Begins (pattern : Pattern) (accepts : Char → Bool) : Prop :=
  ∀ cursor reached, reached ∈ pattern.ends cursor →
    ∃ mark after, cursor.ahead = mark :: after ∧ accepts mark = true

namespace Pattern

theorem begins_atLeastOne (accepts : Char → Bool) : (atLeastOne accepts).Begins accepts := by
  intro cursor reached member
  rcases mem_ends_seq.mp member with ⟨_, inFirst, _⟩
  rcases mem_ends_one.mp inFirst with ⟨mark, after, ahead, accepted, _⟩
  exact ⟨mark, after, ahead, accepted⟩

theorem begins_name : DeclarationForm.name.Begins isWord := by
  intro cursor reached member
  rcases mem_ends_named.mp member with ⟨_, inWord, _⟩
  exact begins_atLeastOne isWord cursor _ inWord

theorem Begins.inOrder {first : Pattern} {accepts : Char → Bool} (begins : first.Begins accepts)
    (rest : List Pattern) : (inOrder (first :: rest)).Begins accepts := by
  intro cursor reached member
  rcases mem_ends_inOrder_cons.mp member with ⟨_, inFirst, _⟩
  exact begins cursor _ inFirst

theorem Begins.mono {accepts more : Char → Bool} {pattern : Pattern}
    (begins : pattern.Begins accepts)
    (imp : ∀ character, accepts character = true → more character = true) :
    pattern.Begins more := by
  intro cursor reached member
  rcases begins cursor reached member with ⟨mark, after, ahead, accepted⟩
  exact ⟨mark, after, ahead, imp mark accepted⟩

theorem Begins.many_seq {accepts skips : Char → Bool} {rest : Pattern}
    (imp : ∀ character, skips character = true → accepts character = true)
    (begins : rest.Begins accepts) : (seq (many skips) rest).Begins accepts := by
  intro cursor reached member
  rcases mem_ends_seq.mp member with ⟨middle, inRun, inRest⟩
  rcases mem_ends_many.mp inRun with ⟨run, following, ahead, skipped, rfl⟩
  cases run with
  | nil =>
      rcases begins _ _ inRest with ⟨mark, after, split, accepted⟩
      exact ⟨mark, after, ahead.trans split, accepted⟩
  | cons head tail =>
      exact ⟨head, tail ++ following, ahead, imp head (skipped head List.mem_cons_self)⟩

theorem Begins.repeated_seq {accepts : Char → Bool} {body rest : Pattern}
    (bodyBegins : body.Begins accepts) (begins : rest.Begins accepts) :
    (seq (repeated body) rest).Begins accepts := by
  intro cursor reached member
  rcases mem_ends_seq.mp member with ⟨middle, inRounds, inRest⟩
  rw [ends] at inRounds
  cases count : cursor.ahead.length with
  | zero =>
      rw [count, roundEnds, List.mem_singleton] at inRounds
      exact begins cursor reached (inRounds ▸ inRest)
  | succ rounds =>
      rw [count, roundEnds, List.mem_append, List.mem_flatMap, List.mem_singleton] at inRounds
      rcases inRounds with ⟨_, inBody, _⟩ | stop
      · exact bodyBegins cursor _ inBody
      · exact begins cursor reached (stop ▸ inRest)

end Pattern

namespace DeclarationForm

/-- Behind a keyword and the blanks after it stands what the rest of the form begins with. -/
theorem exists_markBehindWord_of_keyword {names : List String}
    (areWords : ∀ keyword ∈ names, keyword.toList.all isWord = true) {accepts : Char → Bool}
    (refuses : RefusesBlanks accepts) {rest : Pattern} (begins : rest.Begins accepts)
    {cursor reached : Cursor}
    (member : reached ∈ (seq (keywords names) (seq someBlanks rest)).ends cursor) :
    ∃ mark, cursor.ahead.markBehindWord = some mark ∧ accepts mark = true := by
  rcases mem_ends_seq.mp member with ⟨_, inKeyword, member⟩
  rcases mem_ends_seq.mp member with ⟨_, inSpace, inRest⟩
  rcases mem_ends_keywords.mp inKeyword with ⟨keyword, isKeyword, _, ahead, rfl⟩
  rcases exists_run_of_atLeastOne inSpace with ⟨space, _, split, spaced, blank, rfl⟩
  rcases begins _ _ inRest with ⟨mark, after, starts, accepted⟩
  have inked : isBlank mark = false := by
    rw [Bool.eq_false_iff]
    intro isGap
    exact Bool.false_ne_true ((refuses mark isGap).symm.trans accepted)
  rw [Cursor.behind_ahead] at split starts
  refine ⟨mark, ?_, accepted⟩
  rw [ahead, split, starts,
    Text.markBehindWord_eq (areWords keyword isKeyword) blank inked (.inl spaced)]

/-- No call is ahead where a keyword has to be followed by something else than a parenthesis. -/
theorem markBehindWord_ne_of_keyword {names : List String}
    (areWords : ∀ keyword ∈ names, keyword.toList.all isWord = true) {accepts : Char → Bool}
    (refuses : RefusesBlanks accepts) (refusesParen : accepts '(' = false) {rest : Pattern}
    (begins : rest.Begins accepts) {cursor reached : Cursor}
    (member : reached ∈ (seq (keywords names) (seq someBlanks rest)).ends cursor) :
    cursor.ahead.markBehindWord ≠ some '(' := by
  rcases exists_markBehindWord_of_keyword areWords refuses begins member with
    ⟨mark, behind, accepted⟩
  rw [behind]
  intro paren
  rw [Option.some.inj paren, refusesParen] at accepted
  cases accepted

/-! ### Beginnings of words

Three of the forms never begin inside a word: one looks for a boundary, one for the start of a
line, and an assignment would match further left. -/

theorem isWordBehind_of_bare {cursor reached : Cursor}
    (member : reached ∈ bare.pattern.ends cursor) : cursor.isWordBehind = false := by
  have areWords : ∀ keyword ∈ ["function", "def"],
      keyword.toList ≠ [] ∧ keyword.toList.all isWord = true := by decide
  rcases mem_ends_inOrder_cons.mp member with ⟨_, atBoundary, member⟩
  rcases mem_ends_inOrder_cons.mp member with ⟨_, inKeyword, _⟩
  rcases mem_ends_keywords.mp inKeyword with ⟨keyword, isKeyword, _, ahead, _⟩
  rcases areWords keyword isKeyword with ⟨nonempty, isName⟩
  have wordAhead := SelfCall.isWordAhead_of_name nonempty isName ahead
  rw [eq_of_mem_ite_not atBoundary] at wordAhead
  rw [Bool.eq_false_iff]
  intro wordBehind
  rw [ends, wordBehind, wordAhead] at atBoundary
  cases atBoundary

theorem isWordBehind_of_typed {cursor reached : Cursor}
    (member : reached ∈ typed.pattern.ends cursor) : cursor.isWordBehind = false := by
  rcases mem_ends_inOrder_cons.mp member with ⟨_, atStart, _⟩
  have breaks := (IndentedHeader.mem_ends_lineStart_iff.mp atStart).1
  rw [Cursor.isWordBehind]
  cases last : cursor.previous with
  | none => rfl
  | some character =>
      rw [last, Option.all_some, beq_iff_eq] at breaks
      rw [breaks]
      rfl

/-- What follows the name of a function that is assigned. -/
def assignmentText : List Pattern :=
  [blanks, char '=', blanks, exactly "function", blanks, char '(']

theorem isOpenEnded_assignmentText : (inOrder assignmentText).IsOpenEnded :=
  ⟨trivial, trivial, trivial, isOpenEnded_literal _, trivial, trivial⟩

/-- A name that an assignment follows may have one more character. -/
theorem exists_mem_ends_assignedFunction {cursor reached : Cursor}
    (member : reached ∈ assignedFunction.pattern.ends cursor) {character : Char}
    (wordBehind : isWord character = true) (previous : Option Char) :
    ∃ other, other ∈ assignedFunction.pattern.ends
      ⟨previous, character :: cursor.ahead, none⟩ := by
  rcases mem_ends_inOrder_cons.mp member with ⟨marked, inName, inRest⟩
  rcases mem_ends_named.mp inName with ⟨_, inWord, rfl⟩
  rcases exists_run_of_atLeastOne inWord with ⟨name, following, ahead, nonempty, isName, rfl⟩
  have longer : wordRun.Covers ([character] ++ name) :=
    covers_seq (covers_one wordBehind) (covers_many (List.all_eq_true.mp isName))
  have inLonger := longer ⟨previous, character :: cursor.ahead, none⟩ following
    (congrArg (character :: ·) ahead)
  have named : ∃ middle ∈ DeclarationForm.name.ends ⟨previous, character :: cursor.ahead, none⟩,
      middle.ahead = following := ⟨_, mem_ends_named.mpr ⟨_, inLonger, rfl⟩, rfl⟩
  rcases named with ⟨middle, inLongerName, split⟩
  rcases exists_mem_ends_of_ahead_eq isOpenEnded_assignmentText inRest split with ⟨other, again⟩
  exact ⟨other, mem_ends_inOrder_cons.mpr ⟨middle, inLongerName, again⟩⟩

theorem isWordBehind_of_assigned {snippet : Text} {found : Match}
    (search : assignedFunction.pattern.search? snippet = some found) :
    found.start.isWordBehind = false := by
  rcases exists_leftmost_of_searchFrom search with ⟨before, ahead, split, clear, matched⟩
  rcases mem_ends_of_matchAt matched with ⟨start, member⟩
  rw [start, Cursor.isWordBehind, Option.or_none]
  rcases List.eq_nil_or_concat before with rfl | ⟨front, last, rfl⟩
  · rfl
  · rw [List.concat_eq_append] at split clear ⊢
    rw [List.getLast?_concat, Option.any_some, Bool.eq_false_iff]
    intro wordBehind
    have longer := exists_mem_ends_assignedFunction member wordBehind front.getLast?
    rw [← matchAt_isSome_iff] at longer
    have refused := clear front (last :: ahead) (by rw [split, List.append_assoc]; rfl) (by simp)
    rw [Option.or_none] at refused
    rw [refused] at longer
    cases longer

end DeclarationForm

/-! ### Names and marks -/

/-- The match has its name in it, behind no word character and before the mark. -/
def Match.HasNameBefore (found : Match) (mark : Char) : Prop :=
  ∃ front name gap after : Text,
    found.text = front ++ (name ++ (gap ++ mark :: after)) ∧ found.name = some name ∧
      gap.isAllBlank = true ∧ (front.getLast?.or found.start.previous).any isWord = false

theorem Pattern.hasNameBefore_of_spaced (front tail : List Pattern) {mark : Char}
    (nameless : (inOrder tail).isNameless = true) {found : Match}
    (member : found.stop ∈ (inOrder (front ++
      ([someBlanks, DeclarationForm.name, blanks, char mark] ++ tail))).ends found.start) :
    found.HasNameBefore mark := by
  rcases exists_name_of_mem_ends nameless member with
    ⟨front, name, gap, after, takes, blankBehind, blank, _, _, named⟩
  exact ⟨front, name, gap, after, text_of_takes takes, named, blank,
    any_isWord_of_any_isBlank blankBehind found.start.previous⟩

namespace DeclarationForm

/-- What follows the name of a declaration. -/
def mark : DeclarationForm → Char
  | qualified | bare | typed => '('
  | constFunction | assignedFunction => '='

theorem isWord_mark (form : DeclarationForm) : isWord form.mark = false := by
  cases form <;> rfl

theorem hasNameBefore_mark {form : DeclarationForm} {snippet : Text} {found : Match}
    (search : form.pattern.search? snippet = some found) : found.HasNameBefore form.mark := by
  have member := mem_ends_of_search? search
  cases form with
  | qualified =>
      exact hasNameBefore_of_spaced [keywords _, someBlanks, atLeastOne isTypeChar] [] rfl member
  | constFunction =>
      exact hasNameBefore_of_spaced [keywords _] [blanks, perhaps _, functionValue] rfl member
  | assignedFunction =>
      have marked : found.stop ∈ (inOrder ([DeclarationForm.name, blanks, char '='] ++
        [blanks, exactly "function", blanks, char '('])).ends found.start := member
      rcases exists_name_before_mark rfl marked with ⟨name, gap, after, takes, blank, _, _, named⟩
      exact ⟨[], name, gap, after, text_of_takes takes, named, blank,
        isWordBehind_of_assigned search⟩
  | bare => exact hasNameBefore_of_spaced [boundary, keywords _] [] rfl member
  | typed =>
      exact hasNameBefore_of_spaced
        [lineStart, many _, repeated _, keywords primitiveTypes, blanks, perhaps _]
        [many isParameterChar, char ')', blanks, perhaps _, perhaps _, blanks, lineEnd] rfl member

/-- No call begins with a declaration that stands behind a word character. -/
theorem markBehindWord_ne_paren {form : DeclarationForm} {snippet : Text} {found : Match}
    (search : form.pattern.search? snippet = some found)
    (wordBehind : found.start.isWordBehind = true) :
    found.start.ahead.markBehindWord ≠ some '(' := by
  have member := mem_ends_of_search? search
  have inside : found.start.isWordBehind ≠ false := by simp [wordBehind]
  cases form with
  | qualified =>
      exact markBehindWord_ne_of_keyword (by decide) refusesBlanks_isTypeChar (by decide)
        ((begins_atLeastOne isTypeChar).inOrder _) member
  | constFunction =>
      exact markBehindWord_ne_of_keyword (by decide) refusesBlanks_isWord (by decide)
        (begins_name.inOrder _) member
  | assignedFunction => exact absurd (isWordBehind_of_assigned search) inside
  | bare => exact absurd (isWordBehind_of_bare member) inside
  | typed => exact absurd (isWordBehind_of_typed member) inside

end DeclarationForm

end GrowthGauge
