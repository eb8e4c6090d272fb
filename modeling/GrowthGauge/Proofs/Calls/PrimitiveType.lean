import GrowthGauge.Proofs.Calls.Accounting
import GrowthGauge.Proofs.Calls.WordMark

namespace GrowthGauge

open Pattern

/-! ## Declarations with a primitive type

A declaration with a primitive type begins its line. The blanks before its name are needed
even behind a pointer or reference mark. -/

theorem Text.any_isBlank_head?_of_isWord {text : Text} (isName : text.head?.any isWord = true) :
    text.head?.any isBlank = false := by
  cases text with
  | nil => rfl
  | cons head tail => exact isBlank_of_isWord isName

namespace DeclarationForm

theorem spells_keywords_iff {names : List String} {run : Text} :
    (keywords names).Spells run ↔ ∃ keyword ∈ names, run = keyword.toList := by
  rw [keywords, spells_firstOf_iff]
  constructor
  · rintro ⟨_, member, spelt⟩
    rcases List.mem_map.mp member with ⟨keyword, isKeyword, rfl⟩
    exact ⟨keyword, isKeyword, spells_literal_iff.mp spelt⟩
  · rintro ⟨keyword, isKeyword, rfl⟩
    exact ⟨_, List.mem_map_of_mem isKeyword, spells_literal_iff.mpr rfl⟩

theorem isOpenEnded_keywords (names : List String) : (keywords names).IsOpenEnded := by
  apply isOpenEnded_firstOf
  intro pattern member
  rcases List.mem_map.mp member with ⟨keyword, _, rfl⟩
  exact isOpenEnded_literal keyword.toList

theorem exists_end_name {word following : Text} (nonempty : word ≠ [])
    (isName : word.all isWord = true) {cursor : Cursor} (ahead : cursor.ahead = word ++ following) :
    ∃ reached ∈ name.ends cursor, reached.ahead = following :=
  ⟨_, mem_ends_named.mpr ⟨_, covers_atLeastOne nonempty isName cursor following ahead, rfl⟩, rfl⟩

/-- The name that is marked is the word before the parenthesis. -/
theorem name_of_mem_ends {tail : List Pattern} (nameless : (inOrder tail).isNameless = true)
    {cursor reached : Cursor}
    (member : reached ∈ (inOrder ([name, blanks, Pattern.char '('] ++ tail)).ends cursor)
    {word after : Text} (isName : word.all isWord = true)
    (ahead : cursor.ahead = word ++ '(' :: after) : reached.name.map Span.text = some word := by
  rcases exists_name_before_mark nameless member with
    ⟨other, gap, rest, takes, blank, _, isOther, named⟩
  have wordless : isWord '(' = false := rfl
  have otherEnds : (gap ++ '(' :: (rest ++ reached.ahead)).head?.any isWord = false :=
    Text.any_isWord_head?_append (Text.any_isWord_head?_of_isAllBlank blank) wordless
  have ends : ('(' :: after).head?.any isWord = false := wordless
  rw [takes.1] at ahead
  simp only [List.append_assoc, List.cons_append] at ahead
  rw [named, (Text.eq_of_run_append isOther isName otherEnds ends ahead).1]

theorem covers_keywords {names : List String} {keyword : String} (member : keyword ∈ names) :
    (keywords names).Covers keyword.toList := by
  intro cursor following ahead
  exact mem_ends_keywords.mpr ⟨keyword, member, following, ahead, rfl⟩

theorem begins_keywords {names : List String}
    (areWords : ∀ keyword ∈ names, keyword.toList ≠ [] ∧ keyword.toList.all isWord = true) :
    (keywords names).Begins isWord := by
  intro cursor reached member
  rcases mem_ends_keywords.mp member with ⟨keyword, isKeyword, following, ahead, _⟩
  rcases areWords keyword isKeyword with ⟨nonempty, isName⟩
  rcases List.exists_cons_of_ne_nil nonempty with ⟨head, tail, split⟩
  rw [split, List.all_cons, Bool.and_eq_true] at isName
  exact ⟨head, tail ++ following, by rw [ahead, split, List.cons_append], isName.1⟩

/-- What stands before the name. -/
def typedFront : List Pattern :=
  [many IndentedHeader.isTabOrSpace, repeated (seq (keywords storageWords) someBlanks),
    keywords primitiveTypes, blanks, perhaps (one isPointerMark), someBlanks]

/-- What follows the opening parenthesis. -/
def typedBack : List Pattern :=
  [many isParameterChar, Pattern.char ')', blanks, perhaps (seq (exactly "const") blanks),
    perhaps (Pattern.char '{'), blanks]

theorem pattern_typed : typed.pattern = inOrder (lineStart :: (typedFront ++
    ([DeclarationForm.name, blanks, Pattern.char '('] ++ (typedBack ++ [lineEnd])))) :=
  rfl

theorem mem_ends_typed_iff {cursor reached : Cursor} :
    reached ∈ typed.pattern.ends cursor ↔ cursor.previous.all (· == '\n') = true ∧
      reached ∈ (inOrder (typedFront ++ ([DeclarationForm.name, blanks, Pattern.char '('] ++
        (typedBack ++ [lineEnd])))).ends cursor := by
  rw [pattern_typed, mem_ends_inOrder_cons]
  constructor
  · rintro ⟨_, atStart, inRest⟩
    rcases IndentedHeader.mem_ends_lineStart_iff.mp atStart with ⟨breaks, rfl⟩
    exact ⟨breaks, inRest⟩
  · rintro ⟨breaks, inRest⟩
    exact ⟨cursor, IndentedHeader.mem_ends_lineStart_iff.mpr ⟨breaks, rfl⟩, inRest⟩

theorem isWord_primitiveTypes : ∀ type ∈ primitiveTypes,
    type.toList ≠ [] ∧ type.toList.all isWord = true := by
  decide

theorem isWord_storageWords : ∀ word ∈ storageWords,
    word.toList ≠ [] ∧ word.toList.all isWord = true := by
  decide

theorem storageWords_disjoint_primitiveTypes : ∀ word ∈ storageWords, ∀ type ∈ primitiveTypes,
    word.toList ≠ type.toList := by
  decide

theorem eq_of_isPointerMark {mark : Char} (isMark : isPointerMark mark = true) :
    mark = '*' ∨ mark = '&' := by
  simpa [isPointerMark] using isMark

theorem isWord_of_isPointerMark {mark : Char} (isMark : isPointerMark mark = true) :
    isWord mark = false := by
  rcases eq_of_isPointerMark isMark with rfl | rfl <;> rfl

theorem isBlank_of_isPointerMark {mark : Char} (isMark : isPointerMark mark = true) :
    isBlank mark = false := by
  rcases eq_of_isPointerMark isMark with rfl | rfl <;> rfl

theorem isMarkBehindWord_of_isPointerMark {mark : Char} (isMark : isPointerMark mark = true) :
    isMarkBehindWord mark = false := by
  rcases eq_of_isPointerMark isMark with rfl | rfl <;> rfl

theorem isOpenEnded_typedFront : (inOrder typedFront).IsOpenEnded :=
  ⟨trivial, ⟨isOpenEnded_keywords _, trivial, trivial⟩, isOpenEnded_keywords _, trivial,
    ⟨trivial, trivial⟩, trivial, trivial⟩

theorem covers_typedFront {type : String} (isType : type ∈ primitiveTypes) {mark : Char}
    (isMark : isPointerMark mark = true) :
    (inOrder typedFront).Covers (type.toList ++ [mark, ' ']) := by
  have marked : (perhaps (one isPointerMark)).Covers [mark] :=
    covers_preferred (covers_one isMark) nothing
  have spaced : someBlanks.Covers [' '] :=
    covers_atLeastOne (List.cons_ne_nil ' ' []) rfl
  have covers : (inOrder typedFront).Covers [[], [], type.toList, [], [mark], [' ']].flatten :=
    covers_inOrder (.cons (covers_many_nil _) (.cons (covers_repeated_nil _)
      (.cons (covers_keywords isType) (.cons (covers_many_nil _)
        (.cons marked (.cons spaced .nil))))))
  simpa using covers

theorem covers_typedBack {parameters : Text} (accepted : parameters.all isParameterChar = true) :
    (inOrder ([blanks, Pattern.char '('] ++ typedBack)).Covers
      ('(' :: (parameters ++ [')', ' ', '{'])) := by
  have listed : (many isParameterChar).Covers parameters :=
    covers_many (List.all_eq_true.mp accepted)
  have blank : [' '].all isBlank = true := rfl
  have spaced : blanks.Covers [' '] := covers_many (List.all_eq_true.mp blank)
  have opened : (perhaps (Pattern.char '{')).Covers ['{'] :=
    covers_preferred (covers_char '{') nothing
  have covers : (inOrder ([blanks, Pattern.char '('] ++ typedBack)).Covers
      [[], ['('], parameters, [')'], [' '], [], ['{'], []].flatten :=
    covers_inOrder (.cons (covers_many_nil _) (.cons (covers_char '(') (.cons listed
      (.cons (covers_char ')') (.cons spaced (.cons (covers_perhaps_nil _) (.cons opened
        (.cons (covers_many_nil _) .nil))))))))
  simpa using covers

/-- What may stand before the name of a declaration with a primitive type. -/
structure IsTypedFront (indent : Text) (rounds : List Text) (type : String)
    (gap marks space : Text) : Prop where
  indented : indent.all IndentedHeader.isTabOrSpace = true
  storage : ∀ round ∈ rounds, ∃ word ∈ storageWords, ∃ behind : Text,
    round = word.toList ++ behind ∧ behind ≠ [] ∧ behind.isAllBlank = true
  isType : type ∈ primitiveTypes
  gapBlank : gap.isAllBlank = true
  marked : marks = [] ∨ ∃ mark, marks = [mark] ∧ isPointerMark mark = true
  spaced : space ≠ []
  spaceBlank : space.isAllBlank = true

theorem exists_of_spells_typedFront {run : Text} (spelt : (inOrder typedFront).Spells run) :
    ∃ indent rounds type gap marks space, IsTypedFront indent rounds type gap marks space ∧
      run = indent ++ (rounds.flatten ++ (type.toList ++ (gap ++ (marks ++ space)))) := by
  rcases spells_inOrder_cons_iff.mp spelt with ⟨indent, _, rfl, indented, behindIndent⟩
  rcases spells_inOrder_cons_iff.mp behindIndent with
    ⟨_, _, rfl, ⟨rounds, rfl, areRounds⟩, behindRounds⟩
  rcases spells_inOrder_cons_iff.mp behindRounds with ⟨_, _, rfl, isKeyword, behindType⟩
  rcases spells_keywords_iff.mp isKeyword with ⟨type, isType, rfl⟩
  rcases spells_inOrder_cons_iff.mp behindType with ⟨gap, _, rfl, isGap, behindGap⟩
  rcases spells_inOrder_cons_iff.mp behindGap with ⟨marks, space, rfl, areMarks, isSpace⟩
  rcases spells_atLeastOne_iff.mp isSpace with ⟨spaced, spaceBlank⟩
  refine ⟨indent, rounds, type, gap, marks, space, ?_, rfl⟩
  refine ⟨spells_many_iff.mp indented, fun round member => ?_, isType, spells_many_iff.mp isGap,
    ?_, spaced, spaceBlank⟩
  · rcases areRounds round member with ⟨_, behind, rfl, isStorage, isBehind⟩
    rcases spells_keywords_iff.mp isStorage with ⟨word, isWord, rfl⟩
    exact ⟨word, isWord, behind, rfl, spells_atLeastOne_iff.mp isBehind⟩
  · rcases areMarks with ⟨mark, single, isMark⟩ | none
    · exact .inr ⟨mark, single, isMark⟩
    · exact .inl none

theorem any_isWord_head?_space {space : Text} (spaced : space ≠ [])
    (blank : space.isAllBlank = true) (rest : Text) :
    (space ++ rest).head?.any isWord = false := by
  rcases List.exists_cons_of_ne_nil spaced with ⟨head, tail, rfl⟩
  exact refusesBlanks_isWord head (Text.isAllBlank_cons.mp blank).1

section

variable {indent gap marks space following padding after : Text} {rounds : List Text}
  {type other : String} {mark : Char}
  (front : IsTypedFront indent rounds type gap marks space)
  (isType : other ∈ primitiveTypes) (isMark : isPointerMark mark = true)
  (paddingBlank : padding.isAllBlank = true)

include isMark paddingBlank in
theorem any_isWord_head?_mark :
    (padding ++ mark :: after).head?.any isWord = false :=
  Text.any_isWord_head?_append (Text.any_isWord_head?_of_isAllBlank paddingBlank)
    (isWord_of_isPointerMark isMark)

include front in
theorem IsTypedFront.any_isWord_head? (following : Text) :
    (gap ++ (marks ++ (space ++ following))).head?.any isWord = false := by
  have spaced := any_isWord_head?_space front.spaced front.spaceBlank following
  apply Text.any_isWord_head?_append (Text.any_isWord_head?_of_isAllBlank front.gapBlank)
  rcases front.marked with rfl | ⟨mark, rfl, isMark⟩
  · exact spaced
  · exact isWord_of_isPointerMark isMark

include front isType isMark paddingBlank in
/-- A type is neither indented nor preceded by a storage word where it stands first. -/
theorem IsTypedFront.unpreceded
    (same : indent ++ (rounds.flatten ++ (type.toList ++ (gap ++ (marks ++
      (space ++ following))))) = other.toList ++ (padding ++ mark :: after)) :
    indent = [] ∧ rounds.flatten = [] := by
  rcases isWord_primitiveTypes other isType with ⟨nonempty, isName⟩
  have unindented : indent = [] := by
    cases indent with
    | nil => rfl
    | cons head tail =>
        rcases List.exists_cons_of_ne_nil nonempty with ⟨first, rest, split⟩
        rw [split] at same isName
        have equal : head = first := (List.cons_eq_cons.mp same).1
        have indented := front.indented
        rw [List.all_cons, Bool.and_eq_true] at indented
        rw [List.all_cons, Bool.and_eq_true, ← equal] at isName
        have blank := isBlank_of_isTabOrSpace indented.1
        rw [isBlank_of_isWord isName.1] at blank
        cases blank
  refine ⟨unindented, ?_⟩
  cases rounds with
  | nil => rfl
  | cons round more =>
      rcases front.storage round List.mem_cons_self with
        ⟨word, isStorage, behind, rfl, spaced, blank⟩
      rw [unindented, List.nil_append, List.flatten_cons, List.append_assoc,
        List.append_assoc] at same
      have words := Text.eq_of_run_append (isWord_storageWords word isStorage).2 isName
        (any_isWord_head?_space spaced blank _) (any_isWord_head?_mark isMark paddingBlank) same
      exact absurd words.1 (storageWords_disjoint_primitiveTypes word isStorage other isType)

include front isType isMark paddingBlank in
/-- What follows the mark behind a type are blanks. -/
theorem IsTypedFront.after_eq (wordAhead : following.head?.any isWord = true)
    (same : indent ++ (rounds.flatten ++ (type.toList ++ (gap ++ (marks ++
      (space ++ following))))) = other.toList ++ (padding ++ mark :: after)) :
    after = space ++ following := by
  rcases front.unpreceded isType isMark paddingBlank same with ⟨unindented, unpreceded⟩
  rw [unindented, unpreceded, List.nil_append, List.nil_append] at same
  have behind := (Text.eq_of_run_append (isWord_primitiveTypes type front.isType).2
    (isWord_primitiveTypes other isType).2 (front.any_isWord_head? following)
    (any_isWord_head?_mark isMark paddingBlank) same).2
  have inked := Text.any_isBlank_head?_of_isWord wordAhead
  have markInked : (mark :: after).head?.any isBlank = false := isBlank_of_isPointerMark isMark
  rcases front.marked with rfl | ⟨first, rfl, isFirst⟩
  · -- Without a mark of its own the name would begin with the other mark.
    rw [List.nil_append, ← List.append_assoc] at behind
    have rests := (Text.eq_of_run_append
      (Text.isAllBlank_append.mpr ⟨front.gapBlank, front.spaceBlank⟩) paddingBlank inked
      markInked behind).2
    rw [rests] at wordAhead
    exact absurd wordAhead (Bool.eq_false_iff.mp (isWord_of_isPointerMark isMark))
  · have firstInked : (first :: (space ++ following)).head?.any isBlank = false :=
      isBlank_of_isPointerMark isFirst
    have rests := (Text.eq_of_run_append front.gapBlank paddingBlank firstInked markInked behind).2
    exact (List.cons_eq_cons.mp rests).2.symm

end

/-- Blanks have to stand between the mark behind a type and the name. -/
theorem exists_space_of_mem_ends {cursor reached : Cursor} {rest : List Pattern}
    (member : reached ∈ (inOrder (typedFront ++ DeclarationForm.name :: rest)).ends cursor)
    {type : String} (isType : type ∈ primitiveTypes) {gap after : Text} {mark : Char}
    (gapBlank : gap.isAllBlank = true) (isMark : isPointerMark mark = true)
    (ahead : cursor.ahead = type.toList ++ (gap ++ mark :: after)) :
    ∃ (middle : Cursor) (space : Text),
      reached ∈ (inOrder (DeclarationForm.name :: rest)).ends middle ∧
        middle.isWordAhead = true ∧ after = space ++ middle.ahead ∧ space ≠ [] ∧
        space.isAllBlank = true := by
  rcases exists_ends_of_inOrder_append member with ⟨middle, inFront, inRest⟩
  rcases begins_name.inOrder rest middle reached inRest with ⟨head, tail, begins, isName⟩
  have wordAhead : middle.ahead.head?.any isWord = true := by rwa [begins]
  rcases (endsBehind_spells isOpenEnded_typedFront cursor middle).mp inFront with
    ⟨run, following, split, spelt, rfl⟩
  rcases exists_of_spells_typedFront spelt with
    ⟨indent, rounds, other, padding, marks, space, front, rfl⟩
  rw [ahead] at split
  simp only [List.append_assoc] at split
  exact ⟨_, space, inRest, wordAhead, front.after_eq isType isMark gapBlank wordAhead split.symm,
    front.spaced, front.spaceBlank⟩

end DeclarationForm

end GrowthGauge
