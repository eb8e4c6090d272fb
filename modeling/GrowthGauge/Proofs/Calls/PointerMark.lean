import GrowthGauge.Proofs.Calls.PrimitiveType

namespace GrowthGauge

open Pattern

/-! ## Pointer and reference marks

A function that returns a pointer or a reference has a mark between its type and its name.
The mark is read where blanks follow it. Where it stands at the name no declaration begins
with the type, so that the function is known only if something behind its name declares it. -/

namespace DeclarationForm

/-- The form of a primitive type is tried behind all others. -/
def untyped : List DeclarationForm :=
  [qualified, constFunction, assignedFunction, bare]

theorem all_eq_untyped_append : all = untyped ++ [typed] := rfl

theorem ne_typed_of_mem_untyped : ∀ form ∈ untyped, form ≠ typed := by decide

/-- The declaration that is found in one of the forms that are tried first. -/
def findUntyped? (snippet : Text) : Option Declaration :=
  untyped.findSome? (·.find? snippet)

theorem find?_eq_findUntyped?_or (snippet : Text) :
    Declaration.find? snippet = (findUntyped? snippet).or (typed.find? snippet) := by
  rw [Declaration.find?, all_eq_untyped_append, List.findSome?_append, findUntyped?,
    List.findSome?_cons, List.findSome?_nil]
  cases typed.find? snippet <;> rfl

theorem findUntyped?_congr {snippet other : Text}
    (same : ∀ form ∈ untyped, form.pattern.search? snippet = form.pattern.search? other) :
    findUntyped? snippet = findUntyped? other := by
  rw [findUntyped?, findUntyped?]
  generalize untyped = forms at same ⊢
  induction forms with
  | nil => rfl
  | cons form rest induction =>
      rcases List.forall_mem_cons.mp same with ⟨here, later⟩
      rw [List.findSome?_cons, List.findSome?_cons, find?, find?, here, induction later]

theorem form_of_find? {form : DeclarationForm} {snippet : Text} {declaration : Declaration}
    (found : form.find? snippet = some declaration) : declaration.form = form := by
  rcases Option.map_eq_some_iff.mp found with ⟨_, _, rfl⟩
  rfl

theorem form_ne_typed_of_findUntyped? {snippet : Text} {declaration : Declaration}
    (found : findUntyped? snippet = some declaration) : declaration.form ≠ typed := by
  rcases List.exists_of_findSome?_eq_some found with ⟨form, member, ofForm⟩
  rw [form_of_find? ofForm]
  exact ne_typed_of_mem_untyped form member

theorem refuses_paren_isMarkBehindWord : isMarkBehindWord '(' = false := rfl

/-- A declaration with a primitive type begins with its indentation or a word. -/
theorem begins_typed (rest : List Pattern) : (inOrder (typedFront ++ rest)).Begins
    fun character => IndentedHeader.isTabOrSpace character || isWord character := by
  have ofWord : ∀ character, isWord character = true →
      (IndentedHeader.isTabOrSpace character || isWord character) = true :=
    fun character accepted => by rw [accepted, Bool.or_true]
  have type := ((begins_keywords isWord_primitiveTypes).mono ofWord).inOrder
    ([blanks, perhaps (one isPointerMark), someBlanks] ++ rest)
  have storage := ((begins_keywords isWord_storageWords).mono ofWord).inOrder [someBlanks]
  apply Begins.many_seq (fun character accepted => by rw [accepted, Bool.true_or])
  exact Begins.repeated_seq storage type

end DeclarationForm

/-- A declaration with a primitive type is written as a call. -/
theorem Declaration.selfCalls_of_typed {snippet : Text} {declaration : Declaration}
    (found : find? snippet = some declaration) (form : declaration.form = .typed) :
    declaration.selfCalls snippet = snippet.callCount declaration.name - 1 := by
  rcases exists_standsBetween found with ⟨before, after, stands⟩
  have accounts := stands.accountsForCalls
  exact (accounts.of_called (accounts.called_of_form (by simp [form]))).2

/-- A function with a pointer or reference mark behind its type, and what follows it. -/
structure MarkedFunction where
  type : String
  mark : Char
  name : Text
  parameters : Text
  body : Text
  isType : type ∈ DeclarationForm.primitiveTypes
  isMark : DeclarationForm.isPointerMark mark = true
  nonempty : name ≠ []
  isName : name.all isWord = true
  areParameters : parameters.all DeclarationForm.isParameterChar = true

namespace MarkedFunction

/-- What follows the parenthesis. -/
def behindParen (function : MarkedFunction) : Text :=
  function.parameters ++ (')' :: ' ' :: '{' :: '\n' :: function.body)

def behindName (function : MarkedFunction) : Text :=
  '(' :: function.behindParen

/-- The function with the blanks before and behind its mark. -/
def spelling (function : MarkedFunction) (gap space : Text) : Text :=
  function.type.toList ++ (gap ++ function.mark :: (space ++
    (function.name ++ function.behindName)))

def markAtType (function : MarkedFunction) : Text :=
  function.spelling [] [' ']

def markAtName (function : MarkedFunction) : Text :=
  function.spelling [' '] []

theorem spelling_eq_append (function : MarkedFunction) (gap space : Text) :
    function.spelling gap space = function.type.toList ++ (gap ++ function.mark :: space) ++
      (function.name ++ function.behindName) := by
  rw [spelling, List.append_assoc, List.append_assoc, List.cons_append]

theorem isBlank_space : Text.isAllBlank [' '] = true := rfl

theorem isBlank_nil : Text.isAllBlank [] = true := rfl

variable (function : MarkedFunction)

/-! ### The other forms -/

section

variable {form : DeclarationForm} (other : form ≠ .typed)

include other

theorem searchFrom_paren {word : Text} (isName : word.all isWord = true)
    (previous : Option Char) :
    form.pattern.searchFrom previous (word ++ function.behindName) =
      form.pattern.searchFrom (some '(') function.behindParen := by
  have behind := (DeclarationForm.beginsWord_pattern other).searchFrom_refused isName
    isBlank_nil isBlank_nil rfl rfl
    DeclarationForm.refuses_paren_isMarkBehindWord previous function.behindParen
  rwa [List.append_assoc] at behind

theorem search?_spelling {gap space : Text} (gapBlank : gap.isAllBlank = true)
    (spaceBlank : space.isAllBlank = true) :
    form.pattern.search? (function.spelling gap space) =
      form.pattern.search? function.behindName := by
  have isTypeWord := (DeclarationForm.isWord_primitiveTypes _ function.isType).2
  rw [search?, spelling_eq_append, (DeclarationForm.beginsWord_pattern other).searchFrom_refused
    isTypeWord gapBlank spaceBlank (DeclarationForm.isWord_of_isPointerMark function.isMark)
    (DeclarationForm.isBlank_of_isPointerMark function.isMark)
    (DeclarationForm.isMarkBehindWord_of_isPointerMark function.isMark),
    function.searchFrom_paren other function.isName]
  exact (function.searchFrom_paren other List.all_nil none).symm

end

theorem findUntyped?_spelling {gap space : Text} (gapBlank : gap.isAllBlank = true)
    (spaceBlank : space.isAllBlank = true) :
    DeclarationForm.findUntyped? (function.spelling gap space) =
      DeclarationForm.findUntyped? function.behindName :=
  DeclarationForm.findUntyped?_congr fun form member =>
    function.search?_spelling (DeclarationForm.ne_typed_of_mem_untyped form member) gapBlank
      spaceBlank

/-! ### The form of a primitive type -/

theorem any_isWord_head?_name (rest : Text) :
    (function.name ++ rest).head?.any isWord = true := by
  have ahead : (Cursor.start (function.name ++ rest)).ahead = function.name ++ rest := rfl
  exact SelfCall.isWordAhead_of_name function.nonempty function.isName ahead

theorem lineFeed_not_mem_declared : '\n' ∉ function.type.toList ++ ' ' :: function.mark ::
    (function.name ++ ['(']) := by
  have ofWord : ∀ word : Text, word.all isWord = true → '\n' ∉ word := by
    intro word isName member
    exact absurd (List.all_eq_true.mp isName _ member) (by decide)
  have isTypeWord := (DeclarationForm.isWord_primitiveTypes _ function.isType).2
  have unmarked : '\n' ≠ function.mark := by
    rcases DeclarationForm.eq_of_isPointerMark function.isMark with mark | mark <;> simp [mark]
  simp only [List.mem_append, List.mem_cons, not_or]
  exact ⟨ofWord _ isTypeWord, by decide, unmarked, ofWord _ function.isName, by decide,
    List.not_mem_nil⟩

/-- A mark at the name hides the type from the search. -/
theorem typed_matchAt_markAtName :
    DeclarationForm.typed.pattern.matchAt ⟨none, function.markAtName, none⟩ = none := by
  rw [Option.eq_none_iff_forall_not_mem]
  intro found matched
  rcases mem_ends_of_matchAt matched with ⟨_, member⟩
  have inRest := (DeclarationForm.mem_ends_typed_iff.mp member).2
  -- The name would have to follow blanks behind the mark.
  rcases DeclarationForm.exists_space_of_mem_ends inRest function.isType isBlank_space
    function.isMark rfl with ⟨middle, space, _, _, split, spaced, blank⟩
  have wordAhead := function.any_isWord_head?_name function.behindName
  rw [List.nil_append] at split
  rw [split, DeclarationForm.any_isWord_head?_space spaced blank] at wordAhead
  cases wordAhead

theorem typed_matchAt_behindName :
    DeclarationForm.typed.pattern.matchAt ⟨none, function.behindName, none⟩ = none := by
  rw [Option.eq_none_iff_forall_not_mem]
  intro found matched
  rcases mem_ends_of_matchAt matched with ⟨_, member⟩
  have inRest := (DeclarationForm.mem_ends_typed_iff.mp member).2
  rcases DeclarationForm.begins_typed _ _ _ inRest with ⟨paren, after, ahead, accepted⟩
  rw [← (List.cons_eq_cons.mp ahead).1] at accepted
  exact absurd accepted (by decide)

/-- Where a line declares nothing from its start, the search goes on behind its parenthesis. -/
theorem typed_search?_paren {front : Text} (unfed : '\n' ∉ front ++ ['('])
    (start : DeclarationForm.typed.pattern.matchAt ⟨none, front ++ function.behindName, none⟩ =
      none) :
    DeclarationForm.typed.pattern.search? (front ++ function.behindName) =
      DeclarationForm.typed.pattern.searchFrom (some '(') function.behindParen := by
  have split : front ++ function.behindName = front ++ ['('] ++ function.behindParen :=
    (List.append_assoc front ['('] function.behindParen).symm
  rw [split] at start ⊢
  have clear : DeclarationForm.typed.pattern.IsClear (front ++ ['(']).length none
      (front ++ ['('] ++ function.behindParen) := isClear_of_lineStart unfed start
  rw [search?, searchFrom_of_isClear clear, List.getLast?_concat, Option.some_or]

theorem typed_search?_markAtName :
    DeclarationForm.typed.pattern.search? function.markAtName =
      DeclarationForm.typed.pattern.search? function.behindName := by
  have unfed := function.lineFeed_not_mem_declared
  have start := function.typed_matchAt_markAtName
  have split : function.markAtName = function.type.toList ++ ' ' :: function.mark ::
      function.name ++ function.behindName := by
    rw [markAtName, spelling_eq_append]
    simp
  have behind : '\n' ∉ ([] : Text) ++ ['('] := by decide
  rw [split] at start ⊢
  rw [← List.cons_append, ← List.cons_append, ← List.append_assoc] at unfed
  rw [function.typed_search?_paren unfed start]
  exact (function.typed_search?_paren behind function.typed_matchAt_behindName).symm

/-- The type with its mark is followed by a declaration. -/
theorem exists_mem_ends_markAtType :
    ∃ reached, reached ∈ DeclarationForm.typed.pattern.ends ⟨none, function.markAtType, none⟩ := by
  have ahead : (⟨none, function.markAtType, none⟩ : Cursor).ahead =
      function.type.toList ++ [function.mark, ' '] ++ (function.name ++
        ('(' :: (function.parameters ++ [')', ' ', '{']) ++ '\n' :: function.body)) := by
    simp [markAtType, spelling, behindName, behindParen]
  rcases (DeclarationForm.covers_typedFront function.isType function.isMark).exists_end ahead with
    ⟨start, inFront, startAhead⟩
  rcases DeclarationForm.exists_end_name function.nonempty function.isName startAhead with
    ⟨named, inName, namedAhead⟩
  rcases (DeclarationForm.covers_typedBack function.areParameters).exists_end namedAhead with
    ⟨opened, inBack, openedAhead⟩
  have atEnd : opened ∈ lineEnd.ends opened := by
    rw [ends, openedAhead]
    exact List.mem_singleton_self opened
  have inRest : opened ∈ (inOrder ([blanks, char '('] ++
      (DeclarationForm.typedBack ++ [lineEnd]))).ends named := by
    rw [← List.append_assoc]
    exact mem_ends_inOrder_append inBack atEnd
  exact ⟨opened, DeclarationForm.mem_ends_typed_iff.mpr ⟨rfl, mem_ends_inOrder_append inFront
    (mem_ends_inOrder_cons.mpr ⟨named, inName, inRest⟩)⟩⟩

theorem typed_find?_markAtType : ∃ text,
    DeclarationForm.typed.find? function.markAtType = some ⟨.typed, function.name, text⟩ := by
  have found := (matchAt_isSome_iff _ _).mpr function.exists_mem_ends_markAtType
  rcases Option.isSome_iff_exists.mp found with ⟨located, matched⟩
  rcases mem_ends_of_matchAt matched with ⟨_, member⟩
  have inRest := (DeclarationForm.mem_ends_typed_iff.mp member).2
  rcases DeclarationForm.exists_space_of_mem_ends inRest function.isType isBlank_nil
    function.isMark rfl with ⟨middle, space, atName, isWordAhead, split, _, blank⟩
  have inked :=
    Text.any_isBlank_head?_of_isWord (function.any_isWord_head?_name function.behindName)
  have ahead := (Text.eq_of_run_append isBlank_space blank inked
    (Text.any_isBlank_head?_of_isWord isWordAhead) split).2
  have named := DeclarationForm.name_of_mem_ends rfl atName function.isName ahead.symm
  refine ⟨located.text, ?_⟩
  rw [DeclarationForm.find?, search?, searchFrom_of_matchAt matched, Option.map_some, Match.name,
    named, Option.getD_some]

/-! ### Calls -/

section

variable {name : Text} (nonempty : name ≠ []) (isName : name.all isWord = true)

include nonempty isName

/-- Before the function's own name no call of any name begins. -/
theorem callCount_spelling {gap space : Text} (gapBlank : gap.isAllBlank = true)
    (spaceBlank : space.isAllBlank = true) :
    (function.spelling gap space).callCount name =
      (SelfCall.callPattern name).beginnings (some ' ') (function.name ++ function.behindName) := by
  have apart := SelfCall.isApart_callPattern nonempty isName
  have isTypeWord := (DeclarationForm.isWord_primitiveTypes _ function.isType).2
  have unworded := DeclarationForm.isWord_of_isPointerMark function.isMark
  have refused : (function.mark == '(') = false := by
    rcases DeclarationForm.eq_of_isPointerMark function.isMark with mark | mark <;> simp [mark]
  have clear := (SelfCall.beginsWord_callPattern nonempty isName).isClear isTypeWord gapBlank
    spaceBlank unworded (DeclarationForm.isBlank_of_isPointerMark function.isMark) refused none
    (function.name ++ function.behindName)
  have wordBehind : (space.getLast?.or (some function.mark)).any isWord = false := by
    cases last : space.getLast? with
    | none => exact unworded
    | some character =>
        have blank := Text.isAllBlank_iff.mp spaceBlank character (List.mem_of_getLast? last)
        exact refusesBlanks_isWord character blank
  rw [← SelfCall.length_allMatches_callPattern nonempty isName, allMatches,
    length_matchesFrom apart (isClear_zero _ _ _), spelling_eq_append, beginnings_of_isClear clear,
    Cursor.getLast?_append_or, Cursor.getLast?_append_or, Cursor.getLast?_cons_or]
  apply beginnings_eq (SelfCall.startsInked_callPattern nonempty isName)
    (SelfCall.keeps_callPattern isName) (.refl _)
  rw [wordBehind]
  rfl

theorem callCount_markAtName :
    function.markAtName.callCount name = function.markAtType.callCount name := by
  rw [markAtName, markAtType, function.callCount_spelling nonempty isName isBlank_space isBlank_nil,
    function.callCount_spelling nonempty isName isBlank_nil isBlank_space]

theorem count_markAtName (declaration : Text) :
    SelfCall.count name declaration function.markAtName =
      SelfCall.count name declaration function.markAtType := by
  rw [SelfCall.count, SelfCall.count, SelfCall.length_allMatches_callPattern nonempty isName,
    SelfCall.length_allMatches_callPattern nonempty isName,
    function.callCount_markAtName nonempty isName]

end

theorem find?_markAtName :
    Declaration.find? function.markAtName = Declaration.find? function.behindName := by
  rw [DeclarationForm.find?_eq_findUntyped?_or, DeclarationForm.find?_eq_findUntyped?_or,
    DeclarationForm.find?, DeclarationForm.find?, function.typed_search?_markAtName, markAtName,
    function.findUntyped?_spelling isBlank_space isBlank_nil]

theorem find?_markAtType : ∃ text, Declaration.find? function.markAtType =
    (DeclarationForm.findUntyped? function.behindName).or (some ⟨.typed, function.name, text⟩) := by
  rcases function.typed_find?_markAtType with ⟨text, found⟩
  refine ⟨text, ?_⟩
  rw [DeclarationForm.find?_eq_findUntyped?_or, found, markAtType,
    function.findUntyped?_spelling isBlank_nil isBlank_space]

/-- A declaration of the function's name, wherever it is found, has the same calls. -/
theorem selfCalls_eq_of_typed {atName atType : Declaration}
    (foundAtName : Declaration.find? function.markAtName = some atName)
    (foundAtType : Declaration.find? function.markAtType = some atType)
    (nameForm : atName.form = .typed) (typeForm : atType.form = .typed)
    (same : atName.name = atType.name) :
    atName.selfCalls function.markAtName = atType.selfCalls function.markAtType := by
  rcases Declaration.isWord_name foundAtName with ⟨nonempty, isName⟩
  rw [Declaration.selfCalls_of_typed foundAtName nameForm,
    Declaration.selfCalls_of_typed foundAtType typeForm, ← same,
    function.callCount_markAtName nonempty isName]

/-- The two spellings have the same function and calls where behind the name stands a
declaration that is taken for the function's own. With the mark at the name that is the only
one that is found. -/
theorem ofSnippet_eq_iff :
    Declaration.find? function.markAtName = Declaration.find? function.behindName ∧
      (∃ text, Declaration.find? function.markAtType =
        (DeclarationForm.findUntyped? function.behindName).or
          (some ⟨.typed, function.name, text⟩)) ∧
      (PrimaryFunction.ofSnippet function.markAtName =
          PrimaryFunction.ofSnippet function.markAtType ↔
        ∃ declaration, Declaration.find? function.behindName = some declaration ∧
          (declaration.form = .typed → declaration.name = function.name)) := by
  refine ⟨function.find?_markAtName, function.find?_markAtType, ?_⟩
  rcases function.find?_markAtType with ⟨text, atType⟩
  have atName := function.find?_markAtName
  -- A declaration of another form is found in both spellings alike.
  cases untyped : DeclarationForm.findUntyped? function.behindName with
  | some declaration =>
      have behind : Declaration.find? function.behindName = some declaration := by
        rw [DeclarationForm.find?_eq_findUntyped?_or, untyped, Option.some_or]
      rw [untyped, Option.some_or] at atType
      rw [behind] at atName
      rcases Declaration.isWord_name atName with ⟨nonempty, isName⟩
      have form := DeclarationForm.form_ne_typed_of_findUntyped? untyped
      refine iff_of_true ?_ ⟨declaration, behind, fun typed => absurd typed form⟩
      rw [PrimaryFunction.ofSnippet, PrimaryFunction.ofSnippet, atName, atType]
      exact congrArg _ (function.count_markAtName nonempty isName declaration.text)
  | none =>
      rw [untyped, Option.none_or] at atType
      rw [PrimaryFunction.ofSnippet, PrimaryFunction.ofSnippet, atName, atType]
      cases behind : Declaration.find? function.behindName with
      | none => simp
      | some declaration =>
          rw [behind] at atName
          have typed : declaration.form = .typed := by
            rw [DeclarationForm.find?_eq_findUntyped?_or, untyped, Option.none_or] at behind
            exact DeclarationForm.form_of_find? behind
          constructor
          · intro same
            exact ⟨declaration, rfl, fun _ => Option.some.inj (congrArg PrimaryFunction.name same)⟩
          · rintro ⟨_, equal, named⟩
            cases equal
            have calls := function.selfCalls_eq_of_typed atName atType typed rfl (named typed)
            exact congrArg₂ PrimaryFunction.mk (congrArg some (named typed)) calls

/-- A function that calls itself and returns a pointer. -/
def recursivePointer : MarkedFunction :=
  ⟨"int", '*', "f".toList, "int n".toList, "    return f(n - 1);\n\x7d".toList, by decide, rfl,
    by decide, by decide, by decide⟩

theorem not_forall_ofSnippet_eq :
    ¬∀ function : MarkedFunction, ')' ∉ function.parameters →
      PrimaryFunction.ofSnippet function.markAtName =
        PrimaryFunction.ofSnippet function.markAtType := by
  intro agree
  have apart : PrimaryFunction.ofSnippet recursivePointer.markAtName ≠
      PrimaryFunction.ofSnippet recursivePointer.markAtType := by
    decide +kernel
  exact apart (agree recursivePointer (by decide))

end MarkedFunction

end GrowthGauge
