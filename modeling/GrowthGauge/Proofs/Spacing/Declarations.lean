import GrowthGauge.Proofs.Spacing.Calls
import GrowthGauge.Proofs.Spacing.LineEnds

namespace GrowthGauge

open Pattern DeclarationForm

/-! ## Declarations of the same function -/

/-- Two declarations name the same function, and both or neither of them look like a call
of it. -/
structure SameDeclaration (declaration other : Declaration) : Prop where
  name : declaration.name = other.name
  isName : declaration.name.all isWord = true
  calls : declaration.name ≠ [] →
    (declaration.text.isEmpty ||
        (SelfCall.callPattern declaration.name).occursIn declaration.text) =
      (other.text.isEmpty || (SelfCall.callPattern other.name).occursIn other.text)

/-- The same word is marked as a name, if there is one. -/
structure SameName (reached other : Cursor) : Prop where
  name : reached.name.map Span.text = other.name.map Span.text
  isName : (reached.name.map Span.text).all (·.all isWord) = true

theorem Aligned.sameName {cursor other : Cursor} (aligned : Aligned cursor other) :
    SameName cursor other :=
  ⟨aligned.name, aligned.isName⟩

theorem SameName.isName_getD {found other : Match} (same : SameName found.stop other.stop) :
    (found.name.getD []).all isWord = true := by
  have isName : found.name.all (·.all isWord) = true := same.isName
  cases marked : found.name with
  | none => rfl
  | some name => rwa [marked] at isName

namespace DeclarationForm

theorem rel_map {first second : Option Match} {related : Match → Match → Prop}
    (rel : Option.Rel related first second) {declare : Match → Declaration}
    (same : ∀ found other, first = some found → second = some other → related found other →
      SameDeclaration (declare found) (declare other)) :
    Option.Rel SameDeclaration (first.map declare) (second.map declare) := by
  cases rel with
  | some related => exact .some (same _ _ rfl rfl related)
  | none => exact .none

/-- A declaration of a form with a call in it is the same whenever the same name is marked. -/
theorem rel_find?_of_call {form : DeclarationForm} {front tail : List Pattern}
    (shape : form.pattern =
      inOrder (front ++ ([someBlanks, DeclarationForm.name, blanks, char '('] ++ tail)))
    (nameless : (inOrder tail).isNameless = true) {related : Match → Match → Prop}
    (sameName : ∀ found other, related found other → SameName found.stop other.stop)
    {text other : Text}
    (rel : Option.Rel related (form.pattern.search? text) (form.pattern.search? other)) :
    Option.Rel SameDeclaration (form.find? text) (form.find? other) := by
  apply rel_map rel
  intro found otherFound search otherSearch areRelated
  have same := sameName found otherFound areRelated
  have name : found.name = otherFound.name := same.name
  refine ⟨congrArg (·.getD []) name, same.isName_getD, fun _ => ?_⟩
  rw [call_of_search? nameless shape search, call_of_search? nameless shape otherSearch,
    Bool.or_true, Bool.or_true]

/-- A declaration of any other form is the same when its text differs in its gaps only. -/
theorem rel_find?_of_keeps {form : DeclarationForm} (inked : form.pattern.StartsInked)
    (keeps : form.pattern.Keeps) (requires : form.pattern.Requires fun _ => true)
    {text other : Text} (same : SameInk text other) :
    Option.Rel SameDeclaration (form.find? text) (form.find? other) := by
  apply rel_map (rel_search? inked (keeps agree_some) same)
  intro found otherFound search otherSearch related
  have sameName := related.2.sameName
  have name : found.name = otherFound.name := sameName.name
  have isName := sameName.isName_getD
  refine ⟨congrArg (·.getD []) name, isName, fun nonempty => ?_⟩
  have occurs := occursIn_eq_of_respaced (SelfCall.startsInked_callPattern nonempty isName)
    (SelfCall.keeps_callPattern isName) (respaced_text search otherSearch related)
  have inText := text_ne_nil_of_search? requires search
  have inOther := text_ne_nil_of_search? requires otherSearch
  dsimp only
  rw [← name, List.isEmpty_eq_false_iff.mpr inText, List.isEmpty_eq_false_iff.mpr inOther, occurs]

/-! ## The forms -/

theorem keeps_keywords {names : List String}
    (inked : ∀ name ∈ names, name.toList.all (!isBlank ·) = true) : (keywords names).Keeps := by
  apply keeps_firstOf
  intro pattern member
  rcases List.mem_map.mp member with ⟨name, inNames, rfl⟩
  exact keeps_exactly (inked name inNames)

theorem startsInked_keywords {names : List String}
    (inked : ∀ name ∈ names, Text.startsBlank name.toList = false) :
    (keywords names).StartsInked := by
  apply startsInked_firstOf
  intro pattern member
  rcases List.mem_map.mp member with ⟨name, inNames, rfl⟩
  exact startsInked_exactly (inked name inNames)

theorem startsInked_name : DeclarationForm.name.StartsInked :=
  startsInked_named startsInked_wordRun

theorem keeps_callHead : (inOrder [DeclarationForm.name, blanks, char '(']).Keeps := by
  have paren : (char '(').StartsInked := startsInked_char rfl
  exact keeps_seq keeps_name (keeps_blanks_seq paren.patient (keeps_char rfl))

theorem startsInked_callHead : (inOrder [DeclarationForm.name, blanks, char '(']).StartsInked :=
  startsInked_seq startsInked_name _

theorem rel_find?_qualified {text other : Text} (same : SameInk text other) :
    Option.Rel SameDeclaration (qualified.find? text) (qualified.find? other) := by
  have type : (atLeastOne isTypeChar).StartsInked :=
    startsInked_seq (startsInked_one refusesBlanks_isTypeChar) _
  have typed := keeps_seq (keeps_atLeastOne refusesBlanks_isTypeChar)
    (keeps_someBlanks_seq startsInked_callHead.patient keeps_callHead)
  have keeps : qualified.pattern.Keeps :=
    keeps_seq (keeps_keywords (by decide))
      (keeps_someBlanks_seq (startsInked_seq type _).patient typed)
  have inked : qualified.pattern.StartsInked :=
    startsInked_seq (startsInked_keywords (by decide)) _
  have shape : qualified.pattern = inOrder
      ([keywords ["function", "def", "public", "private", "protected", "static"], someBlanks,
          atLeastOne isTypeChar] ++
        ([someBlanks, DeclarationForm.name, blanks, char '('] ++ [])) := rfl
  exact rel_find?_of_call shape rfl (fun _ _ related => related.2.sameName)
    (rel_search? inked (keeps agree_some) same)

theorem rel_find?_bare {text other : Text} (same : SameInk text other) :
    Option.Rel SameDeclaration (bare.find? text) (bare.find? other) := by
  have keeps : bare.pattern.Keeps :=
    keeps_seq keeps_boundary (keeps_seq (keeps_keywords (by decide))
      (keeps_someBlanks_seq startsInked_callHead.patient keeps_callHead))
  have inked : bare.pattern.StartsInked :=
    startsInked_boundary_seq (startsInked_seq (startsInked_keywords (by decide)) _)
  have shape : bare.pattern = inOrder ([boundary, keywords ["function", "def"]] ++
      ([someBlanks, DeclarationForm.name, blanks, char '('] ++ [])) := rfl
  exact rel_find?_of_call shape rfl (fun _ _ related => related.2.sameName)
    (rel_search? inked (keeps agree_some) same)

theorem startsInked_functionValue : functionValue.StartsInked :=
  startsInked_either (startsInked_seq (startsInked_exactly rfl) _)
    (startsInked_either (startsInked_seq (startsInked_char rfl) _)
      (startsInked_seq startsInked_wordRun _))

theorem keeps_functionValue : functionValue.Keeps := by
  have arrow : (exactly "=>").StartsInked := startsInked_exactly rfl
  have arrowKeeps : (seq blanks (exactly "=>")).Keeps :=
    keeps_blanks_seq arrow.patient (keeps_exactly (by decide))
  have close : (char ')').StartsInked := startsInked_char rfl
  have closeKeeps : (char ')').Keeps := keeps_char rfl
  have parameters : (seq (many (· != ')')) (seq (char ')') (seq blanks (exactly "=>")))).Keeps :=
    keeps_many_seq (sparesBlanks_bne rfl) (startsInked_seq close _)
      (keeps_seq closeKeeps arrowKeeps)
  exact keeps_either (keeps_seq (keeps_exactly (by decide)) keeps_boundary)
    (keeps_either (keeps_seq (keeps_char rfl) parameters) (keeps_seq keeps_wordRun arrowKeeps))

theorem rel_find?_constFunction {text other : Text} (same : SameInk text other) :
    Option.Rel SameDeclaration (constFunction.find? text) (constFunction.find? other) := by
  have async : (exactly "async").StartsInked := startsInked_exactly rfl
  have asyncKeeps : (exactly "async").Keeps := keeps_exactly (by decide)
  have equals : (char '=').StartsInked := startsInked_char rfl
  have waited : (seq (seq (exactly "async") someBlanks) functionValue).Keeps :=
    keeps_seq_seq (keeps_seq asyncKeeps
      (keeps_someBlanks_seq startsInked_functionValue.patient keeps_functionValue))
  have value := keeps_blanks_seq
    (patient_perhaps_seq (startsInked_seq async _) startsInked_functionValue.patient)
    (keeps_perhaps_seq waited keeps_functionValue)
  have assigned := keeps_seq keeps_name
    (keeps_blanks_seq (startsInked_seq equals _).patient (keeps_seq (keeps_char rfl) value))
  have keeps : constFunction.pattern.Keeps :=
    keeps_seq (keeps_keywords (by decide))
      (keeps_someBlanks_seq (startsInked_seq startsInked_name _).patient assigned)
  have inked : constFunction.pattern.StartsInked :=
    startsInked_seq (startsInked_keywords (by decide)) _
  exact rel_find?_of_keeps inked keeps (.inr (.inl (.inl fun _ _ => rfl))) same

theorem rel_find?_assignedFunction {text other : Text} (same : SameInk text other) :
    Option.Rel SameDeclaration (assignedFunction.find? text) (assignedFunction.find? other) := by
  have paren : (char '(').StartsInked := startsInked_char rfl
  have equals : (char '=').StartsInked := startsInked_char rfl
  have equalsKeeps : (char '=').Keeps := keeps_char rfl
  have word : (exactly "function").StartsInked := startsInked_exactly rfl
  have wordKeeps : (exactly "function").Keeps := keeps_exactly (by decide)
  have value := keeps_seq wordKeeps (keeps_blanks_seq paren.patient (keeps_char rfl))
  have assigned := keeps_seq equalsKeeps (keeps_blanks_seq (startsInked_seq word _).patient value)
  have keeps : assignedFunction.pattern.Keeps :=
    keeps_seq keeps_name (keeps_blanks_seq (startsInked_seq equals _).patient assigned)
  have inked : assignedFunction.pattern.StartsInked := startsInked_seq startsInked_name _
  exact rel_find?_of_keeps inked keeps (.inl (.inl fun _ _ => rfl)) same

/-! ### The form with a result type -/

/-- What stands before the closing of a declaration with a result type. -/
def typedHead : List Pattern :=
  [repeated (seq (keywords storageWords) someBlanks), keywords primitiveTypes, blanks,
    perhaps (one isPointerMark), someBlanks, DeclarationForm.name, blanks, char '(',
    many isParameterChar, char ')']

def closing : List Pattern :=
  [blanks, perhaps (seq (exactly "const") blanks), perhaps (char '{'), blanks, lineEnd]

theorem sparesBlanks_isParameterChar : SparesBlanks isParameterChar :=
  (sparesBlanks_bne rfl).and (sparesBlanks_bne rfl)

theorem keeps_typedHead : (inOrder typedHead).Keeps := by
  have paren : (char '(').StartsInked := startsInked_char rfl
  have parenKeeps : (char '(').Keeps := keeps_char rfl
  have close : (char ')').StartsInked := startsInked_char rfl
  have refuses : RefusesBlanks isPointerMark := by decide
  have storage : (keywords storageWords).StartsInked := startsInked_keywords (by decide)
  have storageKeeps : (keywords storageWords).Keeps := keeps_keywords (by decide)
  have type : (keywords primitiveTypes).StartsInked := startsInked_keywords (by decide)
  have typeKeeps : (keywords primitiveTypes).Keeps := keeps_keywords (by decide)
  have requires : (seq (keywords storageWords) someBlanks).Requires fun _ => true :=
    .inr (.inl fun _ _ => rfl)
  have parameters := keeps_many_seq sparesBlanks_isParameterChar close (keeps_char rfl)
  have call := keeps_seq keeps_name
    (keeps_blanks_seq (startsInked_seq paren _).patient (keeps_seq parenKeeps parameters))
  have marked := keeps_blanks_perhaps_someBlanks_seq (startsInked_one refuses) (keeps_one refuses)
    (startsInked_seq startsInked_name _).patient call
  exact keeps_repeated_someBlanks_seq requires.consumes storage storageKeeps
    (startsInked_seq type _) (keeps_seq typeKeeps marked)

theorem agreeToStop_closing :
    AgreeToStop ((inOrder closing).run · some) ((inOrder closing).run · some) := by
  have brace : (char '{').StartsInked := startsInked_char rfl
  have braceKeeps : (char '{').Keeps := keeps_char rfl
  have const : (exactly "const").StartsInked := startsInked_exactly rfl
  have constKeeps : (exactly "const").Keeps := keeps_exactly (by decide)
  have ended : AgreeToStop ((seq blanks lineEnd).run · some) ((seq blanks lineEnd).run · some) :=
    agreeToStop_many_lineEnd sparesBlanks_isBlank
  have spaced : AgreeToStop (blanks.run · ((seq blanks lineEnd).run · some))
      (blanks.run · ((seq blanks lineEnd).run · some)) := by
    rw [agreeToStop_iff] at ended ⊢
    intro cursor otherCursor aligned
    have here := isSome_run_blanks_blanks (lineEnd.run · some) cursor
    have there := isSome_run_blanks_blanks (lineEnd.run · some) otherCursor
    exact here.trans ((ended aligned).trans there.symm)
  have opened := agreeToStop_blanks_perhaps brace (braceKeeps ended) spaced
  exact agreeToStop_blanks_perhaps (startsInked_seq const blanks) (constKeeps opened) opened

/-- What marks no name and can stop leaves the name that was marked before. -/
theorem agree_sameName {tail : Pattern} (nameless : tail.isNameless = true)
    (agree : AgreeToStop (tail.run · some) (tail.run · some)) :
    Agree SameName (tail.run · some) (tail.run · some) := by
  intro cursor otherCursor aligned
  have kept {cursor stop : Cursor} (stopped : tail.run cursor some = some stop) :
      stop.name = cursor.name := by
    rw [run_eq_findSome?, findSome?_some] at stopped
    exact name_of_mem_ends nameless (List.mem_of_head? stopped)
  apply rel_of_rel (agree aligned)
  intro stop otherStop stopped otherStopped _
  constructor
  · rw [kept stopped, kept otherStopped]
    exact aligned.name
  · rw [kept stopped]
    exact aligned.isName

theorem rel_find?_typed {text other : Text} (same : SameInk text other) :
    Option.Rel SameDeclaration (typed.find? text) (typed.find? other) := by
  have closed : Agree SameName ((inOrder closing).run · some) ((inOrder closing).run · some) :=
    agree_sameName rfl agreeToStop_closing
  have agree := agree_inOrder_append keeps_typedHead closed
  have storage : (keywords storageWords).StartsInked := startsInked_keywords (by decide)
  have type : (keywords primitiveTypes).StartsInked := startsInked_keywords (by decide)
  have inked : (inOrder (typedHead ++ closing)).StartsInked :=
    startsInked_repeated_seq (startsInked_seq storage someBlanks) (startsInked_seq type _)
  have shape : typed.pattern = inOrder
      ([lineStart, many IndentedHeader.isTabOrSpace,
          repeated (seq (keywords storageWords) someBlanks), keywords primitiveTypes, blanks,
          perhaps (one isPointerMark)] ++
        ([someBlanks, DeclarationForm.name, blanks, char '('] ++
          ([many isParameterChar, char ')'] ++ closing))) := rfl
  exact rel_find?_of_call shape rfl (fun _ _ => id) (rel_search?_lineBeginning inked agree same)

theorem rel_find? {text other : Text} (same : SameInk text other) (form : DeclarationForm) :
    Option.Rel SameDeclaration (form.find? text) (form.find? other) := by
  cases form with
  | qualified => exact rel_find?_qualified same
  | constFunction => exact rel_find?_constFunction same
  | assignedFunction => exact rel_find?_assignedFunction same
  | bare => exact rel_find?_bare same
  | typed => exact rel_find?_typed same

end DeclarationForm

/-! ## The primary function -/

theorem Declaration.rel_find? {text other : Text} (same : SameInk text other) :
    Option.Rel SameDeclaration (Declaration.find? text) (Declaration.find? other) := by
  rw [find?, find?]
  induction DeclarationForm.all with
  | nil => exact .none
  | cons form forms induction =>
      have found := form.rel_find? same
      rw [List.findSome?_cons, List.findSome?_cons]
      generalize form.find? text = here, form.find? other = there at found
      cases found with
      | some related => exact .some related
      | none => exact induction

theorem SameDeclaration.selfCalls_eq {declaration other : Declaration}
    (same : SameDeclaration declaration other) {snippet otherSnippet : Text}
    (sameInk : SameInk snippet otherSnippet) :
    declaration.selfCalls snippet = other.selfCalls otherSnippet := by
  have isName := same.isName
  have calls := same.calls
  rw [Declaration.selfCalls, Declaration.selfCalls, SelfCall.count, SelfCall.count, ← same.name]
  rw [← same.name] at calls
  cases empty : declaration.name.isEmpty with
  | true => rfl
  | false =>
      have nonempty := List.isEmpty_eq_false_iff.mp empty
      have total := length_allMatches_eq (SelfCall.startsInked_callPattern nonempty isName)
        (SelfCall.keeps_callPattern isName) (SelfCall.isApart_callPattern nonempty isName) sameInk
      simp only [calls nonempty, total]

/-- Texts with the same ink declare the same primary function, with as many calls of it. -/
theorem PrimaryFunction.ofSnippet_eq {text other : Text} (same : SameInk text other) :
    PrimaryFunction.ofSnippet text = PrimaryFunction.ofSnippet other := by
  have found := Declaration.rel_find? same
  rw [ofSnippet, ofSnippet]
  generalize Declaration.find? text = here, Declaration.find? other = there at found
  cases found with
  | none => rfl
  | some related =>
      dsimp only
      rw [related.name, related.selfCalls_eq same]

end GrowthGauge
