import GrowthGauge.Declaration
import GrowthGauge.Proofs.Pattern.Occurring

namespace GrowthGauge

namespace Pattern

/-! ## Marked words

A declaration marks the name of its function on the way. Whatever way a match takes, the
name is a word. -/

/-- Every end of the pattern has a word marked. -/
def MarksWord (pattern : Pattern) : Prop :=
  ∀ cursor, ∀ reached ∈ pattern.ends cursor,
    ∃ word, reached.name.map Span.text = some word ∧ word ≠ [] ∧ word.all isWord = true

theorem marksWord_name : DeclarationForm.name.MarksWord := by
  intro cursor reached member
  rcases mem_ends_named.mp member with ⟨inner, inWord, rfl⟩
  rcases exists_run_of_atLeastOne inWord with ⟨word, following, ahead, nonempty, isName, rfl⟩
  refine ⟨word, ?_, nonempty, isName⟩
  change some (Span.text ⟨cursor.ahead, following⟩) = some word
  rw [ahead, Span.text_append]

/-- What comes after a marked word and marks nothing itself leaves it marked. -/
theorem marksWord_inOrder (front : List Pattern) {first : Pattern} (marks : first.MarksWord)
    {tail : List Pattern} (nameless : (inOrder tail).isNameless = true) :
    (inOrder (front ++ first :: tail)).MarksWord := by
  intro cursor reached member
  rcases exists_ends_of_inOrder_append member with ⟨middle, _, inRest⟩
  rcases mem_ends_inOrder_cons.mp inRest with ⟨marked, inFirst, inTail⟩
  rw [name_of_mem_ends nameless inTail]
  exact marks middle marked inFirst

end Pattern

open Pattern

theorem DeclarationForm.marksWord_pattern (form : DeclarationForm) : form.pattern.MarksWord := by
  cases form with
  | qualified =>
      exact marksWord_inOrder [keywords _, someBlanks, atLeastOne isTypeChar, someBlanks]
        marksWord_name rfl
  | constFunction => exact marksWord_inOrder [keywords _, someBlanks] marksWord_name rfl
  | assignedFunction => exact marksWord_inOrder [] marksWord_name rfl
  | bare => exact marksWord_inOrder [boundary, keywords _, someBlanks] marksWord_name rfl
  | typed =>
      exact marksWord_inOrder
        [lineStart, many _, repeated _, keywords primitiveTypes, blanks, perhaps _, someBlanks]
        marksWord_name rfl

/-- The name of a declaration is a word. -/
theorem Declaration.isWord_name {snippet : Text} {declaration : Declaration}
    (found : Declaration.find? snippet = some declaration) :
    declaration.name ≠ [] ∧ declaration.name.all isWord = true := by
  rcases List.exists_of_findSome?_eq_some found with ⟨form, _, ofForm⟩
  rcases Option.map_eq_some_iff.mp ofForm with ⟨located, search, rfl⟩
  rcases form.marksWord_pattern _ _ (mem_ends_of_search? search) with ⟨word, named, isName⟩
  have name : located.name = some word := named
  rw [name]
  exact isName

end GrowthGauge
