import GrowthGauge.Analysis
import GrowthGauge.Proofs.Pattern.Requirement
import GrowthGauge.Proofs.Text.Joined
import GrowthGauge.Proofs.Text.Strip

namespace GrowthGauge

/-! ## Snippets that lack characters

A pattern finds nothing in a snippet that lacks the characters it cannot do
without. Without the letters of the declaring keywords there is no declaration,
without a slash or an angle bracket there is no halving, and no entry of the
catalog can do without the letter `e`. -/

def Text.Lacks (text : Text) (property : Char → Bool) : Prop :=
  ∀ character ∈ text, property character = false

open Pattern

section

variable {property : Char → Bool}

theorem requires_exactly {word : String} (holds : word.toList.any property = true) :
    (exactly word).Requires property := by
  rcases List.any_eq_true.mp holds with ⟨character, member, holds⟩
  exact requires_literal member holds

theorem requires_keywords {words : List String}
    (holds : (words.all fun word => word.toList.any property) = true) :
    (DeclarationForm.keywords words).Requires property := by
  apply requires_firstOf
  intro pattern member
  rcases List.mem_map.mp member with ⟨word, inWords, equal⟩
  rw [← equal]
  exact requires_exactly (List.all_eq_true.mp holds word inWords)

end

/-! ## Declarations -/

/-- Every keyword that declares something has one of these letters. -/
def isKeywordLetter (character : Char) : Bool :=
  "adlptu".toList.contains character

theorem DeclarationForm.requires_pattern (form : DeclarationForm) :
    form.pattern.Requires isKeywordLetter := by
  have inOrderRequires {pattern : Pattern} {patterns : List Pattern}
      (requires : pattern.Requires isKeywordLetter) (member : pattern ∈ patterns) :
      (inOrder patterns).Requires isKeywordLetter :=
    requires_inOrder member requires
  cases form with
  | qualified =>
      exact inOrderRequires (requires_keywords (by decide)) List.mem_cons_self
  | constFunction =>
      exact inOrderRequires (requires_keywords (by decide)) List.mem_cons_self
  | assignedFunction =>
      exact inOrderRequires (requires_exactly (by decide))
        (List.mem_cons_of_mem _ (List.mem_cons_of_mem _ (List.mem_cons_of_mem _
          (List.mem_cons_of_mem _ List.mem_cons_self))))
  | bare =>
      exact inOrderRequires (requires_keywords (by decide))
        (List.mem_cons_of_mem _ List.mem_cons_self)
  | typed =>
      exact inOrderRequires (requires_keywords (by decide))
        (List.mem_cons_of_mem _ (List.mem_cons_of_mem _ (List.mem_cons_of_mem _
          List.mem_cons_self)))

theorem Declaration.find?_of_lacks {snippet : Text} (lacks : snippet.Lacks isKeywordLetter) :
    Declaration.find? snippet = none := by
  rw [Declaration.find?, List.findSome?_eq_none_iff]
  intro form _
  have absent := occursIn_eq_false_of_requires form.requires_pattern lacks
  rw [occursIn, Option.isSome_eq_false_iff, Option.isNone_iff_eq_none] at absent
  rw [DeclarationForm.find?, absent]
  rfl

theorem PrimaryFunction.ofSnippet_of_lacks {snippet : Text}
    (lacks : snippet.Lacks isKeywordLetter) : PrimaryFunction.ofSnippet snippet = ⟨none, 0⟩ := by
  rw [PrimaryFunction.ofSnippet, Declaration.find?_of_lacks lacks]

/-! ## Halving -/

/-- Every form of halving divides or shifts. -/
def isHalvingMark (character : Char) : Bool :=
  character == '/' || character == '>'

theorem HalvingForm.requires_pattern (form : HalvingForm) :
    form.pattern.Requires isHalvingMark := by
  have shift : rightShift.Requires isHalvingMark := .inl (requires_exactly (by decide))
  cases form with
  | divideByTwo => exact .inl (requires_char rfl)
  | floorDivideByTwo => exact .inl (requires_exactly (by decide))
  | shiftRightByOne => exact .inl shift
  | floorOfMidpoint => exact .inr (.inr (.inr (.inr (.inl (requires_char rfl)))))
  | midpointOfBounds =>
      refine .inr (.inr (.inr (.inr (.inr (.inr (.inl ⟨?_, ?_⟩))))))
      · exact .inl (requires_char rfl)
      · exact .inl shift

theorem hasHalving_of_lacks {snippet : Text} (lacks : snippet.Lacks isHalvingMark) :
    hasHalving snippet = false := by
  rw [hasHalving, List.any_eq_false]
  intro form _
  rw [occursIn_eq_false_of_requires form.requires_pattern lacks]
  exact Bool.false_ne_true

/-! ## The catalog -/

theorem Catalog.mem_snippet {lines : List String} {character : Char}
    (holds : (lines.any fun line => line.toList.contains character) = true) :
    character ∈ (Catalog.snippet lines).toList := by
  rcases List.any_eq_true.mp holds with ⟨line, member, contains⟩
  have inLine : character ∈ line.toList := by simpa using contains
  rw [Catalog.snippet, String.toList_intercalate]
  exact Text.mem_joined_of_mem (List.mem_map_of_mem member) inLine

theorem Catalog.mem_code {entry : CatalogEntry} (member : entry ∈ Catalog.entries) :
    'e' ∈ entry.code.toList := by
  simp only [Catalog.entries, List.mem_cons, List.not_mem_nil, or_false] at member
  rcases member with rfl | rfl | rfl | rfl | rfl | rfl | rfl | rfl | rfl | rfl | rfl | rfl <;>
    exact Catalog.mem_snippet (by decide)

theorem Catalog.known?_of_lacks {code : Text} (lacks : code.Lacks (· == 'e')) :
    Catalog.known? code = none := by
  rw [Catalog.known?, List.findSome?_eq_none_iff]
  intro entry member
  have differs : (Text.strip entry.code.toList == code.strip) = false := by
    rw [beq_eq_false_iff_ne]
    intro same
    have inCode := Text.mem_strip_of_mem (Catalog.mem_code member) rfl
    rw [same] at inCode
    cases lacks 'e' (Text.mem_of_mem_strip inCode)
  rw [differs]
  cases entry.verdict <;> rfl

/-! ## The layout -/

/-- An indented header has the letters of its keyword in it and its colon. -/
theorem BlockLayout.ofSnippet_of_lacks {snippet : Text} (noFunction : snippet.Lacks (· == 'd'))
    (noLoop : snippet.Lacks (· == 'r') ∨ snippet.Lacks (· == ':')) :
    BlockLayout.ofSnippet snippet = .braced := by
  have noFunctionHeader : IndentedHeader.functionHeader.pattern.occursIn snippet = false := by
    apply occursIn_eq_false_of_requires _ noFunction
    exact .inr (.inr (.inl (requires_exactly (by decide))))
  have noLoopHeader : IndentedHeader.loopHeader.pattern.occursIn snippet = false := by
    rcases noLoop with noKeyword | noColon
    · apply occursIn_eq_false_of_requires _ noKeyword
      exact .inr (.inr (.inl (requires_exactly (by decide))))
    · apply occursIn_eq_false_of_requires _ noColon
      have colon : (Pattern.char ':').Requires (· == ':') := requires_char rfl
      exact requires_inOrder (List.mem_of_getLast? rfl) colon
  have shown : IndentedHeader.shownIn snippet = [] := by
    rw [IndentedHeader.shownIn, formsIn, List.filter_eq_nil_iff]
    intro form _
    cases form with
    | functionHeader => rw [noFunctionHeader]; exact Bool.false_ne_true
    | loopHeader => rw [noLoopHeader]; exact Bool.false_ne_true
  rw [BlockLayout.ofSnippet, shown]
  rfl

end GrowthGauge
