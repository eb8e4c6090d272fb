import GrowthGauge.Proofs.Assistant.EmbeddedAnswer
import GrowthGauge.Proofs.Pattern.Occurring
import GrowthGauge.Proofs.Pattern.Spelling

namespace GrowthGauge

/-- The parentheses of the text belong together: none is closed before it was opened, and
none stays open. -/
structure Text.IsBalanced (text : Text) : Prop where
  opened : ∀ front : Text, front <+: text → front.count ')' ≤ front.count '('
  closed : text.count '(' = text.count ')'

namespace Assistant

open Pattern

/-! ## Terms in a content

A content that is not JSON is searched for a term. A term is taken to end at the first
parenthesis that closes, whatever was opened in it. -/

/-- The term with this text in its parentheses. -/
def termOf (inner : Text) : Text :=
  'O' :: '(' :: (inner ++ [')'])

/-- A term stands in the content, up to the first parenthesis that closes. -/
structure HasTerm (content before inner after : Text) : Prop where
  split : content = before ++ (termOf inner ++ after)
  filled : inner ≠ []
  unclosed : ')' ∉ inner

/-- No term of the content begins further left. -/
structure HasFirstTerm (content before inner after : Text) : Prop
    extends HasTerm content before inner after where
  first : ∀ front other rest, HasTerm content front other rest → before.length ≤ front.length

/-- What is suggested where nothing but a term was understood. -/
def suggestionOf (inner : Text) : Suggestion where
  growth := String.ofList (termOf inner)
  explanation := "Parsed from malformed response"
  steps := ["Could not parse full response"]

theorem termOf_eq (inner : Text) : termOf inner = "O(".toList ++ (inner ++ [')']) :=
  rfl

theorem all_ne_paren_iff {inner : Text} : inner.all (· != ')') = true ↔ ')' ∉ inner := by
  simp only [List.all_eq_true, bne_iff_ne]
  exact ⟨fun other member => other _ member rfl, fun free _ member same => free (same ▸ member)⟩

theorem eq_of_termOf_append {inner other after rest : Text} (unclosed : ')' ∉ inner)
    (otherUnclosed : ')' ∉ other) (same : termOf inner ++ after = termOf other ++ rest) :
    inner = other := by
  simp only [termOf, List.cons_append, List.append_assoc, List.nil_append, List.cons.injEq,
    true_and] at same
  exact (Text.eq_of_run_append (all_ne_paren_iff.mpr unclosed) (all_ne_paren_iff.mpr otherUnclosed)
    rfl rfl same).1

/-- A term is balanced exactly if no parenthesis is opened in it. -/
theorem isBalanced_termOf_iff {inner : Text} (unclosed : ')' ∉ inner) :
    (termOf inner).IsBalanced ↔ '(' ∉ inner := by
  have opening : (termOf inner).count '(' = inner.count '(' + 1 := by
    simp [termOf, List.count_append]
  have closing : (termOf inner).count ')' = 1 := by
    simp [termOf, List.count_append, List.count_eq_zero_of_not_mem unclosed]
  rw [← List.count_eq_zero]
  constructor
  · intro balanced
    have closed := balanced.closed
    omega
  · intro unopened
    refine ⟨fun front isFront => ?_, by omega⟩
    rcases isFront with ⟨rest, split⟩
    rcases List.eq_nil_or_concat rest with rfl | ⟨body, last, rfl⟩
    · rw [List.append_nil] at split
      rw [split]
      omega
    · -- The only parenthesis that closes is the last character of the term.
      rw [List.concat_eq_append, ← List.append_assoc, termOf, ← List.cons_append,
        ← List.cons_append] at split
      have fronts := (List.append_inj' split rfl).1
      have none : ')' ∉ front := by
        intro member
        have inFront : ')' ∈ 'O' :: '(' :: inner := fronts ▸ List.mem_append_left _ member
        simp [unclosed] at inFront
      rw [List.count_eq_zero_of_not_mem none]
      exact Nat.zero_le _

/-! ### Searching for a term -/

theorem spells_term_iff {run : Text} :
    Suggestion.term.Spells run ↔ ∃ inner, run = termOf inner ∧ inner ≠ [] ∧ ')' ∉ inner := by
  constructor
  · intro spelt
    rcases spells_inOrder_cons_iff.mp spelt with ⟨_, _, rfl, opens, spelt⟩
    rcases spells_inOrder_cons_iff.mp spelt with ⟨inner, _, rfl, fills, closes⟩
    rcases spells_atLeastOne_iff.mp fills with ⟨filled, others⟩
    rw [spells_literal_iff.mp opens, spells_char_iff.mp closes]
    exact ⟨inner, (termOf_eq inner).symm, filled, all_ne_paren_iff.mp others⟩
  · rintro ⟨inner, rfl, filled, unclosed⟩
    refine spells_inOrder_cons_iff.mpr ⟨_, _, termOf_eq inner, spells_literal_iff.mpr rfl, ?_⟩
    exact spells_inOrder_cons_iff.mpr ⟨inner, _, rfl,
      spells_atLeastOne_iff.mpr ⟨filled, all_ne_paren_iff.mpr unclosed⟩, spells_char_iff.mpr rfl⟩

theorem mem_ends_term_iff {cursor reached : Cursor} :
    reached ∈ Suggestion.term.ends cursor ↔
      ∃ inner after, cursor.ahead = termOf inner ++ after ∧ inner ≠ [] ∧ ')' ∉ inner ∧
        reached = cursor.behind (termOf inner) after := by
  have openEnded : Suggestion.term.IsOpenEnded :=
    ⟨isOpenEnded_literal _, ⟨trivial, trivial⟩, trivial⟩
  rw [endsBehind_spells openEnded]
  constructor
  · rintro ⟨run, after, ahead, spelt, rfl⟩
    rcases spells_term_iff.mp spelt with ⟨inner, rfl, filled, unclosed⟩
    exact ⟨inner, after, ahead, filled, unclosed, rfl⟩
  · rintro ⟨inner, after, ahead, filled, unclosed, rfl⟩
    exact ⟨_, after, ahead, spells_term_iff.mpr ⟨inner, rfl, filled, unclosed⟩, rfl⟩

theorem exists_hasFirstTerm_of_search? {content : Text} {found : Match}
    (search : Suggestion.term.search? content = some found) :
    ∃ before inner after, HasFirstTerm content before inner after ∧
      found.text = termOf inner := by
  rcases exists_leftmost_of_searchFrom search with ⟨before, ahead, split, clear, matched⟩
  rcases mem_ends_of_matchAt matched with ⟨start, member⟩
  rcases mem_ends_term_iff.mp member with ⟨inner, after, isTerm, filled, unclosed, stop⟩
  have taken : Takes found.start found.stop (termOf inner) := by
    rw [stop, start]
    exact takes_behind isTerm
  have cut : content = before ++ (termOf inner ++ after) :=
    split.trans (congrArg (before ++ ·) isTerm)
  refine ⟨before, inner, after, ⟨⟨cut, filled, unclosed⟩, ?_⟩, text_of_takes taken⟩
  intro front other rest has
  by_contra short
  have unmatched := clear front (termOf other ++ rest) has.split (Nat.lt_of_not_le short)
  have matched := (matchAt_isSome_iff Suggestion.term
    ⟨front.getLast?.or none, termOf other ++ rest, none⟩).mpr
      ⟨_, mem_ends_term_iff.mpr ⟨other, rest, rfl, has.filled, has.unclosed, rfl⟩⟩
  rw [unmatched] at matched
  cases matched

theorem isSome_search?_of_hasTerm {content before inner after : Text}
    (has : HasTerm content before inner after) :
    (Suggestion.term.search? content).isSome = true := by
  have occurs : Suggestion.term.occursIn content = true := by
    rw [occursIn_iff]
    exact ⟨before, termOf inner ++ after, has.split, _,
      mem_ends_term_iff.mpr ⟨inner, after, rfl, has.filled, has.unclosed, rfl⟩⟩
  exact occurs

theorem HasFirstTerm.inner_eq {content before inner after front other rest : Text}
    (first : HasFirstTerm content before inner after)
    (second : HasFirstTerm content front other rest) : inner = other := by
  have length : before.length = front.length :=
    Nat.le_antisymm (first.first _ _ _ second.toHasTerm) (second.first _ _ _ first.toHasTerm)
  have behind := (List.append_inj (first.split.symm.trans second.split) length).2
  exact eq_of_termOf_append first.unclosed second.unclosed behind

/-- The first term of a content is what is rescued of it. -/
theorem rescued?_eq_some_iff {content : Text} {suggestion : Suggestion} :
    Suggestion.rescued? content = some suggestion ↔
      ∃ before inner after, HasFirstTerm content before inner after ∧
        suggestion = suggestionOf inner := by
  rw [Suggestion.rescued?, Option.map_eq_some_iff]
  constructor
  · rintro ⟨found, search, rfl⟩
    rcases exists_hasFirstTerm_of_search? search with ⟨before, inner, after, first, text⟩
    exact ⟨before, inner, after, first, by rw [text]; rfl⟩
  · rintro ⟨before, inner, after, first, rfl⟩
    rcases Option.isSome_iff_exists.mp (isSome_search?_of_hasTerm first.toHasTerm) with
      ⟨found, search⟩
    rcases exists_hasFirstTerm_of_search? search with ⟨_, other, _, second, text⟩
    exact ⟨found, search, by rw [text, ← first.inner_eq second]; rfl⟩

/-! ### Blanks around a content

A term neither begins nor ends with a blank, so it stands in what remains of the content
when it is stripped. -/

section

variable {core lead trail : Text} (leadBlank : lead.isAllBlank = true)
  (trailBlank : trail.isAllBlank = true)

include leadBlank trailBlank

theorem hasTerm_between_blanks_iff {front inner rest : Text} :
    HasTerm (lead ++ core ++ trail) front inner rest ↔
      ∃ before after, front = lead ++ before ∧ rest = after ++ trail ∧
        HasTerm core before inner after := by
  constructor
  · rintro ⟨split, filled, unclosed⟩
    have inked {mark : Char} {text : Text} (blank : text.isAllBlank = true)
        (isInked : isBlank mark = false) : mark ∉ text := fun member =>
      Bool.false_ne_true (isInked.symm.trans (Text.isAllBlank_iff.mp blank mark member))
    have start : ∃ before, front = lead ++ before ∧
        core ++ trail = before ++ (termOf inner ++ rest) := by
      rw [List.append_assoc] at split
      rcases List.append_eq_append_iff.mp split with ⟨before, cut, behind⟩ | ⟨cut, covered, behind⟩
      · exact ⟨before, cut, behind⟩
      · cases cut with
        | nil => exact ⟨[], by simpa using covered.symm, behind.symm⟩
        | cons head tail =>
            have begins : 'O' = head := (List.cons_eq_cons.mp behind).1
            have opening : isBlank 'O' = false := rfl
            exact absurd (by rw [covered, begins]; simp) (inked leadBlank opening)
    rcases start with ⟨before, isFront, split⟩
    rw [← List.append_assoc] at split
    have stop : ∃ after, rest = after ++ trail ∧ core = before ++ termOf inner ++ after := by
      rcases List.append_eq_append_iff.mp split with ⟨cut, covered, behind⟩ | ⟨after, cut, behind⟩
      · rcases List.eq_nil_or_concat cut with rfl | ⟨body, last, rfl⟩
        · exact ⟨[], by simpa using behind.symm, by simpa using covered.symm⟩
        · have ends : (before ++ termOf inner).getLast? = some ')' := by
            rw [termOf_eq, ← List.append_assoc, ← List.append_assoc, List.getLast?_concat]
          rw [covered, List.concat_eq_append, ← List.append_assoc, List.getLast?_concat,
            Option.some_inj] at ends
          exact absurd (by rw [behind, ends]; simp) (inked trailBlank (rfl : isBlank ')' = false))
      · exact ⟨after, behind, cut⟩
    rcases stop with ⟨after, isRest, isCore⟩
    exact ⟨before, after, isFront, isRest, by rw [isCore, List.append_assoc], filled, unclosed⟩
  · rintro ⟨before, after, rfl, rfl, split, filled, unclosed⟩
    exact ⟨by rw [split]; simp, filled, unclosed⟩

theorem exists_hasFirstTerm_between_blanks_iff {inner : Text} :
    (∃ before after, HasFirstTerm (lead ++ core ++ trail) before inner after) ↔
      ∃ before after, HasFirstTerm core before inner after := by
  have inside := @hasTerm_between_blanks_iff core lead trail leadBlank trailBlank
  constructor
  · rintro ⟨_, _, has, first⟩
    rcases inside.mp has with ⟨before, after, rfl, rfl, term⟩
    refine ⟨before, after, term, fun front other rest more => ?_⟩
    have later := first _ other _ (inside.mpr ⟨front, rest, rfl, rfl, more⟩)
    rw [List.length_append, List.length_append] at later
    exact Nat.le_of_add_le_add_left later
  · rintro ⟨before, after, term, first⟩
    refine ⟨lead ++ before, after ++ trail, inside.mpr ⟨before, after, rfl, rfl, term⟩, ?_⟩
    intro front other rest has
    rcases inside.mp has with ⟨further, _, rfl, rfl, more⟩
    rw [List.length_append, List.length_append]
    exact Nat.add_le_add_left (first _ other _ more) _

end

theorem exists_hasFirstTerm_strip_iff (content inner : Text) :
    (∃ before after, HasFirstTerm content.strip before inner after) ↔
      ∃ before after, HasFirstTerm content before inner after := by
  rcases Text.exists_append_strip_append content with ⟨lead, trail, leadBlank, trailBlank, split⟩
  have same := @exists_hasFirstTerm_between_blanks_iff content.strip lead trail leadBlank
    trailBlank inner
  rw [← split] at same
  exact same.symm

/-! ## Suggestions of the first term -/

theorem HasFirstTerm.inner_eq_iff {content before inner after body rest : Text}
    (has : HasFirstTerm content before inner after)
    (written : content = before ++ (termOf body ++ rest)) (balanced : body.IsBalanced) :
    inner = body ↔ '(' ∉ body := by
  constructor
  · rintro rfl
    rw [← List.count_eq_zero, balanced.closed]
    exact List.count_eq_zero_of_not_mem has.unclosed
  · intro unopened
    have unclosed : ')' ∉ body := by
      rw [← List.count_eq_zero, ← balanced.closed]
      exact List.count_eq_zero_of_not_mem unopened
    exact eq_of_termOf_append has.unclosed unclosed
      (List.append_cancel_left (has.split.symm.trans written))

/-- The suggestion is the first term of the content, which may have been written longer. -/
structure Rescues (suggestion : Suggestion) (content before inner after : Text) : Prop
    extends HasFirstTerm content before inner after where
  suggestion_eq : suggestion = suggestionOf inner
  balanced_iff : Text.IsBalanced suggestion.growth.toList ↔ '(' ∉ inner
  whole_iff : ∀ body rest, content = before ++ (termOf body ++ rest) → Text.IsBalanced body →
    (suggestion.growth.toList = termOf body ↔ '(' ∉ body)

theorem HasFirstTerm.rescues {content before inner after : Text}
    (has : HasFirstTerm content before inner after) :
    Rescues (suggestionOf inner) content before inner after := by
  have growth : (suggestionOf inner).growth.toList = termOf inner := String.toList_ofList
  refine ⟨has, rfl, ?_, fun body rest written balanced => ?_⟩
  · rw [growth]
    exact isBalanced_termOf_iff has.unclosed
  · rw [growth, ← has.inner_eq_iff written balanced]
    simp [termOf]

/-- A content that is not JSON, neither as a whole nor from brace to brace. -/
structure IsMalformed (content : Text) : Prop where
  whole : Json.ofText content = .error .malformed
  span : Json.ofText (braceSpan content) = .error .malformed

theorem IsMalformed.value_eq {content : Text} (malformed : IsMalformed content) :
    value content = .error (.malformed content) := by
  rw [value, malformed.whole]
  simp only [malformed.span]

namespace Session

variable {session : Session} {script : Script} {content code : Text}

theorem analyze_of_isMalformed (can : session.connection = .opened ∨ session.canConnect = true)
    (carried : (exchange script allowedRepeats session.requests).reply.content? = some content)
    (malformed : IsMalformed content.strip) (inked : code.isAllBlank = false)
    (suggestion : Suggestion) :
    (session.analyze script code).1 = .ok suggestion ↔
      Suggestion.rescued? content.strip = some suggestion := by
  rw [analyze_of_inked inked]
  by_cases empty : content.strip = []
  · have none : Suggestion.rescued? [] = none := by decide
    rw [complete_of_can can, completed_of_blank_content? carried empty, empty, none]
    exact iff_of_false nofun nofun
  · rw [complete_of_content? can carried empty, malformed.value_eq, Suggestion.ofAnswer]
    cases Suggestion.rescued? content.strip <;> simp

/-- Of a content that is not JSON the first term is suggested, up to the first parenthesis
that closes. It is a whole term only if no parenthesis is opened in it. -/
theorem analyze_eq_ok_iff_rescues
    (can : session.connection = .opened ∨ session.canConnect = true)
    (carried : (exchange script allowedRepeats session.requests).reply.content? = some content)
    (malformed : IsMalformed content.strip) (inked : code.isAllBlank = false)
    (suggestion : Suggestion) :
    (session.analyze script code).1 = .ok suggestion ↔
      ∃ before inner after, Rescues suggestion content before inner after := by
  rw [analyze_of_isMalformed can carried malformed inked, rescued?_eq_some_iff]
  constructor
  · rintro ⟨before, inner, after, has, rfl⟩
    rcases (exists_hasFirstTerm_strip_iff content inner).mp ⟨before, after, has⟩ with
      ⟨front, rest, whole⟩
    exact ⟨front, inner, rest, whole.rescues⟩
  · rintro ⟨before, inner, after, rescues⟩
    rcases (exists_hasFirstTerm_strip_iff content inner).mpr
      ⟨before, after, rescues.toHasFirstTerm⟩ with ⟨front, rest, has⟩
    exact ⟨front, inner, rest, has, rescues.suggestion_eq⟩

/-- The first of two terms stands in braces, with blanks around the whole. -/
def bracedContent : Text :=
  "  See \x7bO(n²)\x7d, not O(n log(n)).\n".toList

theorem isMalformed_bracedContent : IsMalformed bracedContent.strip := by
  have stripped : bracedContent.strip = 'S' :: "ee \x7bO(n²)\x7d, not O(n log(n)).".toList := by
    decide +kernel
  have span : braceSpan bracedContent.strip = ['\x7b', 'O', '(', 'n', '²', ')', '\x7d'] := by
    decide +kernel
  refine ⟨?_, by rw [span]; rfl⟩
  rw [stripped]
  exact Json.ofText_of_not_opens (by decide) (by decide) (by decide) _

theorem analyze_eq_ok_iff_rescues_inBraces :
    (exchange (answering bracedContent) allowedRepeats unused.requests).reply.content? =
        some bracedContent ∧
      IsMalformed bracedContent.strip ∧
      (unused.analyze (answering bracedContent) ['x']).1 = .ok (suggestionOf ['n', '²']) ∧
      ∃ before inner after,
        Rescues (suggestionOf ['n', '²']) bracedContent before inner after := by
  have carried := content?_answering bracedContent
  have analyzed : (unused.analyze (answering bracedContent) ['x']).1 =
      .ok (suggestionOf ['n', '²']) := by
    rw [analyze_of_isMalformed (.inr (by decide)) carried isMalformed_bracedContent (by decide)]
    decide +kernel
  refine ⟨carried, isMalformed_bracedContent, analyzed, ?_⟩
  exact (analyze_eq_ok_iff_rescues (.inr (by decide)) carried isMalformed_bracedContent
    (by decide) _).mp analyzed

/-- The only term has a logarithm in it, with parentheses of its own. -/
def nestedContent : Text :=
  "Runtime: O(n log(n)) overall.".toList

theorem isMalformed_nestedContent : IsMalformed nestedContent.strip := by
  have stripped : nestedContent.strip = 'R' :: "untime: O(n log(n)) overall.".toList := by
    decide +kernel
  have span : braceSpan nestedContent.strip = [] := by decide +kernel
  refine ⟨?_, by rw [span]; rfl⟩
  rw [stripped]
  exact Json.ofText_of_not_opens (by decide) (by decide) (by decide) _

/-- A term is not always suggested as a whole. -/
theorem not_forall_whole_term :
    ¬∀ (content : Text) (script : Script) (code : Text) (suggestion : Suggestion),
      (exchange script allowedRepeats unused.requests).reply.content? = some content →
      IsMalformed content.strip → code.isAllBlank = false →
      (unused.analyze script code).1 = .ok suggestion →
        suggestion.growth.toList <:+: content ∧ "O(".toList <+: suggestion.growth.toList ∧
          [')'] <:+ suggestion.growth.toList ∧ Text.IsBalanced suggestion.growth.toList := by
  intro whole
  have carried := content?_answering nestedContent
  have analyzed : (unused.analyze (answering nestedContent) ['x']).1 =
      .ok (suggestionOf "n log(n".toList) := by
    rw [analyze_of_isMalformed (.inr (by decide)) carried isMalformed_nestedContent (by decide)]
    decide +kernel
  rcases whole nestedContent _ ['x'] _ carried isMalformed_nestedContent (by decide) analyzed with
    ⟨_, _, _, balanced⟩
  have closed := balanced.closed
  revert closed
  decide +kernel

end Session

end Assistant

end GrowthGauge
