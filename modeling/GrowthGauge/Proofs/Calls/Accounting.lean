import GrowthGauge.Proofs.Calls.Declared
import GrowthGauge.Proofs.Text.WholeWord

namespace GrowthGauge

open Pattern

/-! ## Accounting for calls

A declaration may be written as a call of its function, and is then taken off the calls that
are counted. What is cut out for the declaration has a call at its beginning only if the
snippet has one there, so that the call taken off is always among those that were counted. -/

/-- A call of the name lies in the part that stands behind `before`. -/
def Text.HasCallBehind (before part name : Text) : Prop :=
  ∃ front gap after : Text, part = front ++ (name ++ (gap ++ '(' :: after)) ∧
    (before ++ front).getLast?.any isWord = false ∧ gap.isAllBlank = true

theorem Text.HasCallBehind.hasCall {before part name : Text}
    (has : HasCallBehind before part name) (more : Text) :
    HasCall (before ++ (part ++ more)) name := by
  rcases has with ⟨front, gap, after, rfl, wordBehind, blank⟩
  exact ⟨before ++ front, gap, after ++ more, by simp, wordBehind, blank⟩

/-- The declaration that is found in the snippet, between the two texts. -/
structure Declaration.StandsBetween (declaration : Declaration) (snippet before after : Text) :
    Prop where
  found : Declaration.find? snippet = some declaration
  start : (declaration.form.pattern.search? snippet).map Match.start =
    some ⟨before.getLast?, declaration.text ++ after, none⟩
  split : snippet = before ++ (declaration.text ++ after)

namespace Declaration

theorem exists_match {snippet : Text} {declaration : Declaration}
    (found : find? snippet = some declaration) :
    ∃ located, declaration.form.pattern.search? snippet = some located ∧
      located.name.getD [] = declaration.name ∧ located.text = declaration.text := by
  rcases List.exists_of_findSome?_eq_some found with ⟨form, _, ofForm⟩
  rcases Option.map_eq_some_iff.mp ofForm with ⟨located, search, rfl⟩
  exact ⟨located, search, rfl, rfl⟩

theorem exists_standsBetween {snippet : Text} {declaration : Declaration}
    (found : find? snippet = some declaration) :
    ∃ before after, declaration.StandsBetween snippet before after := by
  rcases exists_match found with ⟨located, search, _, text⟩
  rcases exists_matchAt_of_searchFrom search with ⟨before, ahead, split, matched⟩
  rcases mem_ends_of_matchAt matched with ⟨start, _⟩
  have covered := ahead_of_search? search
  rw [start, text] at covered
  have aheadSplit : ahead = declaration.text ++ located.stop.ahead := covered
  rw [Option.or_none, aheadSplit] at start
  rw [aheadSplit] at split
  exact ⟨before, located.stop.ahead, found, by rw [search, Option.map_some, start], split⟩

namespace StandsBetween

variable {declaration : Declaration} {snippet before after : Text}

/-- The name stands in the text of its declaration, before the form's mark. -/
theorem exists_name (stands : declaration.StandsBetween snippet before after) :
    ∃ front gap rest : Text,
      declaration.text = front ++ (declaration.name ++ (gap ++ declaration.form.mark :: rest)) ∧
        (before ++ front).getLast?.any isWord = false ∧ gap.isAllBlank = true := by
  rcases exists_match stands.found with ⟨located, search, isName, text⟩
  have start := stands.start
  rw [search, Option.map_some, Option.some_inj] at start
  rcases DeclarationForm.hasNameBefore_mark search with
    ⟨front, name, gap, rest, split, named, blank, wordBehind⟩
  rw [named, Option.getD_some] at isName
  rw [text, isName] at split
  refine ⟨front, gap, rest, split, ?_, blank⟩
  rwa [start, ← List.getLast?_append] at wordBehind

theorem text_ne_nil (stands : declaration.StandsBetween snippet before after) :
    declaration.text ≠ [] := by
  rcases stands.exists_name with ⟨front, gap, rest, split, _, _⟩
  rw [split]
  simp

theorem hasWord (stands : declaration.StandsBetween snippet before after) :
    snippet.HasWord declaration.name := by
  rcases stands.exists_name with ⟨front, gap, rest, split, wordBehind, blank⟩
  have wordAhead : (gap ++ declaration.form.mark :: (rest ++ after)).head?.any isWord = false :=
    Text.any_isWord_head?_append (Text.any_isWord_head?_of_isAllBlank blank)
      declaration.form.isWord_mark
  refine ⟨before ++ front, _, ?_, wordBehind, wordAhead⟩
  rw [stands.split, split]
  simp

/-- A form whose mark is a parenthesis is written as a call. -/
theorem hasCallBehind_of_mark (stands : declaration.StandsBetween snippet before after)
    (called : declaration.form.mark = '(') :
    Text.HasCallBehind before declaration.text declaration.name := by
  rcases stands.exists_name with ⟨front, gap, rest, split, wordBehind, blank⟩
  rw [called] at split
  exact ⟨front, gap, rest, split, wordBehind, blank⟩

/-- Cutting out the declaration makes no call of what is none in the snippet. -/
theorem hasCall_iff_hasCallBehind (stands : declaration.StandsBetween snippet before after) :
    declaration.text.HasCall declaration.name ↔
      Text.HasCallBehind before declaration.text declaration.name := by
  rcases isWord_name stands.found with ⟨_, isName⟩
  rcases exists_match stands.found with ⟨located, search, _, _⟩
  have start := stands.start
  rw [search, Option.map_some, Option.some_inj] at start
  constructor
  · intro has
    rcases has with ⟨front, gap, rest, split, wordBehind, blank⟩
    refine ⟨front, gap, rest, split, ?_, blank⟩
    cases front with
    | cons head tail =>
        rwa [List.getLast?_append_of_ne_nil _ (List.cons_ne_nil head tail)]
    | nil =>
        rw [List.append_nil, Bool.eq_false_iff]
        intro behind
        have noCall := DeclarationForm.markBehindWord_ne_paren search (by rw [start]; exact behind)
        apply noCall
        rw [start, split]
        simp only [List.nil_append, List.append_assoc, List.cons_append]
        exact Text.markBehindWord_eq isName blank rfl (.inr rfl)
  · intro has
    rcases has with ⟨front, gap, rest, split, wordBehind, blank⟩
    refine ⟨front, gap, rest, split, ?_, blank⟩
    cases front with
    | nil => rfl
    | cons head tail =>
        rwa [List.getLast?_append_of_ne_nil _ (List.cons_ne_nil head tail)] at wordBehind

end StandsBetween

end Declaration

/-- The calls that are counted for a declaration are those of its name in the snippet, without
the one that the declaration is written as. -/
structure Declaration.AccountsForCalls (declaration : Declaration) (snippet before after : Text)
    (calls : Nat) : Prop where
  stands : declaration.StandsBetween snippet before after
  isName : declaration.name ≠ [] ∧ declaration.name.all isWord = true
  whole : snippet.HasWord declaration.name
  called_iff : declaration.text.HasCall declaration.name ↔
    Text.HasCallBehind before declaration.text declaration.name
  of_called : declaration.text.HasCall declaration.name →
    1 ≤ snippet.callCount declaration.name ∧ calls = snippet.callCount declaration.name - 1
  of_uncalled : ¬declaration.text.HasCall declaration.name →
    calls = snippet.callCount declaration.name
  called_of_form : declaration.form ∈ [.qualified, .bare, .typed] →
    declaration.text.HasCall declaration.name

theorem Declaration.StandsBetween.accountsForCalls {declaration : Declaration}
    {snippet before after : Text} (stands : declaration.StandsBetween snippet before after) :
    declaration.AccountsForCalls snippet before after (declaration.selfCalls snippet) := by
  rcases declaration.isWord_name stands.found with ⟨nonempty, isName⟩
  have called_iff := stands.hasCall_iff_hasCallBehind
  refine ⟨stands, ⟨nonempty, isName⟩, stands.hasWord, called_iff, ?_, ?_, ?_⟩
  · intro called
    have counted := (called_iff.mp called).hasCall after
    rw [← stands.split, ← Text.callCount_pos_iff] at counted
    exact ⟨counted, SelfCall.count_of_hasCall nonempty isName called snippet⟩
  · intro uncalled
    exact SelfCall.count_of_not_hasCall nonempty isName stands.text_ne_nil uncalled snippet
  · intro isForm
    have mark : declaration.form.mark = '(' := by
      simp only [List.mem_cons, List.not_mem_nil, or_false] at isForm
      rcases isForm with form | form | form
      · rw [form, DeclarationForm.mark]
      · rw [form, DeclarationForm.mark]
      · rw [form, DeclarationForm.mark]
    exact called_iff.mpr (stands.hasCallBehind_of_mark mark)

/-- A function that is named has a declaration that accounts for its calls. -/
theorem PrimaryFunction.accounts_for_calls {snippet name : Text}
    (named : (ofSnippet snippet).name = some name) :
    ∃ (declaration : Declaration) (before after : Text), declaration.name = name ∧
      declaration.AccountsForCalls snippet before after (ofSnippet snippet).selfCalls := by
  rw [ofSnippet] at named ⊢
  cases found : Declaration.find? snippet with
  | none =>
      rw [found] at named
      cases named
  | some declaration =>
      rw [found] at named
      rcases Declaration.exists_standsBetween found with ⟨before, after, stands⟩
      exact ⟨declaration, before, after, Option.some.inj named, stands.accountsForCalls⟩

/-- The declaration is found inside a word, and one of three calls is its own. -/
theorem PrimaryFunction.accounts_for_calls_undef :
    (ofSnippet "undef int größe(n): return größe(n - 1) + größe (n - 2)".toList).name =
        some "größe".toList ∧
      Text.callCount "undef int größe(n): return größe(n - 1) + größe (n - 2)".toList
        "größe".toList = 3 ∧
      (ofSnippet "undef int größe(n): return größe(n - 1) + größe (n - 2)".toList).selfCalls = 2 ∧
      ∃ (declaration : Declaration) (before after : Text), declaration.name = "größe".toList ∧
        declaration.AccountsForCalls
          "undef int größe(n): return größe(n - 1) + größe (n - 2)".toList before after 2 := by
  have named : (ofSnippet "undef int größe(n): return größe(n - 1) + größe (n - 2)".toList).name =
      some "größe".toList := by decide +kernel
  have calls :
      (ofSnippet "undef int größe(n): return größe(n - 1) + größe (n - 2)".toList).selfCalls =
        2 := by decide +kernel
  have accounted := accounts_for_calls named
  rw [calls] at accounted
  exact ⟨named, by decide +kernel, calls, accounted⟩

end GrowthGauge
