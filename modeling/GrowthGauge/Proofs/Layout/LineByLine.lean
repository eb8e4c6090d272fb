import GrowthGauge.Proofs.Layout.HeaderLine

namespace GrowthGauge

/-! ## Layout and lines

A line shows indentation if it is a header and carries no opening brace. Told like this, the
layout is decided line by line. The patterns decide almost the same: they also take a header
whose words stand on several lines, and a loop header with a brace behind its colon. -/

namespace IndentedHeader

/-- Behind the colon of a loop header the line may go on. -/
def BeginsLoop (line : Text) : Prop :=
  ∃ header rest : Text, line = header ++ rest ∧ IsLoopHeader header

def IsHeaderLine (line : Text) : Prop :=
  IsFunctionHeader line ∨ BeginsLoop line

/-- A line without an opening brace is a header. -/
def ShowsHeaderLine (snippet : Text) : Prop :=
  ∃ line ∈ snippet.splitOn '\n', '{' ∉ line ∧ IsHeaderLine line

/-- A line begins a loop although it carries an opening brace. -/
def ShowsBracedLoop (snippet : Text) : Prop :=
  ∃ line ∈ snippet.splitOn '\n', '{' ∈ line ∧ BeginsLoop line

/-- The words of a header stand on several lines. -/
def ShowsBrokenHeader (snippet : Text) : Prop :=
  ∃ before header after : Text, snippet = before ++ (header ++ after) ∧ before.StartsLine ∧
    '\n' ∈ header ∧ (IsFunctionHeader header ∧ after.EndsLine ∨ IsLoopHeader header)

theorem not_mem_of_all {accepts : Char → Bool} {character : Char} {text : Text}
    (refused : accepts character = false) (accepted : text.all accepts = true) :
    character ∉ text := by
  intro member
  rw [List.all_eq_true.mp accepted character member] at refused
  cases refused

/-- No word of a function header may hold a brace, and the rest of its line may not either. -/
theorem IsFunctionHeader.braceless {header : Text} (isHeader : IsFunctionHeader header) :
    '{' ∉ header := by
  rcases isHeader with ⟨indent, gap, name, padding, rest, rfl, isIndent, isGap, isName,
    isPadding, isRest⟩
  simp only [List.mem_append, List.mem_cons, not_or]
  exact ⟨not_mem_of_all rfl isIndent, by decide, not_mem_of_all rfl isGap.2,
    not_mem_of_all (by decide +kernel) isName.2, not_mem_of_all rfl isPadding, by decide,
    not_mem_of_all rfl isRest⟩

variable {snippet : Text}

/-! ### From headers to lines -/

theorem shows_of_functionHeader {before header after : Text}
    (split : snippet = before ++ (header ++ after)) (starts : before.StartsLine)
    (ends : after.EndsLine) (isHeader : IsFunctionHeader header) :
    ShowsHeaderLine snippet ∨ ShowsBrokenHeader snippet := by
  by_cases broken : '\n' ∈ header
  · exact .inr ⟨before, header, after, split, starts, broken, .inl ⟨isHeader, ends⟩⟩
  · refine .inl ⟨header, ?_, isHeader.braceless, .inl isHeader⟩
    exact Text.mem_splitOn_iff.mpr ⟨broken, before, after, split, starts, ends⟩

theorem shows_of_loopHeader {before header after : Text}
    (split : snippet = before ++ (header ++ after)) (starts : before.StartsLine)
    (isHeader : IsLoopHeader header) :
    ShowsHeaderLine snippet ∨ ShowsBracedLoop snippet ∨ ShowsBrokenHeader snippet := by
  by_cases broken : '\n' ∈ header
  · exact .inr (.inr ⟨before, header, after, split, starts, broken, .inr isHeader⟩)
  · rcases Text.exists_line_of_start broken after with ⟨rest, later, rfl, unfed, ends⟩
    have isLine : header ++ rest ∈ snippet.splitOn '\n' := by
      apply Text.mem_splitOn_iff.mpr
      exact ⟨unfed, before, later, by rw [split, List.append_assoc], starts, ends⟩
    by_cases braced : '{' ∈ header ++ rest
    · exact .inr (.inl ⟨_, isLine, braced, header, rest, rfl, isHeader⟩)
    · exact .inl ⟨_, isLine, braced, .inr ⟨header, rest, rfl, isHeader⟩⟩

/-! ### From lines to headers -/

theorem occursIn_of_functionHeader_line {line : Text} (isLine : line ∈ snippet.splitOn '\n')
    (isHeader : IsFunctionHeader line) : functionHeader.pattern.occursIn snippet = true := by
  rcases Text.mem_splitOn_iff.mp isLine with ⟨_, before, after, split, starts, ends⟩
  exact (functionHeader_occursIn_iff snippet).mpr
    ⟨before, line, after, split, starts, ends, isHeader⟩

theorem occursIn_of_beginsLoop {line : Text} (isLine : line ∈ snippet.splitOn '\n')
    (begins : BeginsLoop line) : loopHeader.pattern.occursIn snippet = true := by
  rcases Text.mem_splitOn_iff.mp isLine with ⟨_, before, after, split, starts, _⟩
  rcases begins with ⟨header, rest, rfl, isHeader⟩
  rw [List.append_assoc] at split
  exact (loopHeader_occursIn_iff snippet).mpr ⟨before, header, rest ++ after, split, starts,
    isHeader⟩

end IndentedHeader

namespace BlockLayout

open IndentedHeader

theorem ofSnippet_eq_indented_iff_occursIn (snippet : Text) :
    ofSnippet snippet = .indented ↔
      functionHeader.pattern.occursIn snippet = true ∨
        loopHeader.pattern.occursIn snippet = true := by
  simp only [ofSnippet, shownIn, formsIn, IndentedHeader.all, List.filter_cons, List.filter_nil]
  cases functionHeader.pattern.occursIn snippet <;>
    cases loopHeader.pattern.occursIn snippet <;> simp

theorem ofSnippet_of_showsHeaderLine {snippet : Text} (shows : ShowsHeaderLine snippet) :
    ofSnippet snippet = .indented := by
  rcases shows with ⟨line, isLine, _, isFunction | begins⟩
  · exact (ofSnippet_eq_indented_iff_occursIn snippet).mpr
      (.inl (occursIn_of_functionHeader_line isLine isFunction))
  · exact (ofSnippet_eq_indented_iff_occursIn snippet).mpr
      (.inr (occursIn_of_beginsLoop isLine begins))

theorem ofSnippet_of_showsBracedLoop {snippet : Text} (shows : ShowsBracedLoop snippet) :
    ofSnippet snippet = .indented := by
  rcases shows with ⟨line, isLine, _, begins⟩
  exact (ofSnippet_eq_indented_iff_occursIn snippet).mpr
    (.inr (occursIn_of_beginsLoop isLine begins))

theorem ofSnippet_of_showsBrokenHeader {snippet : Text} (shows : ShowsBrokenHeader snippet) :
    ofSnippet snippet = .indented := by
  rcases shows with ⟨before, header, after, split, starts, _, ⟨isHeader, ends⟩ | isHeader⟩
  · exact (ofSnippet_eq_indented_iff_occursIn snippet).mpr
      (.inl ((functionHeader_occursIn_iff snippet).mpr
        ⟨before, header, after, split, starts, ends, isHeader⟩))
  · exact (ofSnippet_eq_indented_iff_occursIn snippet).mpr
      (.inr ((loopHeader_occursIn_iff snippet).mpr ⟨before, header, after, split, starts, isHeader⟩))

theorem shows_of_ofSnippet {snippet : Text} (indented : ofSnippet snippet = .indented) :
    ShowsHeaderLine snippet ∨ ShowsBracedLoop snippet ∨ ShowsBrokenHeader snippet := by
  rcases (ofSnippet_eq_indented_iff_occursIn snippet).mp indented with occurs | occurs
  · rcases (functionHeader_occursIn_iff snippet).mp occurs with
      ⟨before, header, after, split, starts, ends, isHeader⟩
    exact (shows_of_functionHeader split starts ends isHeader).imp_right .inr
  · rcases (loopHeader_occursIn_iff snippet).mp occurs with
      ⟨before, header, after, split, starts, isHeader⟩
    exact shows_of_loopHeader split starts isHeader

/-- Where no loop carries a brace and no header is broken, only lines without a brace count. -/
theorem ofSnippet_eq_indented_iff_of_regular {snippet : Text}
    (unbraced : ¬ShowsBracedLoop snippet) (unbroken : ¬ShowsBrokenHeader snippet) :
    ofSnippet snippet = .indented ↔ ShowsHeaderLine snippet :=
  ⟨fun indented => (shows_of_ofSnippet indented).resolve_right (not_or.mpr ⟨unbraced, unbroken⟩),
    ofSnippet_of_showsHeaderLine⟩

/-- Lines with an opening brace may be altered or left out and lines may change places, as
long as no loop carries a brace and no header is broken. -/
theorem ofSnippet_congr {snippet other : Text}
    (sameLines : ∀ line, '{' ∉ line → (line ∈ snippet.splitOn '\n' ↔ line ∈ other.splitOn '\n'))
    (unbraced : ¬ShowsBracedLoop snippet) (unbroken : ¬ShowsBrokenHeader snippet)
    (otherUnbraced : ¬ShowsBracedLoop other) (otherUnbroken : ¬ShowsBrokenHeader other) :
    ofSnippet snippet = ofSnippet other := by
  have same : ShowsHeaderLine snippet ↔ ShowsHeaderLine other := by
    constructor
    · rintro ⟨line, isLine, braceless, isHeader⟩
      exact ⟨line, (sameLines line braceless).mp isLine, braceless, isHeader⟩
    · rintro ⟨line, isLine, braceless, isHeader⟩
      exact ⟨line, (sameLines line braceless).mpr isLine, braceless, isHeader⟩
  have layouts : ofSnippet snippet = .indented ↔ ofSnippet other = .indented := by
    rw [ofSnippet_eq_indented_iff_of_regular unbraced unbroken, same,
      ofSnippet_eq_indented_iff_of_regular otherUnbraced otherUnbroken]
  cases here : ofSnippet snippet with
  | indented => exact (layouts.mp here).symm
  | braced =>
      cases there : ofSnippet other with
      | braced => rfl
      | indented => exact here.symm.trans (layouts.mpr there)

/-- A snippet is indented exactly if a line without an opening brace is a header, a loop is
begun by a line that carries one, or a header is broken. -/
theorem ofSnippet_eq_indented_iff (snippet : Text) :
    ofSnippet snippet = .indented ↔
      ShowsHeaderLine snippet ∨ ShowsBracedLoop snippet ∨ ShowsBrokenHeader snippet := by
  refine ⟨shows_of_ofSnippet, ?_⟩
  rintro (header | braced | broken)
  · exact ofSnippet_of_showsHeaderLine header
  · exact ofSnippet_of_showsBracedLoop braced
  · exact ofSnippet_of_showsBrokenHeader broken

/-- The only line carries a brace, but a colon stands before it. -/
theorem not_forall_decided_by_lines :
    ¬∀ snippet : Text, ofSnippet snippet = .indented ↔ ShowsHeaderLine snippet := by
  intro decided
  let snippet : Text := "for i in stride(from: 0, to: n, by: 2) \x7b".toList
  have indented : ofSnippet snippet = .indented := by decide +kernel
  rcases (decided snippet).mp indented with ⟨line, isLine, braceless, _⟩
  have single : snippet.splitOn '\n' = [snippet] :=
    List.splitOn_eq_singleton (by decide : '\n' ∉ snippet)
  rw [single, List.mem_singleton] at isLine
  subst isLine
  exact braceless (by decide)

end BlockLayout

end GrowthGauge
