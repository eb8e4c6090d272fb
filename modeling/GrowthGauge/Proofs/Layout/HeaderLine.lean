import GrowthGauge.Layout
import GrowthGauge.Proofs.Pattern.Occurring
import GrowthGauge.Proofs.Pattern.Spelling
import GrowthGauge.Proofs.Text.FeedLine

namespace GrowthGauge.IndentedHeader

open Pattern

/-! ## What a header is

Two kinds of header show that blocks are indented. What separates their words is blank, and
a line feed is blank as well, so that the words of one header may stand on several lines. -/

/-- `def`, a name and an opening parenthesis, with the rest of the line. -/
def IsFunctionHeader (text : Text) : Prop :=
  ∃ indent gap name padding rest : Text,
    text = indent ++ ("def".toList ++ (gap ++ (name ++ (padding ++ '(' :: rest)))) ∧
      indent.all isTabOrSpace = true ∧ (gap ≠ [] ∧ gap.all isBlank = true) ∧
      (name ≠ [] ∧ name.all isWord = true) ∧ padding.all isBlank = true ∧
      rest.all isBraceless = true

/-- A comma and one more name that a loop binds. -/
def IsFurtherName (text : Text) : Prop :=
  ∃ padding gap name : Text, text = padding ++ ',' :: (gap ++ name) ∧
    padding.all isBlank = true ∧ gap.all isBlank = true ∧ (name ≠ [] ∧ name.all isWord = true)

/-- `for`, the names that the loop binds, `in` and what it runs over, with a colon. -/
def IsLoopHeader (text : Text) : Prop :=
  ∃ (indent gap name : Text) (others : List Text) (before after iterable : Text),
    text = indent ++ ("for".toList ++ (gap ++ (name ++ (others.flatten ++ (before ++
      ("in".toList ++ (after ++ (iterable ++ [':'])))))))) ∧
      indent.all isTabOrSpace = true ∧ (gap ≠ [] ∧ gap.all isBlank = true) ∧
      (name ≠ [] ∧ name.all isWord = true) ∧ (∀ other ∈ others, IsFurtherName other) ∧
      (before ≠ [] ∧ before.all isBlank = true) ∧ (after ≠ [] ∧ after.all isBlank = true) ∧
      iterable.all isBraceless = true

/-! ### Headers and patterns -/

/-- A function header between the line's start and its end. -/
def functionText : List Pattern :=
  [many isTabOrSpace, exactly "def", someBlanks, wordRun, blanks, char '(', many isBraceless]

def furtherName : List Pattern :=
  [blanks, char ',', blanks, wordRun]

/-- A loop header behind the line's start. -/
def loopText : List Pattern :=
  [many isTabOrSpace, exactly "for", someBlanks, wordRun, repeated (inOrder furtherName),
    someBlanks, exactly "in", someBlanks, many isBraceless, char ':']

theorem spells_functionText_iff {text : Text} :
    (inOrder functionText).Spells text ↔ IsFunctionHeader text := by
  constructor
  · intro spelt
    rcases spells_inOrder_cons_iff.mp spelt with ⟨indent, _, rfl, isIndent, spelt⟩
    rcases spells_inOrder_cons_iff.mp spelt with ⟨keyword, _, rfl, isKeyword, spelt⟩
    rcases spells_inOrder_cons_iff.mp spelt with ⟨gap, _, rfl, isGap, spelt⟩
    rcases spells_inOrder_cons_iff.mp spelt with ⟨name, _, rfl, isName, spelt⟩
    rcases spells_inOrder_cons_iff.mp spelt with ⟨padding, _, rfl, isPadding, spelt⟩
    rcases spells_inOrder_cons_iff.mp spelt with ⟨paren, rest, rfl, isParen, isRest⟩
    refine ⟨indent, gap, name, padding, rest, ?_, spells_many_iff.mp isIndent,
      spells_atLeastOne_iff.mp isGap, spells_atLeastOne_iff.mp isName,
      spells_many_iff.mp isPadding, spells_many_iff.mp isRest⟩
    rw [spells_literal_iff.mp isKeyword, spells_char_iff.mp isParen]
    rfl
  · rintro ⟨indent, gap, name, padding, rest, rfl, isIndent, isGap, isName, isPadding, isRest⟩
    refine spells_inOrder_cons_iff.mpr ⟨_, _, rfl, spells_many_iff.mpr isIndent, ?_⟩
    refine spells_inOrder_cons_iff.mpr ⟨_, _, rfl, spells_literal_iff.mpr rfl, ?_⟩
    refine spells_inOrder_cons_iff.mpr ⟨_, _, rfl, spells_atLeastOne_iff.mpr isGap, ?_⟩
    refine spells_inOrder_cons_iff.mpr ⟨_, _, rfl, spells_atLeastOne_iff.mpr isName, ?_⟩
    refine spells_inOrder_cons_iff.mpr ⟨_, _, rfl, spells_many_iff.mpr isPadding, ?_⟩
    refine spells_inOrder_cons_iff.mpr ⟨['('], rest, rfl, spells_char_iff.mpr rfl, ?_⟩
    exact spells_many_iff.mpr isRest

theorem spells_furtherName_iff {text : Text} :
    (inOrder furtherName).Spells text ↔ IsFurtherName text := by
  constructor
  · intro spelt
    rcases spells_inOrder_cons_iff.mp spelt with ⟨padding, _, rfl, isPadding, spelt⟩
    rcases spells_inOrder_cons_iff.mp spelt with ⟨comma, _, rfl, isComma, spelt⟩
    rcases spells_inOrder_cons_iff.mp spelt with ⟨gap, name, rfl, isGap, isName⟩
    refine ⟨padding, gap, name, ?_, spells_many_iff.mp isPadding, spells_many_iff.mp isGap,
      spells_atLeastOne_iff.mp isName⟩
    rw [spells_char_iff.mp isComma]
    rfl
  · rintro ⟨padding, gap, name, rfl, isPadding, isGap, isName⟩
    refine spells_inOrder_cons_iff.mpr ⟨_, _, rfl, spells_many_iff.mpr isPadding, ?_⟩
    refine spells_inOrder_cons_iff.mpr ⟨[','], _, rfl, spells_char_iff.mpr rfl, ?_⟩
    refine spells_inOrder_cons_iff.mpr ⟨_, _, rfl, spells_many_iff.mpr isGap, ?_⟩
    exact spells_atLeastOne_iff.mpr isName

theorem spells_loopText_iff {text : Text} :
    (inOrder loopText).Spells text ↔ IsLoopHeader text := by
  constructor
  · intro spelt
    rcases spells_inOrder_cons_iff.mp spelt with ⟨indent, _, rfl, isIndent, spelt⟩
    rcases spells_inOrder_cons_iff.mp spelt with ⟨keyword, _, rfl, isKeyword, spelt⟩
    rcases spells_inOrder_cons_iff.mp spelt with ⟨gap, _, rfl, isGap, spelt⟩
    rcases spells_inOrder_cons_iff.mp spelt with ⟨name, _, rfl, isName, spelt⟩
    rcases spells_inOrder_cons_iff.mp spelt with ⟨_, _, rfl, ⟨others, rfl, areOthers⟩, source⟩
    rcases spells_inOrder_cons_iff.mp source with ⟨before, _, rfl, isBefore, spelt⟩
    rcases spells_inOrder_cons_iff.mp spelt with ⟨connector, _, rfl, isConnector, spelt⟩
    rcases spells_inOrder_cons_iff.mp spelt with ⟨after, _, rfl, isAfter, spelt⟩
    rcases spells_inOrder_cons_iff.mp spelt with ⟨iterable, colon, rfl, isIterable, isColon⟩
    refine ⟨indent, gap, name, others, before, after, iterable, ?_, spells_many_iff.mp isIndent,
      spells_atLeastOne_iff.mp isGap, spells_atLeastOne_iff.mp isName, ?_,
      spells_atLeastOne_iff.mp isBefore, spells_atLeastOne_iff.mp isAfter,
      spells_many_iff.mp isIterable⟩
    · rw [spells_literal_iff.mp isKeyword, spells_literal_iff.mp isConnector,
        spells_char_iff.mp isColon]
    · exact fun other member => spells_furtherName_iff.mp (areOthers other member)
  · rintro ⟨indent, gap, name, others, before, after, iterable, rfl, isIndent, isGap, isName,
      areOthers, isBefore, isAfter, isIterable⟩
    refine spells_inOrder_cons_iff.mpr ⟨_, _, rfl, spells_many_iff.mpr isIndent, ?_⟩
    refine spells_inOrder_cons_iff.mpr ⟨_, _, rfl, spells_literal_iff.mpr rfl, ?_⟩
    refine spells_inOrder_cons_iff.mpr ⟨_, _, rfl, spells_atLeastOne_iff.mpr isGap, ?_⟩
    refine spells_inOrder_cons_iff.mpr ⟨_, _, rfl, spells_atLeastOne_iff.mpr isName, ?_⟩
    refine spells_inOrder_cons_iff.mpr ⟨_, _, rfl, ⟨others, rfl, ?_⟩, ?_⟩
    · exact fun other member => spells_furtherName_iff.mpr (areOthers other member)
    refine spells_inOrder_cons_iff.mpr ⟨_, _, rfl, spells_atLeastOne_iff.mpr isBefore, ?_⟩
    refine spells_inOrder_cons_iff.mpr ⟨_, _, rfl, spells_literal_iff.mpr rfl, ?_⟩
    refine spells_inOrder_cons_iff.mpr ⟨_, _, rfl, spells_atLeastOne_iff.mpr isAfter, ?_⟩
    refine spells_inOrder_cons_iff.mpr ⟨_, _, rfl, spells_many_iff.mpr isIterable, ?_⟩
    exact spells_char_iff.mpr rfl

/-! ### Where headers stand -/

theorem mem_ends_lineStart_iff {cursor reached : Cursor} :
    reached ∈ lineStart.ends cursor ↔
      cursor.previous.all (· == '\n') = true ∧ reached = cursor := by
  rw [ends]
  split
  · next starts => rw [List.mem_singleton, and_iff_right starts]
  · next inside => exact iff_of_false List.not_mem_nil fun starts => inside starts.1

theorem mem_ends_lineEnd_iff {cursor reached : Cursor} :
    reached ∈ lineEnd.ends cursor ↔
      cursor.ahead.head?.all (· == '\n') = true ∧ reached = cursor := by
  rw [ends]
  split
  · next stops => rw [List.mem_singleton, and_iff_right stops]
  · next inside => exact iff_of_false List.not_mem_nil fun stops => inside stops.1

theorem isOpenEnded_functionText : (inOrder functionText).IsOpenEnded :=
  isOpenEnded_inOrder (by simp [functionText, IsOpenEnded, exactly, isOpenEnded_literal,
    someBlanks, wordRun, atLeastOne, blanks, Pattern.char])

theorem isOpenEnded_loopText : (inOrder loopText).IsOpenEnded :=
  isOpenEnded_inOrder (by simp [loopText, furtherName, inOrder, IsOpenEnded, exactly,
    isOpenEnded_literal, someBlanks, wordRun, atLeastOne, blanks, Pattern.char])

/-- What begins at the start of a line is looked for at the starts of lines. -/
theorem occursIn_lineStart_iff {body : List Pattern} {snippet : Text} :
    (inOrder (lineStart :: body)).occursIn snippet = true ↔
      ∃ before ahead : Text, snippet = before ++ ahead ∧ before.StartsLine ∧
        ∃ reached, reached ∈ (inOrder body).ends ⟨before.getLast?, ahead, none⟩ := by
  rw [occursIn_iff]
  constructor
  · rintro ⟨before, ahead, rfl, reached, member⟩
    rcases mem_ends_inOrder_cons.mp member with ⟨start, atStart, inBody⟩
    rcases mem_ends_lineStart_iff.mp atStart with ⟨starts, rfl⟩
    exact ⟨before, ahead, rfl, starts, reached, inBody⟩
  · rintro ⟨before, ahead, rfl, starts, reached, inBody⟩
    refine ⟨before, ahead, rfl, reached, mem_ends_inOrder_cons.mpr ⟨_, ?_, inBody⟩⟩
    exact mem_ends_lineStart_iff.mpr ⟨starts, rfl⟩

theorem functionHeader_occursIn_iff (snippet : Text) :
    functionHeader.pattern.occursIn snippet = true ↔
      ∃ before header after : Text, snippet = before ++ (header ++ after) ∧
        before.StartsLine ∧ after.EndsLine ∧ IsFunctionHeader header := by
  change (inOrder (lineStart :: (functionText ++ [lineEnd]))).occursIn snippet = true ↔ _
  rw [occursIn_lineStart_iff]
  constructor
  · rintro ⟨before, ahead, rfl, starts, reached, inLine⟩
    rcases exists_ends_of_inOrder_append inLine with ⟨stop, inText, atEnd⟩
    rcases (endsBehind_spells isOpenEnded_functionText _ _).mp inText with
      ⟨header, after, split, spelt, rfl⟩
    have ends : after.EndsLine := (mem_ends_lineEnd_iff.mp atEnd).1
    exact ⟨before, header, after, congrArg (before ++ ·) split, starts, ends,
      spells_functionText_iff.mp spelt⟩
  · rintro ⟨before, header, after, rfl, starts, ends, isHeader⟩
    let start : Cursor := ⟨before.getLast?, header ++ after, none⟩
    have inText : start.behind header after ∈ (inOrder functionText).ends start :=
      (endsBehind_spells isOpenEnded_functionText _ _).mpr
        ⟨header, after, rfl, spells_functionText_iff.mpr isHeader, rfl⟩
    refine ⟨before, header ++ after, rfl, starts, start.behind header after, ?_⟩
    exact mem_ends_inOrder_append inText (mem_ends_lineEnd_iff.mpr ⟨ends, rfl⟩)

theorem loopHeader_occursIn_iff (snippet : Text) :
    loopHeader.pattern.occursIn snippet = true ↔
      ∃ before header after : Text, snippet = before ++ (header ++ after) ∧
        before.StartsLine ∧ IsLoopHeader header := by
  change (inOrder (lineStart :: loopText)).occursIn snippet = true ↔ _
  rw [occursIn_lineStart_iff]
  constructor
  · rintro ⟨before, ahead, rfl, starts, reached, inText⟩
    rcases (endsBehind_spells isOpenEnded_loopText _ _).mp inText with
      ⟨header, after, split, spelt, rfl⟩
    exact ⟨before, header, after, congrArg (before ++ ·) split, starts,
      spells_loopText_iff.mp spelt⟩
  · rintro ⟨before, header, after, rfl, starts, isHeader⟩
    let start : Cursor := ⟨before.getLast?, header ++ after, none⟩
    refine ⟨before, header ++ after, rfl, starts, start.behind header after, ?_⟩
    exact (endsBehind_spells isOpenEnded_loopText _ _).mpr
      ⟨header, after, rfl, spells_loopText_iff.mpr isHeader, rfl⟩

end GrowthGauge.IndentedHeader
