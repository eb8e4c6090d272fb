import GrowthGauge.Proofs.Pattern.Extension
import GrowthGauge.Proofs.Spacing.Searching

namespace GrowthGauge

open Pattern

/-! ## Calls of a name

A call is a name between a word boundary and an opening parenthesis. As the name is a
word, no call begins inside another. -/

theorem any_isWord_of_any_isBlank {edge : Option Char} (blank : edge.any isBlank = true)
    (previous : Option Char) : (edge.or previous).any isWord = false := by
  cases edge with
  | none => cases blank
  | some character => exact refusesBlanks_isWord character blank

namespace SelfCall

section

variable {name : Text} (nonempty : name ≠ []) (isName : name.all isWord = true)

include isName in
theorem isBlank_of_mem_name {character : Char} (member : character ∈ name) :
    isBlank character = false :=
  isBlank_of_isWord (List.all_eq_true.mp isName character member)

include nonempty isName in
theorem startsInked_callPattern : (callPattern name).StartsInked := by
  apply startsInked_boundary_seq
  apply startsInked_seq
  apply startsInked_literal
  rcases List.exists_cons_of_ne_nil nonempty with ⟨head, tail, split⟩
  subst split
  exact isBlank_of_mem_name isName List.mem_cons_self

include isName in
theorem keeps_callPattern : (callPattern name).Keeps := by
  have paren : (char '(').StartsInked := startsInked_char rfl
  have inked : name.all (!isBlank ·) = true := by
    rw [List.all_eq_true]
    intro character member
    rw [isBlank_of_mem_name isName member]
    rfl
  have word := keeps_literal inked
  exact keeps_seq keeps_boundary
    (keeps_seq word (keeps_blanks_seq paren.patient (keeps_char rfl)))

/-- What a call looks like, and what stands before it. -/
theorem mem_ends_callPattern {cursor reached : Cursor}
    (member : reached ∈ (callPattern name).ends cursor) :
    cursor.isWordBehind ≠ cursor.isWordAhead ∧
      ∃ gap : Text, gap.isAllBlank = true ∧
        cursor.ahead = name ++ (gap ++ '(' :: reached.ahead) := by
  rcases mem_ends_inOrder_cons.mp member with ⟨start, atBoundary, rest⟩
  rcases mem_ends_inOrder_cons.mp rest with ⟨named, inName, rest⟩
  rcases mem_ends_inOrder_cons.mp rest with ⟨opened, inBlanks, inParen⟩
  rcases mem_ends_literal.mp inName with ⟨following, ahead, rfl⟩
  rcases mem_ends_many.mp inBlanks with ⟨gap, behind, gapSplit, blank, rfl⟩
  rcases mem_ends_char.mp inParen with ⟨after, parenSplit, rfl⟩
  have gapAhead : following = gap ++ behind := gapSplit
  have parenAhead : behind = '(' :: after := parenSplit
  rw [ends] at atBoundary
  split at atBoundary
  · cases atBoundary
  · next differs =>
      rw [List.mem_singleton.mp atBoundary] at ahead
      refine ⟨fun equal => differs (beq_iff_eq.mpr equal), gap, ?_, ?_⟩
      · exact List.all_eq_true.mpr blank
      · rw [ahead, gapAhead, parenAhead]
        rfl

include nonempty isName in
theorem isWordAhead_of_name {cursor : Cursor} {following : Text}
    (ahead : cursor.ahead = name ++ following) : cursor.isWordAhead = true := by
  rcases List.exists_cons_of_ne_nil nonempty with ⟨head, tail, split⟩
  subst split
  rw [List.all_cons, Bool.and_eq_true] at isName
  rw [Cursor.isWordAhead, ahead]
  exact isName.1

include isName in
theorem isWordBehind_of_cut {before after : Text} (started : before ≠ [])
    (cut : name = before ++ after) (previous : Option Char) (following : Text) :
    Cursor.isWordBehind ⟨before.getLast?.or previous, following, none⟩ = true := by
  rw [cut, List.all_append, Bool.and_eq_true, List.all_eq_true] at isName
  rw [Cursor.isWordBehind, List.getLast?_eq_getLast_of_ne_nil started]
  exact isName.1 _ (List.getLast_mem started)

theorem isWordAhead_of_paren {gap : Text} (blank : gap.isAllBlank = true) (previous : Option Char)
    (following : Text) :
    Cursor.isWordAhead ⟨previous, gap ++ '(' :: following, none⟩ = false := by
  cases gap with
  | nil => rfl
  | cons head gap => exact refusesBlanks_isWord head (Text.isAllBlank_cons.mp blank).1

/-- A cut inside the gap or right behind it has no word ahead. -/
theorem isWordAhead_of_cut {gap passed after following : Text} (blank : gap.isAllBlank = true)
    (cut : passed ++ after = gap ++ '(' :: following) (inside : passed.length ≤ gap.length)
    (previous : Option Char) : Cursor.isWordAhead ⟨previous, after, none⟩ = false := by
  have rest : after = gap.drop passed.length ++ '(' :: following := by
    rw [← List.drop_append_of_le_length inside, ← cut, List.drop_left]
  have restBlank : Text.isAllBlank (gap.drop passed.length) = true :=
    Text.isAllBlank_iff.mpr fun character member =>
      Text.isAllBlank_iff.mp blank character (List.mem_of_mem_drop member)
  rw [rest]
  exact isWordAhead_of_paren restBlank previous following

include nonempty isName in
/-- Inside a name, in the gap behind it and at the parenthesis no call begins. -/
theorem isApart_callPattern : (callPattern name).IsApart := by
  intro previous character rest found matched before after split short
  rw [Option.eq_none_iff_forall_not_mem]
  intro other matchedOther
  rcases mem_ends_of_matchAt matched with ⟨start, member⟩
  rcases mem_ends_of_matchAt matchedOther with ⟨_, otherMember⟩
  rcases mem_ends_callPattern member with ⟨_, gap, blank, ahead⟩
  rcases mem_ends_callPattern otherMember with ⟨boundary, _, _, otherAhead⟩
  have width := length_matchText found
  rw [start, ahead] at width
  simp only [List.length_append, List.length_cons] at width
  have wordAhead := isWordAhead_of_name nonempty isName otherAhead
  have cut : (character :: before) ++ after = name ++ (gap ++ '(' :: found.stop.ahead) := by
    rw [List.cons_append, ← split]
    exact ahead
  rw [← Cursor.getLast?_cons_or character before previous] at boundary wordAhead
  -- The other call would begin inside the name or in what follows it.
  rcases List.append_eq_append_iff.mp cut with ⟨_, isCut, _⟩ | ⟨passed, covered, behind⟩
  · have wordBehind := isWordBehind_of_cut isName (List.cons_ne_nil character before) isCut
      previous after
    exact boundary (wordBehind.trans wordAhead.symm)
  · have reach := congrArg List.length covered
    rw [List.length_cons, List.length_append] at reach
    rw [isWordAhead_of_cut blank behind.symm (by omega)] at wordAhead
    cases wordAhead

include nonempty isName in
/-- A name behind no word character and before a parenthesis is a call. -/
theorem exists_mem_ends_callPattern {cursor : Cursor} {gap after : Text}
    (wordBehind : cursor.isWordBehind = false) (blank : gap.isAllBlank = true)
    (ahead : cursor.ahead = name ++ (gap ++ '(' :: after)) :
    ∃ reached, reached ∈ (callPattern name).ends cursor := by
  have covers : (inOrder [literal name, blanks, char '(']).Covers [name, gap, ['(']].flatten := by
    apply covers_inOrder
    have gapCovers : blanks.Covers gap := covers_many (List.all_eq_true.mp blank)
    exact .cons (covers_literal name) (.cons gapCovers (.cons (covers_char '(') .nil))
  have split : cursor.ahead = [name, gap, ['(']].flatten ++ after := by
    rw [ahead]
    simp
  refine ⟨_, mem_ends_inOrder_cons.mpr ⟨cursor, ?_, covers cursor after split⟩⟩
  rw [ends, wordBehind, isWordAhead_of_name nonempty isName ahead]
  exact List.mem_singleton_self cursor

include nonempty isName in
/-- A name between a blank and a parenthesis is a call. -/
theorem occursIn_callPattern {before gap : Text} (blankBehind : before.getLast?.any isBlank = true)
    (blank : gap.isAllBlank = true) (after : Text) :
    (callPattern name).occursIn (before ++ (name ++ (gap ++ '(' :: after))) = true := by
  have wordBehind := any_isWord_of_any_isBlank blankBehind none
  rw [Option.or_none] at wordBehind
  rw [occursIn_iff]
  exact ⟨before, _, rfl, exists_mem_ends_callPattern nonempty isName wordBehind blank rfl⟩

end

end SelfCall

/-! ## Calls in a declaration

A declaration of three of the forms holds its name before a parenthesis, as a call does.
A function that is assigned to a constant has an equals sign there. -/

/-- What may stand in a result type is no blank. -/
theorem DeclarationForm.refusesBlanks_isTypeChar : RefusesBlanks isTypeChar := by
  intro character blank
  have inked : ['<', '>', '[', ']'].all (!isBlank ·) = true := rfl
  rw [isTypeChar, refusesBlanks_isWord character blank, Bool.false_or, Bool.eq_false_iff]
  intro listed
  have refused := List.all_eq_true.mp inked character (List.contains_iff_mem.mp listed)
  rw [blank] at refused
  cases refused

theorem exists_name_before_mark {tail : List Pattern} {mark : Char}
    (nameless : (inOrder tail).isNameless = true) {cursor reached : Cursor}
    (member : reached ∈
      (inOrder ([DeclarationForm.name, blanks, char mark] ++ tail)).ends cursor) :
    ∃ name gap after : Text,
      Takes cursor reached (name ++ (gap ++ mark :: after)) ∧ gap.isAllBlank = true ∧
        name ≠ [] ∧ name.all isWord = true ∧ reached.name.map Span.text = some name := by
  rcases exists_ends_of_inOrder_append member with ⟨opened, inHead, inTail⟩
  rcases exists_takes inTail with ⟨after, takesTail⟩
  rcases mem_ends_seq.mp inHead with ⟨marked, inName, inHead⟩
  rcases mem_ends_seq.mp inHead with ⟨closed, inGap, inMark⟩
  rcases mem_ends_named.mp inName with ⟨inner, inWord, rfl⟩
  rcases exists_run_of_atLeastOne inWord with ⟨name, _, nameSplit, nonempty, isName, rfl⟩
  rcases mem_ends_many.mp inGap with ⟨gap, _, gapSplit, gapBlank, rfl⟩
  rcases mem_ends_char.mp inMark with ⟨_, markSplit, rfl⟩
  have takesName : Takes _ (Cursor.behind _ name _) name := takes_behind nameSplit
  have takesGap : Takes _ (Cursor.behind _ gap _) gap := takes_behind gapSplit
  have takesMark : Takes _ (Cursor.behind _ [mark] _) [mark] := takes_behind markSplit
  refine ⟨name, gap, after, takesName.append (takesGap.append (takesMark.append takesTail)),
    List.all_eq_true.mpr gapBlank, nonempty, isName, ?_⟩
  have unchanged := name_of_mem_ends nameless inTail
  rw [unchanged]
  change some (Span.text ⟨cursor.ahead, _⟩) = some name
  rw [nameSplit]
  exact congrArg some (Span.text_append name _)

theorem exists_name_of_mem_ends {front tail : List Pattern} {mark : Char}
    (nameless : (inOrder tail).isNameless = true) {cursor reached : Cursor}
    (member : reached ∈ (inOrder (front ++
      ([someBlanks, DeclarationForm.name, blanks, char mark] ++ tail))).ends cursor) :
    ∃ before name gap after : Text,
      Takes cursor reached (before ++ (name ++ (gap ++ mark :: after))) ∧
        before.getLast?.any isBlank = true ∧ gap.isAllBlank = true ∧ name ≠ [] ∧
        name.all isWord = true ∧ reached.name.map Span.text = some name := by
  rcases exists_ends_of_inOrder_append member with ⟨start, inFront, inRest⟩
  rcases exists_takes inFront with ⟨front, takesFront⟩
  rcases mem_ends_inOrder_cons.mp inRest with ⟨spaced, inSpace, inRest⟩
  rcases exists_run_of_atLeastOne inSpace with ⟨space, _, split, started, blank, rfl⟩
  rcases exists_name_before_mark nameless inRest with ⟨name, gap, after, takes, isName⟩
  have takesSpace := takesFront.append (takes_behind split)
  refine ⟨front ++ space, name, gap, after, takesSpace.append takes, ?_, isName⟩
  rw [List.getLast?_append_of_ne_nil _ started, List.getLast?_eq_getLast_of_ne_nil started]
  exact List.all_eq_true.mp blank _ (List.getLast_mem started)

/-- Such a declaration has a call of its own name in it. -/
theorem call_of_search? {front tail : List Pattern} (nameless : (inOrder tail).isNameless = true)
    {pattern : Pattern}
    (form : pattern =
      inOrder (front ++ ([someBlanks, DeclarationForm.name, blanks, char '('] ++ tail)))
    {text : Text} {found : Match} (search : pattern.search? text = some found) :
    (SelfCall.callPattern (found.name.getD [])).occursIn found.text = true := by
  have member := mem_ends_of_search? search
  rw [form] at member
  rcases exists_name_of_mem_ends nameless member with
    ⟨before, name, gap, after, takes, blankBehind, blank, nonempty, isName, named⟩
  have isNamed : found.name = some name := named
  rw [text_of_takes takes, isNamed]
  exact SelfCall.occursIn_callPattern nonempty isName blankBehind blank after

end GrowthGauge
