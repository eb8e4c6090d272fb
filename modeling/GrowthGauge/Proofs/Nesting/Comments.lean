import GrowthGauge.Proofs.Loop.Links
import GrowthGauge.Proofs.Nesting.ColumnReading
import GrowthGauge.Proofs.Spacing.Tracking

namespace GrowthGauge

/-! ## Comments behind loop headers

Comments are not told from what stands before them. Further headers of a line are looked for
behind each of its colons, and a colon in the comment with a loop keyword behind it counts as
one more header. -/

/-- The line with a comment at its end. -/
def Text.withComment (line comment : Text) : Text :=
  line ++ "  # ".toList ++ comment

namespace Text

theorem strip_of_inked {before text after : Text} (beforeBlank : before.isAllBlank = true)
    (afterBlank : after.isAllBlank = true) (first : text.head?.all (!isBlank ·) = true)
    (last : text.getLast?.all (!isBlank ·) = true) : strip (before ++ text ++ after) = text := by
  rw [strip_blank_append_blank beforeBlank afterBlank]
  exact strip_eq_self first last

/-- Blanks before a text with nothing else in it are blanks behind it. -/
theorem exists_blank_cut (text : Text) :
    ∃ before after : Text, ' ' :: text = before ++ text.strip ++ after ∧
      before.isAllBlank = true ∧ after.isAllBlank = true ∧ (text.strip = [] → before = []) := by
  rcases exists_append_strip_append text with ⟨before, after, beforeBlank, afterBlank, split⟩
  have spaced : isAllBlank (' ' :: before) = true := isAllBlank_cons.mpr ⟨rfl, beforeBlank⟩
  cases empty : text.strip with
  | nil =>
      have blank : isAllBlank (' ' :: text) = true :=
        isAllBlank_cons.mpr ⟨rfl, (strip_eq_nil_iff text).mp empty⟩
      exact ⟨[], ' ' :: text, rfl, rfl, blank, fun _ => rfl⟩
  | cons head rest =>
      rw [empty] at split
      refine ⟨' ' :: before, after, congrArg (' ' :: ·) split, spaced, afterBlank, ?_⟩
      exact fun impossible => absurd impossible (List.cons_ne_nil head rest)

/-- What remains of the line and of the comment stands on either side of the mark. -/
theorem exists_strip_withComment {line : Text} (inked : line.strip ≠ []) (comment : Text) :
    ∃ gap space : Text,
      (line.withComment comment).strip =
        line.strip ++ (gap ++ ('#' :: (space ++ comment.strip))) ∧
        gap ≠ [] ∧ gap.isAllBlank = true ∧ space.isAllBlank = true := by
  rcases exists_append_strip_append line with ⟨before, behind, beforeBlank, behindBlank, split⟩
  rcases exists_blank_cut comment with ⟨space, after, cut, spaceBlank, afterBlank, close⟩
  refine ⟨behind ++ [' ', ' '], space, ?_, by simp, isAllBlank_append.mpr ⟨behindBlank, rfl⟩,
    spaceBlank⟩
  have whole : line.withComment comment =
      before ++ (line.strip ++ (behind ++ [' ', ' '] ++ ('#' :: (space ++ comment.strip)))) ++
        after := by
    have spelt : line.withComment comment = line ++ (' ' :: ' ' :: '#' :: ' ' :: comment) := by
      simp [withComment]
    rw [spelt, cut]
    nth_rewrite 1 [split]
    simp
  rw [whole]
  apply strip_of_inked beforeBlank afterBlank
  · rw [List.head?_append_of_ne_nil _ inked]
    exact all_head?_strip line
  · rw [List.getLast?_append_of_ne_nil _ (by simp), List.getLast?_append_of_ne_nil _ (by simp)]
    have last := all_getLast?_strip comment
    cases empty : comment.strip with
    | nil =>
        rw [close empty]
        rfl
    | cons head rest =>
        rw [empty] at last
        rw [← List.cons_append, List.getLast?_append_of_ne_nil _ (List.cons_ne_nil head rest)]
        exact last

theorem indentation_withComment {line : Text} (inked : line.strip ≠ []) (comment : Text) :
    (line.withComment comment).indentation = line.indentation := by
  rcases exists_gap line with blank | ⟨gap, character, rest, split, blank, isInked⟩
  · exact absurd ((strip_eq_nil_iff line).mpr blank) inked
  · rw [withComment, split, List.append_assoc, List.append_assoc, List.cons_append,
      indentation_gap blank isInked, indentation_gap blank isInked]

end Text

namespace LoopChain

theorem opensLoop_append {text : Text} (opens : opensLoop text = true) (more : Text) :
    opensLoop (text ++ more) = true := by
  rw [opensLoop, Bool.or_eq_true, List.isPrefixOf_iff_prefix, List.isPrefixOf_iff_prefix] at opens ⊢
  exact opens.imp (·.trans (List.prefix_append text more)) (·.trans (List.prefix_append text more))

theorem strip_ne_nil_of_opensLoop {line : Text} (opens : opensLoop line.strip = true) :
    line.strip ≠ [] := by
  intro empty
  rw [empty] at opens
  cases opens

theorem masked_withComment {line gap space comment : Text} (unquoted : line.any isQuote = false)
    (gapBlank : gap.isAllBlank = true) (spaceBlank : space.isAllBlank = true) :
    Text.masked (line ++ (gap ++ '#' :: (space ++ comment))) =
      line ++ (gap ++ '#' :: (space ++ comment.masked)) := by
  rw [masked_unquoted_append unquoted, masked_blank_append gapBlank,
    masked_plain (opensNone_of_unquoted rfl _), masked_blank_append spaceBlank]

/-- A comment adds its own links, and one more where it completes the head of a loop. -/
theorem exists_linkColumns_append {gap space : Text} (started : gap ≠ [])
    (gapBlank : gap.isAllBlank = true) (spaceBlank : space.isAllBlank = true)
    (text comment : Text) :
    ∃ further : List Nat,
      linkColumns (text ++ (gap ++ '#' :: (space ++ comment))) = linkColumns text ++ further ∧
        further.length = (if EndsInKeyword text then 1 else 0) + (linkColumns comment).length := by
  have spaced : (gap ++ '#' :: (space ++ comment)).head?.any isBlank = true := by
    rcases List.exists_cons_of_ne_nil started with ⟨head, rest, rfl⟩
    exact (Text.isAllBlank_cons.mp gapBlank).1
  have headless : startsLoop (Text.stripStart (gap ++ '#' :: (space ++ comment))) = false := by
    rw [Text.stripStart_gap gapBlank rfl]
    rfl
  have unlinked : ':' ∉ gap ++ '#' :: space := by
    rw [List.mem_append, List.mem_cons, not_or, not_or]
    exact ⟨no_colon_of_isAllBlank gapBlank, by decide, no_colon_of_isAllBlank spaceBlank⟩
  have later := linkRests_append_of_no_colon unlinked comment
  rw [List.append_assoc, List.cons_append] at later
  refine ⟨_, linkColumns_append spaced headless text, ?_⟩
  rw [List.length_append, List.length_map, List.length_map, later, Option.length_toList,
    if_congr (isSome_lastKeyword?_iff text) rfl rfl, linkColumns_eq, List.length_map]

/-- How many headers the comment adds to those of its line. -/
def headersBehind (line comment : Text) : Nat :=
  (if EndsInKeyword line.strip then 1 else 0) + (linkColumns comment.strip.masked).length

theorem headersBehind_eq_zero_iff (line comment : Text) :
    headersBehind line comment = 0 ↔
      ¬EndsInKeyword line.strip ∧ linkColumns comment.strip.masked = [] := by
  rw [headersBehind, Nat.add_eq_zero_iff, List.length_eq_zero_iff]
  apply and_congr_left
  intro _
  split
  · next ending => exact iff_of_false Nat.one_ne_zero (not_not_intro ending)
  · next other => exact iff_of_true rfl other

/-- The columns of a line with a comment are those of the line and those that the comment
adds. -/
theorem exists_headerColumns_withComment {line : Text} (opens : opensLoop line.strip = true)
    (unquoted : line.strip.any isQuote = false) (comment : Text) :
    ∃ further : List Nat,
      headerColumns (line.withComment comment) = headerColumns line ++ further ∧
        further.length = headersBehind line comment := by
  have inked := strip_ne_nil_of_opensLoop opens
  rcases Text.exists_strip_withComment inked comment with
    ⟨gap, space, stripped, started, gapBlank, spaceBlank⟩
  rcases exists_linkColumns_append started gapBlank spaceBlank line.strip comment.strip.masked
    with ⟨further, columns, length⟩
  have masked : line.strip.masked = line.strip := by
    have alone := masked_unquoted_append unquoted []
    rwa [List.append_nil, show Text.masked [] = [] from rfl, List.append_nil] at alone
  refine ⟨further.map (line.indentation + ·), ?_, by rw [List.length_map, length, headersBehind]⟩
  rw [headerColumns, stripped, if_pos (opensLoop_append opens _),
    masked_withComment unquoted gapBlank spaceBlank, columns, List.map_append,
    Text.indentation_withComment inked, headerColumns, if_pos opens, masked]
  rfl

end LoopChain

namespace ColumnNesting

/-- A comment behind a loop header adds a loop for each further header in it, and one when the
header ends in the keyword of a further header. Otherwise it makes no difference. -/
theorem readLine_withComment (nesting : ColumnNesting) {line : Text}
    (opens : LoopChain.opensLoop line.strip = true) (unquoted : line.any isQuote = false)
    (comment : Text) :
    (nesting.readLine (line.withComment comment)).tally.loops =
        (nesting.readLine line).tally.loops + LoopChain.headersBehind line comment ∧
      (nesting.readLine (line.withComment comment) = nesting.readLine line ↔
        ¬LoopChain.EndsInKeyword line.strip ∧
          LoopChain.linkColumns comment.strip.masked = []) := by
  have inked := LoopChain.strip_ne_nil_of_opensLoop opens
  have stripUnquoted : line.strip.any isQuote = false := by
    rw [List.any_eq_false] at unquoted ⊢
    exact fun character member => unquoted character (Text.mem_of_mem_strip member)
  rcases LoopChain.exists_headerColumns_withComment opens stripUnquoted comment with
    ⟨further, columns, length⟩
  have longerInked : (line.withComment comment).strip ≠ [] := by
    rcases Text.exists_strip_withComment inked comment with ⟨gap, space, stripped, _⟩
    rw [stripped]
    exact List.append_ne_nil_of_left_ne_nil inked _
  have read : nesting.readLine (line.withComment comment) =
      further.foldl meetHeader (nesting.readLine line) := by
    rw [readLine, readLine, if_neg (by simpa using longerInked), if_neg (by simpa using inked),
      columns, Text.indentation_withComment inked, List.foldl_append]
  have loops : (nesting.readLine (line.withComment comment)).tally.loops =
      (nesting.readLine line).tally.loops + LoopChain.headersBehind line comment := by
    rw [read, foldl_meetHeader, length]
  refine ⟨loops, ?_⟩
  rw [← LoopChain.headersBehind_eq_zero_iff]
  constructor
  · intro same
    rw [same] at loops
    omega
  · intro none
    rw [none, List.length_eq_zero_iff] at length
    rw [read, length]
    rfl

/-- Colons, keywords and a quote that is never closed do no harm by themselves. -/
theorem readLine_withComment_harmless :
    ColumnNesting.readLine ⟨[0], ⟨1, 1⟩⟩
        (Text.withComment "    while busy:".toList "wait: 'for' it, don't: forks".toList) =
      ColumnNesting.readLine ⟨[0], ⟨1, 1⟩⟩ "    while busy:".toList := by
  apply (readLine_withComment ⟨[0], ⟨1, 1⟩⟩ ?_ ?_ _).2.mpr
  · decide +kernel
  · decide +kernel
  · decide +kernel

/-- A comment of one line can add a loop. -/
theorem not_forall_readLine_withComment :
    ¬∀ (nesting : ColumnNesting) (line comment : Text),
      LoopChain.opensLoop line.strip = true → line.any isQuote = false → '#' ∉ line →
        comment.any isLineBreak = false →
          nesting.readLine (line.withComment comment) = nesting.readLine line := by
  intro harmless
  have same := harmless .initial "for x in xs:".toList "note: for y".toList (by decide +kernel)
    (by decide +kernel) (by decide +kernel) (by decide +kernel)
  revert same
  decide +kernel

end ColumnNesting

end GrowthGauge
