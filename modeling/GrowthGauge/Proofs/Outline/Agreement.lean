import GrowthGauge.Proofs.Outline.Reading
import GrowthGauge.Proofs.Signals.Lacking

namespace GrowthGauge

/-! ## Where loops alone decide

Without calls to itself and without halving, a snippet is judged by the depth of its
loops. -/

def Growth.ofDepth : Nat → Growth
  | 0 => .constant
  | 1 => .linear
  | 2 => .quadratic
  | _ => .cubic

example : (List.range 6).map (fun depth => (Growth.ofDepth depth).text) =
    ["O(1)", "O(n)", "O(n²)", "O(n³)", "O(n³)", "O(n³)"] := by decide

namespace DecisionRule

/-- The rules that look at loops only. They come last. -/
def loopRules : List DecisionRule :=
  [noLoops, singleLoop, nestedLoops, deepNesting]

variable {signals : Signals}

theorem deciding_of_find? (noCalls : signals.selfCalls = 0) (noHalving : signals.halving = false)
    {rule : DecisionRule} (found : loopRules.find? (·.applies signals) = some rule) :
    deciding signals = rule := by
  have notRecursive : signals.isRecursive = false := by simp [Signals.isRecursive, noCalls]
  have noEarlier : all.find? (·.applies signals) = loopRules.find? (·.applies signals) := by
    simp [all, loopRules, List.find?_cons, applies, isLooplessRecursion, notRecursive, noHalving]
  exact deciding_eq_of_find? (noEarlier.trans found)

theorem growth_deciding (noCalls : signals.selfCalls = 0) (noHalving : signals.halving = false)
    (counted : signals.loops = 0 ↔ signals.deepest = 0) :
    (deciding signals).growth = Growth.ofDepth signals.deepest := by
  have decides (rule : DecisionRule) (found : loopRules.find? (·.applies signals) = some rule) :
      (deciding signals).growth = rule.growth :=
    congrArg growth (deciding_of_find? noCalls noHalving found)
  by_cases loopless : signals.loops = 0
  · rw [counted.mp loopless]
    exact decides noLoops (by simp [loopRules, applies, loopless])
  · have nested : signals.deepest ≠ 0 := mt counted.mpr loopless
    rcases depth : signals.deepest with _ | _ | _ | deeper
    · exact absurd depth nested
    · exact decides singleLoop (by simp [loopRules, applies, loopless, depth])
    · exact decides nestedLoops (by simp [loopRules, applies, loopless, depth])
    · exact decides deepNesting (by simp [loopRules, applies, loopless, depth])

end DecisionRule

/-! ## What both renderings lack -/

namespace Outline

/-- All that is ever written on a row. -/
def vocabulary : List Text :=
  indentedLoopWords :: indentedPlainWords ++ bracedWords

structure IsRendering (rows : List Row) : Prop where
  nonempty : rows ≠ []
  written : ∀ row ∈ rows, row.words ∈ vocabulary

theorem isRendering_indentedRows (outline : Outline) (column : Nat) :
    IsRendering (outline.indentedRows column) := by
  constructor
  · induction outline with
    | sequence first second induction _ => exact List.append_ne_nil_of_left_ne_nil induction _
    | _ => exact List.cons_ne_nil _ _
  · intro row member
    rcases outline.words_indentedRows column row member with plain | ⟨isLoop, _⟩
    · exact List.mem_append_left _ (List.mem_cons_of_mem _ plain)
    · rw [isLoop]
      exact List.mem_cons_self

theorem isRendering_bracedRows (outline : Outline) (width column : Nat) :
    IsRendering (outline.bracedRows width column) := by
  constructor
  · induction outline with
    | sequence first second induction _ => exact List.append_ne_nil_of_left_ne_nil induction _
    | _ => exact List.cons_ne_nil _ _
  · intro row member
    exact List.mem_append_right _ (outline.words_bracedRows width column row member)

/-- A property of no character in these words, the space and the line feed is one of no
character in rows with these words. -/
theorem lacks_join {rows : List Row} {words : List Text} (written : ∀ row ∈ rows, row.words ∈ words)
    {property : Char → Bool}
    (lacks : (('\n' :: ' ' :: words.flatten).all (!property ·)) = true) :
    (Row.join rows).Lacks property := by
  intro character member
  rw [List.all_eq_true] at lacks
  have inAll : character ∈ '\n' :: ' ' :: words.flatten := by
    rcases Row.mem_join member with lineFeed | space | ⟨row, inRows, inWords⟩
    · exact lineFeed ▸ List.mem_cons_self
    · exact space ▸ List.mem_cons_of_mem _ List.mem_cons_self
    · exact List.mem_cons_of_mem _ (List.mem_cons_of_mem _
        (List.mem_flatten.mpr ⟨row.words, written row inRows, inWords⟩))
  simpa using lacks character inAll

variable {rows : List Row}

theorem lines_rendering (rendering : IsRendering rows) :
    (Row.join rows).lines = rows.map Row.line := by
  have areLines : ∀ words ∈ vocabulary, words.isLine = true := by decide
  exact Row.lines_join fun row member => areLines row.words (rendering.written row member)

theorem isAllBlank_rendering (rendering : IsRendering rows) :
    (Row.join rows).isAllBlank = false := by
  have inked : ∀ words ∈ vocabulary, words.isAllBlank = false := by decide
  rcases List.exists_mem_of_ne_nil rows rendering.nonempty with ⟨row, inRows⟩
  have rowInked := inked row.words (rendering.written row inRows)
  rw [Text.isAllBlank, List.all_eq_false] at rowInked ⊢
  rcases rowInked with ⟨character, inWords, notBlank⟩
  exact ⟨character, Row.mem_join_of_mem inRows inWords, notBlank⟩

theorem scan_rendering (rendering : IsRendering rows) {layout : BlockLayout}
    (shows : BlockLayout.ofSnippet (Row.join rows) = layout) :
    scan (Row.join rows) =
      { loops := (loopTally layout (Row.join rows)).loops
        deepest := (loopTally layout (Row.join rows)).deepest
        layout
        functionName := none
        selfCalls := 0
        halving := false
        mergeHint := hasMergeHint (Row.join rows) } := by
  have noDeclaration : (Row.join rows).Lacks isKeywordLetter :=
    lacks_join rendering.written (by decide)
  have noHalving : (Row.join rows).Lacks isHalvingMark :=
    lacks_join rendering.written (by decide)
  simp only [scan, shows, PrimaryFunction.ofSnippet_of_lacks noDeclaration,
    hasHalving_of_lacks noHalving, Option.map_none]

theorem classify_rendering (rendering : IsRendering rows) {layout : BlockLayout}
    (shows : BlockLayout.ofSnippet (Row.join rows) = layout)
    {loops depth : Nat} (tally : loopTally layout (Row.join rows) = ⟨loops, depth⟩)
    (counted : loops = 0 ↔ depth = 0) :
    (classify (Row.join rows)).map (·.growth) = .ok (Growth.ofDepth depth) := by
  have noExample : (Row.join rows).Lacks (· == 'e') := lacks_join rendering.written (by decide)
  rw [classify, isAllBlank_rendering rendering, if_neg Bool.false_ne_true,
    Catalog.known?_of_lacks noExample, scan_rendering rendering shows, tally]
  exact congrArg Except.ok (DecisionRule.growth_deciding rfl rfl counted)

/-! ## The layouts -/

section

open Pattern

theorem covers_loopRow (place : Nat) :
    (inOrder [many IndentedHeader.isTabOrSpace, exactly "for", someBlanks, wordRun,
      repeated (inOrder [blanks, char ',', blanks, wordRun]), someBlanks, exactly "in",
      someBlanks, many IndentedHeader.isBraceless, char ':']).Covers
        (Row.line ⟨place, indentedLoopWords⟩) := by
  have spaces : ∀ character ∈ List.replicate place ' ',
      IndentedHeader.isTabOrSpace character = true := by
    intro character member
    rw [List.eq_of_mem_replicate member]
    rfl
  have blank : someBlanks.Covers [' '] := covers_seq (covers_one rfl) (covers_many (by simp))
  have word : wordRun.Covers ['v'] := covers_seq (covers_one rfl) (covers_many (by simp))
  have name : ∀ character ∈ "xs".toList, IndentedHeader.isBraceless character = true :=
    List.all_eq_true.mp (by decide)
  have written : Row.line ⟨place, indentedLoopWords⟩ =
      [List.replicate place ' ', "for".toList, [' '], ['v'], [], [' '], "in".toList, [' '],
        "xs".toList, [':']].flatten := rfl
  rw [written]
  apply covers_inOrder
  exact .cons (covers_many spaces) (.cons (covers_literal _) (.cons blank (.cons word
    (.cons (covers_repeated_nil _) (.cons blank (.cons (covers_literal _) (.cons blank
    (.cons (covers_many name) (.cons (covers_char ':') .nil)))))))))

end

/-- A row that is a loop header shows that the text is indented. -/
theorem ofSnippet_of_loopRow {place : Nat} (member : ⟨place, indentedLoopWords⟩ ∈ rows) :
    BlockLayout.ofSnippet (Row.join rows) = .indented := by
  have inLines : Row.line ⟨place, indentedLoopWords⟩ ∈ rows.map Row.line :=
    List.mem_map_of_mem member
  rcases Text.exists_joined_split inLines with ⟨before, after, split, starts⟩
  have occurs : IndentedHeader.loopHeader.pattern.occursIn (Row.join rows) = true := by
    let cursor : Cursor := ⟨before.getLast?, Row.line ⟨place, indentedLoopWords⟩ ++ after, none⟩
    have atStart : cursor ∈ Pattern.lineStart.ends cursor := by
      rw [Pattern.ends, if_pos starts]
      exact List.mem_cons_self
    have covered := covers_loopRow place cursor after rfl
    exact (Pattern.occursIn_iff _ _).mpr
      ⟨before, _, split, _, Pattern.mem_ends_inOrder_cons.mpr ⟨cursor, atStart, covered⟩⟩
  have shown : IndentedHeader.loopHeader ∈ IndentedHeader.shownIn (Row.join rows) :=
    List.mem_filter.mpr ⟨by decide, occurs⟩
  rw [BlockLayout.ofSnippet, List.isEmpty_eq_false_iff.mpr (List.ne_nil_of_mem shown)]
  rfl

theorem ofSnippet_bracedText (outline : Outline) (width : Nat) :
    BlockLayout.ofSnippet (outline.bracedText width) = .braced := by
  have written := outline.words_bracedRows width 0
  exact BlockLayout.ofSnippet_of_lacks (lacks_join written (by decide))
    (.inr (lacks_join written (by decide)))

theorem plain_indentedRows {outline : Outline} (loopless : outline.loops = 0) (column : Nat) :
    ∀ row ∈ outline.indentedRows column, row.words ∈ indentedPlainWords := by
  intro row member
  rcases outline.words_indentedRows column row member with plain | ⟨_, positive⟩
  · exact plain
  · exact absurd loopless (Nat.ne_of_gt positive)

theorem loopTally_bracedText (outline : Outline) (width : Nat) :
    loopTally .braced (outline.bracedText width) = ⟨outline.loops, outline.depth⟩ := by
  rw [loopTally, BraceNesting.readText, bracedText,
    lines_rendering (outline.isRendering_bracedRows width 0)]
  exact BraceNesting.readLines_bracedRows outline width 0

/-- The layout that an indented outline shows, and the loops that are counted for it.
An outline without loops shows nothing, so its lines are read as lines in braces. -/
theorem exists_layout_indentedText (outline : Outline) :
    ∃ layout, BlockLayout.ofSnippet outline.indentedText = layout ∧
      (layout = .indented ↔ 0 < outline.loops) ∧
      loopTally layout outline.indentedText = ⟨outline.loops, outline.depth⟩ := by
  have lines := lines_rendering (outline.isRendering_indentedRows 0)
  rcases Nat.eq_zero_or_pos outline.loops with loopless | positive
  · have plain := plain_indentedRows loopless 0
    refine ⟨.braced, ?_, by simp [loopless], ?_⟩
    · exact BlockLayout.ofSnippet_of_lacks (lacks_join plain (by decide))
        (.inl (lacks_join plain (by decide)))
    · rw [loopTally, BraceNesting.readText, indentedText, lines,
        BraceNesting.readLines_plainRows plain rfl, loopless,
        (outline.loops_eq_zero_iff).mp loopless]
      rfl
  · rcases exists_loop_row positive 0 with ⟨place, member⟩
    refine ⟨.indented, ofSnippet_of_loopRow member, by simp [positive], ?_⟩
    rw [loopTally, ColumnNesting.readText, indentedText, lines]
    exact ColumnNesting.readLines_indentedText outline

/-! ## The same verdict -/

/-- Both renderings of an outline are found to have its loops, at its depth, though
different readers count them whenever there is a loop, and both get the verdict that
this depth calls for. -/
theorem renderings_agree (outline : Outline) (width : Nat) :
    (scan outline.indentedText).loops = outline.loops ∧
    (scan outline.indentedText).deepest = outline.depth ∧
    (scan (outline.bracedText width)).loops = outline.loops ∧
    (scan (outline.bracedText width)).deepest = outline.depth ∧
    ((scan outline.indentedText).layout = .indented ↔ 0 < outline.loops) ∧
    (scan (outline.bracedText width)).layout = .braced ∧
    (classify outline.indentedText).map (·.growth) = .ok (Growth.ofDepth outline.depth) ∧
    (classify (outline.bracedText width)).map (·.growth) = .ok (Growth.ofDepth outline.depth) := by
  rcases outline.exists_layout_indentedText with ⟨layout, shows, isIndented, tally⟩
  have indented := outline.isRendering_indentedRows 0
  have braced := outline.isRendering_bracedRows width 0
  have bracedShows := outline.ofSnippet_bracedText width
  have bracedTally := outline.loopTally_bracedText width
  have counted := outline.loops_eq_zero_iff
  have scanned := scan_rendering indented shows
  have bracedScanned := scan_rendering braced bracedShows
  change loopTally layout (Row.join (outline.indentedRows 0)) = _ at tally
  change loopTally .braced (Row.join (outline.bracedRows width 0)) = _ at bracedTally
  rw [tally] at scanned
  rw [bracedTally] at bracedScanned
  rw [indentedText, bracedText, scanned, bracedScanned]
  exact ⟨rfl, rfl, rfl, rfl, isIndented, rfl, classify_rendering indented shows tally counted,
    classify_rendering braced bracedShows bracedTally counted⟩

end Outline

end GrowthGauge
