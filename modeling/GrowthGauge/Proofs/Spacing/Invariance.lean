import GrowthGauge.Analysis
import GrowthGauge.Proofs.Spacing.Declarations
import GrowthGauge.Proofs.Spacing.Hints
import GrowthGauge.Proofs.Spacing.Tracking

namespace GrowthGauge

/-! ## Spacing that makes no difference

Every signal but the loops is read off the ink of a text, and the loops are read off its
lines. -/

theorem scan_eq {text other : Text} (same : SameInk text other)
    (loops : ∀ layout, loopTally layout text = loopTally layout other) :
    scan text = scan other := by
  simp only [scan, BlockLayout.ofSnippet_eq same, loops, PrimaryFunction.ofSnippet_eq same,
    hasHalving_eq same, hasMergeHint_eq same]

theorem Catalog.known?_eq_of_strip_eq {code other : Text} (same : code.strip = other.strip) :
    Catalog.known? code = Catalog.known? other := by
  rw [known?, known?, same]

/-- Blank text before a snippet, as long as the snippet still begins a line, and behind it
changes nothing in the analysis. -/
theorem analyze_surrounded {before after : Text} (blank : before.isAllBlank = true)
    (beginsLine : before = [] ∨ before.getLast? = some '\n')
    (afterBlank : after.isAllBlank = true) (code : Text) :
    analyze (before ++ code ++ after) = analyze code := by
  have empty : Text.isAllBlank (before ++ code ++ after) = code.isAllBlank := by
    rw [Bool.eq_iff_iff, Text.isAllBlank_append, Text.isAllBlank_append]
    exact ⟨fun whole => whole.1.2, fun inside => ⟨⟨blank, inside⟩, afterBlank⟩⟩
  have known := Catalog.known?_eq_of_strip_eq
    (Text.strip_blank_append_blank blank afterBlank code)
  have scanned := scan_eq (Text.sameInk_surrounded blank beginsLine afterBlank code)
    fun layout => loopTally_surrounded layout blank beginsLine afterBlank code
  rw [analyze, analyze, empty, known, scanned]

theorem analyze_surrounded_paste :
    Text.isAllBlank "\u2003\r\n\n".toList = true ∧
      List.getLast? "\u2003\r\n\n".toList = some '\n' ∧
      Text.isAllBlank "\n\u2028\t".toList = true ∧
      analyze ("\u2003\r\n\n".toList ++ "\tint f(int n)\r\n\t\x7b return f(n / 2); \x7d\r".toList ++
          "\n\u2028\t".toList) =
        analyze "\tint f(int n)\r\n\t\x7b return f(n / 2); \x7d\r".toList :=
  ⟨by decide, by decide, by decide,
    analyze_surrounded (by decide) (.inr (by decide)) (by decide) _⟩

/-- Carriage returns before the line feeds, or the same indentation of every line, change
nothing in the signals of a snippet without other line breaks. -/
theorem scan_restyled {code : Text}
    (breaks : ∀ character ∈ code, isLineBreak character = true → character = '\n') :
    scan code.withReturns = scan code ∧
      ∀ indent : Text, (∀ character ∈ indent, character = ' ' ∨ character = '\t') →
        scan (Text.indentedBy indent code) = scan code := by
  constructor
  · exact scan_eq (Text.sameInk_withReturns code) fun layout => loopTally_withReturns layout breaks
  · intro indent tabsAndSpaces
    have accepted : indent.all IndentedHeader.isTabOrSpace = true := by
      rw [List.all_eq_true]
      intro character member
      rw [IndentedHeader.isTabOrSpace, Bool.or_eq_true, beq_iff_eq, beq_iff_eq]
      exact tabsAndSpaces character member
    exact scan_eq (Text.sameInk_indentedBy accepted code) fun layout =>
      loopTally_indentedBy layout breaks accepted

theorem scan_restyled_loops :
    (∀ character ∈ "def f(n):\n  for a in n: while a:\n    f(a >> 1)\n".toList,
        isLineBreak character = true → character = '\n') ∧
      scan (Text.withReturns "def f(n):\n  for a in n: while a:\n    f(a >> 1)\n".toList) =
        scan "def f(n):\n  for a in n: while a:\n    f(a >> 1)\n".toList ∧
      scan (Text.indentedBy ['\t', ' ']
          "def f(n):\n  for a in n: while a:\n    f(a >> 1)\n".toList) =
        scan "def f(n):\n  for a in n: while a:\n    f(a >> 1)\n".toList := by
  have breaks : ∀ character ∈ "def f(n):\n  for a in n: while a:\n    f(a >> 1)\n".toList,
      isLineBreak character = true → character = '\n' := by
    have all : "def f(n):\n  for a in n: while a:\n    f(a >> 1)\n".toList.all
        (fun character => !isLineBreak character || character == '\n') = true := by decide
    intro character member isBreak
    simpa [isBreak] using List.all_eq_true.mp all character member
  have restyled := scan_restyled breaks
  exact ⟨breaks, restyled.1, restyled.2 ['\t', ' '] (by simp)⟩

end GrowthGauge
