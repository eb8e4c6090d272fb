import GrowthGauge.Pattern.Search

namespace GrowthGauge

/-! ## Block layout

A snippet delimits its blocks by indentation or by braces. Two kinds of header
line show indentation, and only where no opening brace follows them on their
line. A snippet that shows neither counts as braced. -/

inductive IndentedHeader
  | functionHeader
  | loopHeader
deriving Repr, DecidableEq

namespace IndentedHeader

open Pattern

def all : List IndentedHeader :=
  [.functionHeader, .loopHeader]

def label : IndentedHeader → String
  | functionHeader => "def-header"
  | loopHeader => "for-in-colon"

def isTabOrSpace (character : Char) : Bool :=
  character == ' ' || character == '\t'

def isBraceless (character : Char) : Bool :=
  character != '{' && character != '\n'

def pattern : IndentedHeader → Pattern
  | functionHeader =>
      inOrder [lineStart, many isTabOrSpace, exactly "def", someBlanks, wordRun, blanks,
        char '(', many isBraceless, lineEnd]
  | loopHeader =>
      inOrder [lineStart, many isTabOrSpace, exactly "for", someBlanks, wordRun,
        repeated (inOrder [blanks, char ',', blanks, wordRun]),
        someBlanks, exactly "in", someBlanks, many isBraceless, char ':']

/-- The kinds of indented header that a snippet shows. -/
def shownIn (snippet : Text) : List IndentedHeader :=
  formsIn all pattern snippet

end IndentedHeader

inductive BlockLayout
  | braced
  | indented
deriving Repr, DecidableEq

namespace BlockLayout

def ofSnippet (snippet : Text) : BlockLayout :=
  if (IndentedHeader.shownIn snippet).isEmpty then .braced else .indented

def isIndented : BlockLayout → Bool
  | braced => false
  | indented => true

example : ofSnippet "for k, v in pairs:\n    use(k)".toList = .indented := by decide +kernel

example : ofSnippet "for (;;) \x7b \x7d".toList = .braced := by decide +kernel

end BlockLayout

end GrowthGauge
