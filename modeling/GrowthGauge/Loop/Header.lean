import GrowthGauge.Pattern.Search

namespace GrowthGauge

/-! ## Loop headers in braced text

The spellings of a loop header in languages whose blocks stand in braces. They
are tried in this order, and the first that occurs anywhere in the line names
the header. -/

inductive LoopHeader
  | forParens
  | forIn
  | forOf
  | forShortDeclaration
  | whileParens
  | whileIn
  | doBlock
deriving Repr, DecidableEq

namespace LoopHeader

open Pattern

def all : List LoopHeader :=
  [.forParens, .forIn, .forOf, .forShortDeclaration, .whileParens, .whileIn, .doBlock]

def label : LoopHeader → String
  | forParens => "for-parens"
  | forIn => "for-in"
  | forOf => "for-of"
  | forShortDeclaration => "for-short-decl"
  | whileParens => "while-parens"
  | whileIn => "while-in"
  | doBlock => "do-block"

/-- A keyword, one identifier and a connecting word, each set off by blanks. -/
def overPattern (keyword connector : String) : Pattern :=
  inOrder [boundary, exactly keyword, someBlanks, identifier, someBlanks,
    exactly connector, someBlanks]

def pattern : LoopHeader → Pattern
  | forParens => inOrder [boundary, exactly "for", blanks, char '(']
  | forIn => overPattern "for" "in"
  | forOf => overPattern "for" "of"
  | forShortDeclaration =>
      inOrder [boundary, exactly "for", someBlanks, identifier,
        repeated (inOrder [blanks, char ',', blanks, identifier]),
        blanks, exactly ":="]
  | whileParens => inOrder [boundary, exactly "while", blanks, char '(']
  | whileIn => overPattern "while" "in"
  | doBlock => inOrder [boundary, exactly "do", blanks, char '{']

/-- The closing line of a `do` block. Its condition belongs to the loop that the
block opened and opens none itself. -/
def doWhileTail : Pattern :=
  inOrder [char '}', blanks, exactly "while", blanks, char '(', many isInline, char ')',
    blanks, perhaps (char ';'), blanks, textEnd]

def isDoWhileTail (line : Text) : Bool :=
  (doWhileTail.matchStart? line.strip).isSome

/-- The loop header that a line of braced text carries. -/
def ofLine? (line : Text) : Option LoopHeader :=
  if isDoWhileTail line then
    none
  else
    (firstForm all pattern line.strip).map Prod.fst

example : ofLine? "for (int i = 0;".toList = some forParens := by decide +kernel

example : ofLine? "  for i, v := range xs \x7b".toList = some forShortDeclaration := by
  decide +kernel

example : ofLine? "\x7d while (more);".toList = none := by decide +kernel

end LoopHeader

end GrowthGauge
