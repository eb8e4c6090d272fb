import GrowthGauge.Pattern.Search

namespace GrowthGauge

/-! ## Halving

The spellings that show that a range is cut in half: a division by two, a shift
right by one place, and the usual ways of computing a midpoint. A digit after
the last one makes a different number. -/

inductive HalvingForm
  | divideByTwo
  | floorDivideByTwo
  | shiftRightByOne
  | floorOfMidpoint
  | midpointOfBounds
deriving Repr, DecidableEq

namespace HalvingForm

open Pattern

def all : List HalvingForm :=
  [.divideByTwo, .floorDivideByTwo, .shiftRightByOne, .floorOfMidpoint, .midpointOfBounds]

def label : HalvingForm → String
  | divideByTwo => "divide-by-two"
  | floorDivideByTwo => "floor-divide-by-two"
  | shiftRightByOne => "shift-right-by-one"
  | floorOfMidpoint => "floor-of-midpoint"
  | midpointOfBounds => "midpoint-of-bounds"

/-- The digit, and no longer number. -/
def wholeNumber (digit : Char) : Pattern :=
  seq (char digit) (notFollowedBy isDecimalDigit)

/-- The operator may be joined with an assignment. -/
def assignable (operator : Pattern) (digit : Char) : Pattern :=
  inOrder [operator, blanks, perhaps (char '='), blanks, wholeNumber digit]

def rightShift : Pattern :=
  inOrder [exactly ">>", perhaps (char '>')]

def isOutsideParens (character : Char) : Bool :=
  character != '(' && character != ')'

def pattern : HalvingForm → Pattern
  | divideByTwo => assignable (char '/') '2'
  | floorDivideByTwo => assignable (exactly "//") '2'
  | shiftRightByOne => assignable rightShift '1'
  | floorOfMidpoint =>
      inOrder [exactly "floor", blanks, char '(', fewest isInline, char '/', blanks,
        wholeNumber '2']
  | midpointOfBounds =>
      inOrder [char '(', atLeastOne isOutsideParens, char '+', atLeastOne isOutsideParens,
        char ')', blanks,
        either
          (inOrder [char '/', perhaps (char '/'), blanks, char '2'])
          (inOrder [rightShift, blanks, char '1']),
        notFollowedBy isDecimalDigit]

/-- The forms of halving that a snippet shows. -/
def shownIn (snippet : Text) : List HalvingForm :=
  formsIn all pattern snippet

end HalvingForm

def hasHalving (snippet : Text) : Bool :=
  HalvingForm.all.any fun form => form.pattern.occursIn snippet

example : HalvingForm.shownIn "n >>= 1".toList = [.shiftRightByOne] := by decide +kernel

example : hasHalving "n / 20".toList = false := by decide +kernel

/-! ## Merge hints

A snippet that speaks of merging, splitting or dividing hints at divide and
conquer, in whatever case the letters are. The long s counts as an s, and the
dotless and the dotted i of Turkish count as an i. -/

namespace MergeHint

open Pattern

def words : List String :=
  ["merge", "split", "divide"]

def foldLetter (character : Char) : Char :=
  if character == '\u017F' then
    's'
  else if character == '\u0130' || character == '\u0131' then
    'i'
  else
    character.toLower

def letter (expected : Char) : Pattern :=
  one fun character => foldLetter character == expected

def pattern : Pattern :=
  firstOf (words.map fun word => inOrder (word.toList.map letter))

end MergeHint

def hasMergeHint (snippet : Text) : Bool :=
  MergeHint.pattern.occursIn snippet

example : hasMergeHint "// Mer\u0131ge or D\u0130vide".toList = true := by decide +kernel

end GrowthGauge
