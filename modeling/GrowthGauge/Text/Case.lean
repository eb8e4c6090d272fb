import GrowthGauge.Text.Blank

namespace GrowthGauge

/-! ## Letter case

Names that are compared in any case are plain ASCII. Lowering a name therefore
need only get the letters right whose lower case is an ASCII letter: the ASCII
capitals and the Kelvin sign. -/

def lowerLetter (character : Char) : Char :=
  if character == '\u212A' then 'k' else character.toLower

namespace Text

def lowered (text : Text) : Text :=
  text.map lowerLetter

/-- The same text but for the case of ASCII letters. -/
def isSameIgnoringCase (left right : Text) : Bool :=
  left.map Char.toLower == right.map Char.toLower

example : lowered ['A', '\u212A', 'b'] = ['a', 'k', 'b'] := rfl

end Text

end GrowthGauge
