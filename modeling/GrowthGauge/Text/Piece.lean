import GrowthGauge.Text.Blank

namespace GrowthGauge.Text

/-! ## Pieces

A text falls into pieces at every place where a separator stands. There is one
piece more than there are separators, and a piece may be empty. -/

def piecesFrom (separator : Char) : (current : Text) → Text → List Text
  | current, [] => [current.reverse]
  | current, character :: rest =>
      if character == separator then
        current.reverse :: piecesFrom separator [] rest
      else
        piecesFrom separator (character :: current) rest

def pieces (separator : Char) (text : Text) : List Text :=
  piecesFrom separator [] text

example : pieces ',' ['a', ',', ',', 'b'] = [['a'], [], ['b']] := rfl

example : pieces ',' [] = [[]] := rfl

end GrowthGauge.Text
