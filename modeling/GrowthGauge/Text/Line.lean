import GrowthGauge.Text.Blank

namespace GrowthGauge

/-! ## Lines

A line ends at any of the Unicode line boundaries, and a carriage return with
the line feed after it is one boundary. A text that ends in a boundary has no
empty line after it. -/

def isLineBreak (character : Char) : Bool :=
  let code := character.toNat
  (0x0A ≤ code && code ≤ 0x0D) || (0x1C ≤ code && code ≤ 0x1E) ||
  code == 0x85 || code == 0x2028 || code == 0x2029

namespace Text

/-- The lines of `rest`, the first of which already holds the characters of
`current`, last one first. -/
def linesFrom : (current : Text) → (rest : Text) → List Text
  | [], [] => []
  | head :: tail, [] => [(head :: tail).reverse]
  | current, '\r' :: '\n' :: rest => current.reverse :: linesFrom [] rest
  | current, character :: rest =>
      if isLineBreak character then
        current.reverse :: linesFrom [] rest
      else
        linesFrom (character :: current) rest

def lines (text : Text) : List Text :=
  linesFrom [] text

example : lines "a\r\nb\n\nc\n".toList = [['a'], ['b'], [], ['c']] := rfl

example : lines [] = [] := rfl

end Text

end GrowthGauge
