namespace GrowthGauge

/-! A text is the sequence of its code points. Lengths, columns and cuts count
code points, so a list of characters is the whole of what an analysis reads. -/

abbrev Text := List Char

/-! ## Blank characters

The blank characters are the ones that separate words on a page: the ASCII
controls from tab to carriage return, the four information separators, the next
line control and the Unicode spaces. The zero-width characters are not blank. -/

def isBlank (character : Char) : Bool :=
  let code := character.toNat
  (0x09 ≤ code && code ≤ 0x0D) || (0x1C ≤ code && code ≤ 0x20) ||
  code == 0x85 || code == 0xA0 || code == 0x1680 ||
  (0x2000 ≤ code && code ≤ 0x200A) ||
  code == 0x2028 || code == 0x2029 || code == 0x202F || code == 0x205F || code == 0x3000

example : isBlank ' ' = true := rfl

example : isBlank '\u3000' = true := rfl

example : isBlank '\u200b' = false := rfl

/-- Every character that core calls white space is blank. -/
theorem isBlank_of_isWhitespace {character : Char}
    (white : character.isWhitespace = true) : isBlank character = true := by
  simp only [Char.isWhitespace, Bool.or_eq_true, decide_eq_true_eq] at white
  rcases white with ((equal | equal) | equal) | equal <;> subst equal <;> rfl

namespace Text

def stripStart (text : Text) : Text :=
  text.dropWhile isBlank

def stripEnd (text : Text) : Text :=
  (text.reverse.dropWhile isBlank).reverse

/-- The text without the blank characters at its two ends. -/
def strip (text : Text) : Text :=
  text.stripStart.stripEnd

/-- A text with nothing but blank characters, the empty text among them. -/
def isAllBlank (text : Text) : Bool :=
  text.all isBlank

/-- The column at which a line's first non-blank character stands. -/
def indentation (line : Text) : Nat :=
  (line.takeWhile isBlank).length

example : strip [' ', 'a', ' ', 'b', '\n'] = ['a', ' ', 'b'] := rfl

example : indentation ['\t', ' ', 'x'] = 2 := rfl

end Text

end GrowthGauge
