import GrowthGauge.Text.Blank

namespace GrowthGauge

/-! ## Masked string literals

A colon or a keyword inside a string literal is no code. Masking replaces the
inside of every literal by spaces and keeps every column. A literal runs from a
quote to the next quote of its kind; a backslash takes the character after it
along, unless that is a line feed, which leaves the literal open. A quote that
opens no closed literal is an ordinary character. -/

def isQuote (character : Char) : Bool :=
  character == '\'' || character == '"'

/-- A literal that was opened by `quote` just before this text is closed in it. -/
def closesLiteral (quote : Char) : Text → Bool
  | [] => false
  | ['\\'] => false
  | '\\' :: escaped :: rest => escaped != '\n' && closesLiteral quote rest
  | character :: rest => character == quote || closesLiteral quote rest

/-- The rest of a line masked. Inside a literal, `inside` is the quote that will
close it. -/
def maskFrom : (inside : Option Char) → Text → Text
  | _, [] => []
  | some quote, '\\' :: _ :: rest => ' ' :: ' ' :: maskFrom (some quote) rest
  | some quote, character :: rest =>
      if character == quote then
        character :: maskFrom none rest
      else
        ' ' :: maskFrom (some quote) rest
  | none, character :: rest =>
      if isQuote character && closesLiteral character rest then
        character :: maskFrom (some character) rest
      else
        character :: maskFrom none rest

def Text.masked (line : Text) : Text :=
  maskFrom none line

example : Text.masked "f('a: b', \"c\")".toList = "f('    ', \" \")".toList := by decide

example : Text.masked "it's 'x'".toList = "it'  'x'".toList := by decide

theorem length_maskFrom (inside : Option Char) (line : Text) :
    (maskFrom inside line).length = line.length := by
  fun_induction maskFrom inside line <;> simp_all

/-- Masking keeps every column. -/
theorem length_masked (line : Text) : line.masked.length = line.length :=
  length_maskFrom none line

end GrowthGauge
