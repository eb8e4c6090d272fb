import GrowthGauge.Number.Double
import GrowthGauge.Text.Case

namespace GrowthGauge

/-! ## Numbers in text fields

A text field may hold a number with blanks around it. The information separators
are no such blanks. An underscore may stand between two digits. -/

namespace NumberText

def isPadding (character : Char) : Bool :=
  isBlank character && !(0x1C ≤ character.toNat && character.toNat ≤ 0x1F)

def trim (text : Text) : Text :=
  ((text.dropWhile isPadding).reverse.dropWhile isPadding).reverse

def natOfDigits (digits : Text) : Nat :=
  digits.foldl (fun total digit => 10 * total + (digit.toNat - '0'.toNat)) 0

def hasDoubled (mark : Char) : Text → Bool
  | first :: second :: rest =>
      (first == mark && second == mark) || hasDoubled mark (second :: rest)
  | _ => false

/-- The text without its underscores, if each of them is a single one inside. -/
def withoutUnderscores? (text : Text) : Option Text :=
  if !text.contains '_' || text.head? == some '_' || text.getLast? == some '_' ||
      hasDoubled '_' text then
    none
  else
    some (text.filter (· != '_'))

/-! ### Integers

A number in plain digits has a limit on how many there are, whatever its sign. Any
other text is first cleaned of blanks, a plus sign, leading zeros, a fraction of
zeros and single underscores. -/

/-- The most digits that a written integer has. -/
def digitLimit : Nat := 4300

def withoutMinus (text : Text) : Text :=
  if text.head? == some '-' then text.drop 1 else text

/-- The digits of the plain number that a text begins with, which has no leading
zero. There are none if it begins with no such number. -/
def plainDigits (text : Text) : Text :=
  let digits := (withoutMinus text).takeWhile Char.isDigit
  if digits.head? == some '0' then [] else digits

/-- A text that begins with too long a plain number. What follows does not count. -/
def isOversized (text : Text) : Bool :=
  digitLimit < (plainDigits text).length

example : plainDigits "-120.5".toList = ['1', '2', '0'] := rfl

example : plainDigits "0120".toList = [] := rfl

/-- The text from its first significant character on, which is a digit other
than zero or a minus sign behind the zeros. Of zeros alone the last is kept, and
the one before a decimal point. -/
def fromSignificant (zero : Char) : Text → Option Text
  | [] => some [zero]
  | character :: rest =>
      if character == '0' || character == '_' then
        fromSignificant character rest
      else if character.isDigit || character == '-' then
        some (character :: rest)
      else if character == '.' then
        some (zero :: character :: rest)
      else
        none

def unsignedWithoutLeadingZeros? (text : Text) : Option Text :=
  match text with
  | [] => none
  | character :: rest =>
      if character == '0' then
        fromSignificant character rest
      else if character.isDigit then
        some text
      else
        none

/-- A minus sign in front stays where it is. -/
def withoutLeadingZeros? (text : Text) : Option Text :=
  match text with
  | '-' :: rest => (unsignedWithoutLeadingZeros? rest).map ('-' :: ·)
  | _ => unsignedWithoutLeadingZeros? text

/-- A plus sign may stand before the number, but not before a minus sign. -/
def withoutPlus? (text : Text) : Option Text :=
  match text with
  | '+' :: '-' :: _ => none
  | '+' :: rest => some rest
  | _ => some text

/-- A fraction of zeros only is dropped with its point. It has at least one. -/
def withoutZeroFraction (text : Text) : Text :=
  let whole := text.takeWhile (· != '.')
  let fraction := (text.dropWhile (· != '.')).drop 1
  if !fraction.isEmpty && fraction.all (· == '0') then whole else text

/-- Digits without a leading zero. -/
def naturalOfText? (text : Text) : Option Nat :=
  if text.isEmpty || !text.all Char.isDigit || (text.head? == some '0' && text != ['0']) then
    none
  else
    some (natOfDigits text)

def signedOfText? (text : Text) : Option Int :=
  match text with
  | '-' :: rest => (naturalOfText? rest).map fun size => -(size : Int)
  | _ => (naturalOfText? text).map Int.ofNat

/-- The text of an integer that is left of a text when it has been cleaned. -/
def cleaned? (text : Text) : Option Text := do
  let unsigned ← withoutPlus? (trim text)
  let significant ← withoutLeadingZeros? unsigned
  let whole := withoutZeroFraction significant
  some ((withoutUnderscores? whole).getD whole)

/-- The integer that a text field holds. -/
def integer? (text : Text) : Option Int := do
  let cleaned ← cleaned? text
  if digitLimit < (withoutMinus cleaned).length then none else signedOfText? cleaned

example : integer? " 42.00 ".toList = some 42 := by decide +kernel

example : integer? "-1_000".toList = some (-1000) := by decide +kernel

example : integer? "-007".toList = some (-7) := by decide +kernel

example : integer? "0-7".toList = some (-7) := by decide +kernel

example : integer? "8.5".toList = none := by decide +kernel

example : integer? "8.".toList = none := by decide +kernel

/-! ### Doubles -/

def splitSign (text : Text) : Bool × Text :=
  match text with
  | '-' :: rest => (true, rest)
  | '+' :: rest => (false, rest)
  | _ => (false, text)

def exponentOfText? (text : Text) : Option Int :=
  let (negative, digits) := splitSign text
  if digits.isEmpty || !digits.all Char.isDigit then
    none
  else
    let size : Int := natOfDigits digits
    some (if negative then -size else size)

def isExponentMark (character : Char) : Bool :=
  character == 'e' || character == 'E'

/-- Digits with at most one point among or beside them, and perhaps an exponent. -/
def decimalOfText? (negative : Bool) (text : Text) : Option Double := do
  let mantissa := text.takeWhile fun character => !isExponentMark character
  let marked := text.dropWhile fun character => !isExponentMark character
  let exponent ← if marked.isEmpty then some 0 else exponentOfText? (marked.drop 1)
  let whole := mantissa.takeWhile Char.isDigit
  let pointed := mantissa.dropWhile Char.isDigit
  let fraction ←
    match pointed with
    | [] => some []
    | '.' :: digits => if digits.all Char.isDigit then some digits else none
    | _ => none
  if whole.isEmpty && fraction.isEmpty then
    none
  else
    some (.ofDecimal negative (natOfDigits (whole ++ fraction)) (exponent - fraction.length))

def isNamed (names : List String) (text : Text) : Bool :=
  names.any fun name => text.isSameIgnoringCase name.toList

def doubleOfText? (text : Text) : Option Double :=
  let (negative, unsigned) := splitSign text
  if isNamed ["inf", "infinity"] unsigned then
    some (.infinite negative)
  else if isNamed ["nan"] unsigned then
    some .undefined
  else
    decimalOfText? negative unsigned

/-- The double that a text field holds. -/
def double? (text : Text) : Option Double :=
  (doubleOfText? (trim text)).or ((withoutUnderscores? text).bind doubleOfText?)

example : double? "1e2".toList = some (.ofDecimal false 100 0) := by decide +kernel

example : double? "-.5".toList = some (.ofDecimal true 5 (-1)) := by decide +kernel

example : double? ".".toList = none := by decide +kernel

end NumberText

end GrowthGauge
