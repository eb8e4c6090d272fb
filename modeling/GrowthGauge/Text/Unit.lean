import GrowthGauge.Text.Blank

namespace GrowthGauge

/-! ## Code units

In units of sixteen bits a character beyond the first 65536 is a surrogate pair:
a leading unit and a trailing one. Half a pair without its partner is no
character. Where a text must be had, it reads as the replacement character. -/

namespace CodeUnit

def isLeading (unit : Nat) : Bool :=
  0xD800 ≤ unit && unit ≤ 0xDBFF

def isTrailing (unit : Nat) : Bool :=
  0xDC00 ≤ unit && unit ≤ 0xDFFF

def isSurrogate (unit : Nat) : Bool :=
  isLeading unit || isTrailing unit

def char (unit : Nat) : Char :=
  if isSurrogate unit then '\uFFFD' else Char.ofNat unit

/-- The code point of a surrogate pair. -/
def paired (leading trailing : Nat) : Nat :=
  0x10000 + (leading - 0xD800) * 0x400 + (trailing - 0xDC00)

/-- The text that is written in units. -/
def text : List Nat → Text
  | [] => []
  | [unit] => [char unit]
  | first :: second :: rest =>
      if isLeading first && isTrailing second then
        char (paired first second) :: text rest
      else
        char first :: text (second :: rest)

example : paired 0xD83D 0xDE00 = '😀'.toNat := rfl

example : text [0x61, 0xD83D, 0xDE00] = ['a', '😀'] := rfl

end CodeUnit

end GrowthGauge
