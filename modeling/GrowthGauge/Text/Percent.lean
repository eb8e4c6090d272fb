import GrowthGauge.Text.Blank
import GrowthGauge.Text.Digit

namespace GrowthGauge.Text

/-! ## Percent escapes

A percent sign and two hexadecimal digits stand for a byte, and the bytes of
neighbouring escapes are UTF-8. A percent sign without two digits stands for
itself. -/

def escapedByte? (high low : Char) : Option UInt8 := do
  let upper ← hexDigit? high
  let lower ← hexDigit? low
  some (UInt8.ofNat (16 * upper + lower))

/-- Bytes that are no UTF-8 read as one replacement character. -/
def ofBytes (bytes : List UInt8) : Text :=
  match String.fromUTF8? ⟨bytes.toArray⟩ with
  | some read => read.toList
  | none => ['\uFFFD']

/-- The text with its escapes read. `bytes` holds those of the escapes right in
front of it, the last one first. -/
def percentDecodedAfter : (bytes : List UInt8) → Text → Text
  | bytes, [] => ofBytes bytes.reverse
  | bytes, '%' :: high :: low :: rest =>
      match escapedByte? high low with
      | some byte => percentDecodedAfter (byte :: bytes) rest
      | none => ofBytes bytes.reverse ++ '%' :: percentDecodedAfter [] (high :: low :: rest)
  | bytes, character :: rest =>
      ofBytes bytes.reverse ++ character :: percentDecodedAfter [] rest

def percentDecoded (text : Text) : Text :=
  percentDecodedAfter [] text

example : percentDecoded "a%2Fb".toList = "a/b".toList := by decide +kernel

example : percentDecoded "%C3%A9".toList = "é".toList := by decide +kernel

example : percentDecoded "5%".toList = "5%".toList := by decide +kernel

end GrowthGauge.Text
