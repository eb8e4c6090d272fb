import GrowthGauge.Text.Unit

namespace GrowthGauge

/-! ## Encodings

A message body may have its text in units of two or four bytes. A text that
begins with ASCII characters shows its encoding by the zero bytes among its first
four. -/

inductive TextEncoding
  | narrow
  | doubleByte (bigEndian : Bool)
  | quadByte (bigEndian : Bool)
deriving Repr, DecidableEq

namespace TextEncoding

/-- The encoding that the bytes of a text show. -/
def ofBytes : List UInt8 → TextEncoding
  | [0, _] => .doubleByte true
  | [_, 0] => .doubleByte false
  | 0 :: 0 :: _ :: _ :: _ => .quadByte true
  | 0 :: _ :: _ :: _ :: _ => .doubleByte true
  | _ :: 0 :: 0 :: 0 :: _ => .quadByte false
  | _ :: 0 :: _ :: _ :: _ => .doubleByte false
  | _ => .narrow

/-- The number that bytes make up, the most significant one first or last. -/
def unitOf (bigEndian : Bool) (bytes : List UInt8) : Nat :=
  (if bigEndian then bytes else bytes.reverse).foldl
    (fun total byte => 256 * total + byte.toNat) 0

/-- Bytes in twos. None may be left over. -/
def doubleUnits? (bigEndian : Bool) : List UInt8 → Option (List Nat)
  | [] => some []
  | first :: second :: rest =>
      (doubleUnits? bigEndian rest).map (unitOf bigEndian [first, second] :: ·)
  | _ => none

/-- Bytes in fours. None may be left over. -/
def quadUnits? (bigEndian : Bool) : List UInt8 → Option (List Nat)
  | [] => some []
  | first :: second :: third :: fourth :: rest =>
      (quadUnits? bigEndian rest).map (unitOf bigEndian [first, second, third, fourth] :: ·)
  | _ => none

def lastCodePoint : Nat := 0x10FFFF

/-- The text of a body that is at first taken for UTF-8. A byte order mark may
stand in front of it. -/
def decode? (body : Text) : Option Text :=
  let bytes := (String.ofList body).toUTF8.toList
  match ofBytes bytes with
  | .narrow => some (if body.head? == some '\uFEFF' then body.drop 1 else body)
  | .doubleByte bigEndian => (doubleUnits? bigEndian bytes).map CodeUnit.text
  | .quadByte bigEndian => do
      let units ← quadUnits? bigEndian bytes
      if units.all (· ≤ lastCodePoint) then some (units.map CodeUnit.char) else none

example : ofBytes [0x5B, 0, 0x5D, 0] = .doubleByte false := rfl

example : decode? ['\uFEFF', '1'] = some ['1'] := by decide +kernel

example : decode? ['\x00', '[', '\x00', ']'] = some ['[', ']'] := by decide +kernel

example : decode? ['\x00', '1', '2', '3', '4'] = none := by decide +kernel

end TextEncoding

end GrowthGauge
