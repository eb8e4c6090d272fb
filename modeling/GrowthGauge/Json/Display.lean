import GrowthGauge.Json.Basic
import GrowthGauge.Number.Shortest
import GrowthGauge.Text.Blank
import GrowthGauge.Text.Printable

namespace GrowthGauge.Json

/-! ## Values in messages

A message that quotes a value writes a string as it is. Strings inside arrays
and objects stand in quotes: single ones, unless the string has single quotes
and no double ones. -/

def lowerHex (width number : Nat) : Text :=
  let digits := Nat.toDigits 16 number
  List.replicate (width - digits.length) '0' ++ digits

def escapeCode (code : Nat) : Text :=
  if code < 0x100 then
    '\\' :: 'x' :: lowerHex 2 code
  else if code < 0x10000 then
    '\\' :: 'u' :: lowerHex 4 code
  else
    '\\' :: 'U' :: lowerHex 8 code

def quotedChar (quote character : Char) : Text :=
  if character == quote || character == '\\' then
    ['\\', character]
  else if character == '\n' then
    ['\\', 'n']
  else if character == '\r' then
    ['\\', 'r']
  else if character == '\t' then
    ['\\', 't']
  else if isPrintable character then
    [character]
  else
    escapeCode character.toNat

def quotedCode (quote : Char) (code : Nat) : Text :=
  if CodeUnit.isSurrogate code then escapeCode code else quotedChar quote (Char.ofNat code)

def quotedCodes (codes : List Nat) : String :=
  let quote :=
    if codes.contains '\''.toNat && !codes.contains '"'.toNat then '"' else '\''
  String.ofList (quote :: codes.flatMap (quotedCode quote) ++ [quote])

def quoted (value : String) : String :=
  quotedCodes (value.toList.map Char.toNat)

mutual

/-- A value inside an array or an object. -/
def nested : Json → String
  | null => "None"
  | bool true => "True"
  | bool false => "False"
  | integer value => toString value
  | double value => value.text
  | string value => quoted value
  | unpaired codes => quotedCodes codes
  | array items => "[" ++ nestedItems items ++ "]"
  | object members => "\x7b" ++ nestedMembers members ++ "\x7d"

def nestedItems : List Json → String
  | [] => ""
  | [item] => nested item
  | item :: rest => nested item ++ ", " ++ nestedItems rest

def nestedMembers : List (String × Json) → String
  | [] => ""
  | [(key, value)] => quoted key ++ ": " ++ nested value
  | (key, value) :: rest =>
      quoted key ++ ": " ++ nested value ++ ", " ++ nestedMembers rest

end

def display : Json → String
  | string value => value
  | unpaired codes => String.ofList (codes.map CodeUnit.char)
  | value => nested value

end GrowthGauge.Json
