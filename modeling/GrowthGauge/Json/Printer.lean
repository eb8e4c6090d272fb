import GrowthGauge.Json.Display

namespace GrowthGauge.Json

/-! ## Writing JSON

Values are written without blanks. Inside a string only the quote, the backslash,
the control characters and unpaired surrogates are escaped. -/

def escapedChar (character : Char) : Text :=
  if character == '"' || character == '\\' then
    ['\\', character]
  else if character == '\n' then
    ['\\', 'n']
  else if character == '\r' then
    ['\\', 'r']
  else if character == '\t' then
    ['\\', 't']
  else if character == '\x08' then
    ['\\', 'b']
  else if character == '\x0c' then
    ['\\', 'f']
  else if character.toNat < 0x20 then
    '\\' :: 'u' :: lowerHex 4 character.toNat
  else
    [character]

def escapedCode (code : Nat) : Text :=
  if CodeUnit.isSurrogate code then
    '\\' :: 'u' :: lowerHex 4 code
  else
    escapedChar (Char.ofNat code)

def writeString (value : String) : Text :=
  '"' :: value.toList.flatMap escapedChar ++ ['"']

/-- Infinities and the undefined number have words of their own. -/
def doubleWord : Double → Text
  | .infinite false => "Infinity".toList
  | .infinite true => "-Infinity".toList
  | .undefined => "NaN".toList
  | value => value.text.toList

mutual

def write : Json → Text
  | null => "null".toList
  | bool true => "true".toList
  | bool false => "false".toList
  | integer value => (toString value).toList
  | double value => doubleWord value
  | string value => writeString value
  | unpaired codes => '"' :: codes.flatMap escapedCode ++ ['"']
  | array items => '[' :: writeItems items ++ [']']
  | object members => '{' :: writeMembers members ++ ['}']

def writeItems : List Json → Text
  | [] => []
  | [item] => write item
  | item :: rest => write item ++ ',' :: writeItems rest

def writeMembers : List (String × Json) → Text
  | [] => []
  | [(key, value)] => writeString key ++ ':' :: write value
  | (key, value) :: rest =>
      writeString key ++ ':' :: write value ++ ',' :: writeMembers rest

end

end GrowthGauge.Json
