import GrowthGauge.Field.Number
import GrowthGauge.Field.Problem
import GrowthGauge.Json.Basic

namespace GrowthGauge

/-! ## Reading fields

How a field's value is read as what the record wants. Numbers and truth values
are taken in several spellings, strings and lists only as such. -/

namespace Field

def trueWords : List String :=
  ["1", "t", "true", "y", "yes", "on"]

def falseWords : List String :=
  ["0", "f", "false", "n", "no", "off"]

/-- A truth word, in any case and without blanks around it. -/
def boolOfText (text : Text) : Checked Bool :=
  if NumberText.isNamed trueWords text then
    .valid true
  else if NumberText.isNamed falseWords text then
    .valid false
  else
    .fail .unreadableBool

def integerOfText (text : Text) : Checked Int :=
  if NumberText.isOversized text then
    .fail .oversized
  else
    .ofOption .unreadableInteger (NumberText.integer? text)

def doubleOfText (text : Text) : Checked Double :=
  .ofOption .unreadableDouble (NumberText.double? text)

/-- The whole numbers that a machine word holds. -/
def isWordSized (value : Int) : Bool :=
  -Int.pow 2 63 ≤ value && value < Int.pow 2 63

def integerOfDouble (value : Double) : Checked Int :=
  match value with
  | .finite .. =>
      match value.toInt? with
      | none => .fail .fractional
      | some whole =>
          if -Int.pow 2 63 < whole && whole < Int.pow 2 63 then .valid whole
          else .fail .oversized
  | _ => .fail .notFinite

def integer : Json → Checked Int
  | .integer value => .valid value
  | .bool value => .valid (if value then 1 else 0)
  | .double value => integerOfDouble value
  | .string value => integerOfText value.toList
  | _ => .fail .notInteger

def natural (value : Json) : Checked Nat :=
  match integer value with
  | .valid (.ofNat size) => .valid size
  | .valid (.negSucc _) => .fail .negative
  | .invalid problems => .invalid problems

def boolOfInteger (value : Int) : Checked Bool :=
  if value == 0 then
    .valid false
  else if value == 1 then
    .valid true
  else
    .fail .unreadableBool

/-- Zero and one count as truth values. A number that no machine word holds is
not taken for a misspelled one. -/
def bool : Json → Checked Bool
  | .bool value => .valid value
  | .string value => boolOfText value.toList
  | .unpaired _ => .fail .notUnicode
  | .integer value =>
      if isWordSized value then boolOfInteger value else .fail .notBool
  | .double value =>
      match integerOfDouble value with
      | .valid whole => boolOfInteger whole
      | .invalid _ => .fail .notBool
  | _ => .fail .notBool

/-- A string, whatever it holds. -/
def string : Json → Checked String
  | .string value => .valid value
  | .unpaired codes => .valid (String.ofList (codes.map CodeUnit.char))
  | _ => .fail .notString

/-- A string whose length counts must be a text. -/
def measuredString (limit : Option Nat) : Json → Checked String
  | .string text =>
      if limit.any (· < text.length) then .fail .tooLong else .valid text
  | .unpaired _ => .fail .notUnicode
  | _ => .fail .notString

def optionalString : Json → Checked (Option String)
  | .null => .valid none
  | value => some <$> string value

/-- A list of strings. What is no list at all has the given fault. -/
def strings (otherwise : Fault) : Json → Checked (List String)
  | .array items => Checked.each string 0 items
  | _ => .fail otherwise

/-- A field that must be there. -/
def required (read : Json → Checked α) (key : String) (members : List (String × Json)) :
    Checked α :=
  Checked.within key (match Json.member? members key with
    | some value => read value
    | none => .fail .missing)

/-- A field with a value to take when it is not there. -/
def withDefault (default : α) (read : Json → Checked α) (key : String)
    (members : List (String × Json)) : Checked α :=
  match Json.member? members key with
  | some value => (read value).within key
  | none => .valid default

end Field

end GrowthGauge
