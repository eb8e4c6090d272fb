import GrowthGauge.Number.Double
import GrowthGauge.Text.Unit

namespace GrowthGauge

/-! ## JSON values

Integers and doubles are kept apart: `2` and `2.0` are different values. A string
with half a surrogate pair in it is no text and is kept as code points. The
members of an object stand in the order in which their keys first appeared. -/

inductive Json
  | null
  | bool (value : Bool)
  | integer (value : Int)
  | double (value : Double)
  | string (value : String)
  | unpaired (codes : List Nat)
  | array (items : List Json)
  | object (members : List (String × Json))

namespace Json

/-- A later value of a key replaces the earlier one in its place. -/
def setMember (members : List (String × Json)) (key : String) (value : Json) :
    List (String × Json) :=
  if members.any (·.1 == key) then
    members.map fun member => if member.1 == key then (key, value) else member
  else
    members ++ [(key, value)]

def member? (members : List (String × Json)) (key : String) : Option Json :=
  (members.find? (·.1 == key)).map Prod.snd

/-- The member of an object. No other value has members. -/
def get? (key : String) : Json → Option Json
  | object members => member? members key
  | _ => none

/-- The item of an array. No other value has items. -/
def item? (index : Nat) : Json → Option Json
  | array items => items[index]?
  | _ => none

/-- The part of a value that lies at a location, which names a member for each
step. -/
def part? : (location : List String) → Json → Option Json
  | [], value => some value
  | step :: rest, value => (value.get? step).bind (part? rest)

/-- The string of these code points. -/
def ofCodes (codes : List Nat) : Json :=
  if codes.any CodeUnit.isSurrogate then
    unpaired codes
  else
    string (String.ofList (codes.map CodeUnit.char))

/-- Empty and zero values count as absent. -/
def isPresent : Json → Bool
  | null => false
  | bool value => value
  | integer value => value != 0
  | double value => !value.isZero
  | string value => value != ""
  | unpaired codes => !codes.isEmpty
  | array items => !items.isEmpty
  | object members => !members.isEmpty

/-! Standard JSON in UTF-8 has neither infinite and undefined numbers nor unpaired
surrogates. -/

mutual

def isStandard : Json → Bool
  | double value => value.isFinite
  | unpaired _ => false
  | array items => itemsAreStandard items
  | object members => membersAreStandard members
  | _ => true

def itemsAreStandard : List Json → Bool
  | [] => true
  | item :: rest => isStandard item && itemsAreStandard rest

def membersAreStandard : List (String × Json) → Bool
  | [] => true
  | (_, value) :: rest => isStandard value && membersAreStandard rest

end

example : isStandard (array [null, double .undefined]) = false := rfl

end Json

end GrowthGauge
