namespace GrowthGauge

/-! ## Problems with fields

A record is read field by field, and every field that is wrong is reported: where
it is and what is wrong with it. A record without a problem is valid. -/

inductive Fault
  | missing
  | notString
  | notUnicode
  | tooLong
  | notBool
  | unreadableBool
  | notInteger
  | unreadableInteger
  | fractional
  | notFinite
  | oversized
  | unreadableDouble
  | negative
  | notAmongChoices
  | notList
  | notTuple
  | unreadableJson
  | notObject
deriving Repr, DecidableEq

def Fault.label : Fault → String
  | missing => "missing"
  | notString => "string_type"
  | notUnicode => "string_unicode"
  | tooLong => "string_too_long"
  | notBool => "bool_type"
  | unreadableBool => "bool_parsing"
  | notInteger => "int_type"
  | unreadableInteger => "int_parsing"
  | fractional => "int_from_float"
  | notFinite => "finite_number"
  | oversized => "int_parsing_size"
  | unreadableDouble => "float_parsing"
  | negative => "greater_than_equal"
  | notAmongChoices => "literal_error"
  | notList => "list_type"
  | notTuple => "tuple_type"
  | unreadableJson => "json_invalid"
  | notObject => "model_attributes_type"

structure Problem where
  location : List String
  fault : Fault
deriving Repr, DecidableEq

/-- The problem of a part, seen from the whole. -/
def Problem.within (step : String) (problem : Problem) : Problem :=
  { problem with location := step :: problem.location }

inductive Checked (α : Type)
  | valid (value : α)
  | invalid (problems : List Problem)
deriving Repr, DecidableEq

namespace Checked

def fail (fault : Fault) : Checked α :=
  .invalid [⟨[], fault⟩]

def map (transform : α → β) : Checked α → Checked β
  | valid value => .valid (transform value)
  | invalid problems => .invalid problems

/-- The problems of both sides are reported, those of the left side first. -/
def apply : Checked (α → β) → Checked α → Checked β
  | valid transform, valid value => .valid (transform value)
  | valid _, invalid problems => .invalid problems
  | invalid problems, valid _ => .invalid problems
  | invalid problems, invalid more => .invalid (problems ++ more)

instance : Applicative Checked where
  pure := .valid
  map := map
  seq checked value := checked.apply (value ())

/-- The problems of a part, seen from the whole. -/
def within (step : String) : Checked α → Checked α
  | valid value => .valid value
  | invalid problems => .invalid (problems.map (·.within step))

def ofOption (fault : Fault) : Option α → Checked α
  | some value => .valid value
  | none => fail fault

/-- The values of a list read from `index` on, with the problems of all of them. -/
def each (read : α → Checked β) : (index : Nat) → List α → Checked (List β)
  | _, [] => .valid []
  | index, value :: rest =>
      List.cons <$> (read value).within (toString index) <*> each read (index + 1) rest

example :
    (Prod.mk <$> (fail .missing : Checked Nat).within "a" <*>
        (fail .notBool : Checked Bool).within "b") =
      .invalid [⟨["a"], .missing⟩, ⟨["b"], .notBool⟩] := rfl

end Checked

end GrowthGauge
