import GrowthGauge.Field.Reading

namespace GrowthGauge.Field

/-! ## Fields that are read

A field that is not there, and a list of texts. -/

/-- A field that is not there is read like a value that reads as its default. -/
theorem withDefault_eq {Value : Type} {default : Value} {read : Json → Checked Value}
    {absent : Json} (reads : read absent = .valid default) (key : String)
    (members : List (String × Json)) :
    withDefault default read key members =
      (read ((Json.member? members key).getD absent)).within key := by
  rw [withDefault]
  cases Json.member? members key with
  | none => exact (congrArg (Checked.within key) reads).symm
  | some value => rfl

theorem each_string (texts : List String) (index : Nat) :
    Checked.each string index (texts.map .string) = .valid texts := by
  induction texts generalizing index with
  | nil => rfl
  | cons text rest induction =>
      rw [List.map_cons, Checked.each, induction]
      rfl

theorem strings_map_string (otherwise : Fault) (texts : List String) :
    strings otherwise (.array (texts.map .string)) = .valid texts :=
  each_string texts 0

end GrowthGauge.Field
