import GrowthGauge.Field.Reading
import GrowthGauge.Signals
import GrowthGauge.Verdict

namespace GrowthGauge

/-! ## Records read from fields

Signals and verdicts can also be given as records. Fields that a record does not
know are ignored. -/

def BlockLayout.ofIsIndented (isIndented : Bool) : BlockLayout :=
  if isIndented then .indented else .braced

def Signals.ofMembers (members : List (String × Json)) : Checked Signals :=
  Signals.mk
    <$> Field.withDefault 0 Field.natural "loop_count" members
    <*> Field.withDefault 0 Field.natural "max_nesting" members
    <*> (BlockLayout.ofIsIndented <$>
      Field.withDefault false Field.bool "is_indentation_based" members)
    <*> Field.withDefault none Field.optionalString "function_name" members
    <*> Field.withDefault 0 Field.natural "recursive_call_sites" members
    <*> Field.withDefault false Field.bool "has_divide_by_two" members
    <*> Field.withDefault false Field.bool "has_merge_hint" members

def Growth.ofJson : Json → Checked Growth
  | .string text => .ofOption .notAmongChoices (Growth.ofText? text)
  | _ => .fail .notAmongChoices

def Verdict.ofMembers (members : List (String × Json)) : Checked Verdict :=
  Verdict.mk
    <$> Field.required Growth.ofJson "notation" members
    <*> Field.required Field.string "explanation" members
    <*> Field.withDefault [] (Field.strings .notTuple) "steps" members

end GrowthGauge
