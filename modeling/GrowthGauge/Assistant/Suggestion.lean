import GrowthGauge.Assistant.Completion
import GrowthGauge.Field.Reading
import GrowthGauge.Pattern.Search

namespace GrowthGauge.Assistant

/-! ## Suggestions

The assistant's answer has the shape of a verdict, but it may name any growth,
not only those of the decision table. -/

structure Suggestion where
  growth : String
  explanation : String
  steps : List String
deriving Repr, DecidableEq

namespace Suggestion

def ofMembers (members : List (String × Json)) : Checked Suggestion :=
  Suggestion.mk
    <$> Field.required (Field.measuredString none) "notation" members
    <*> Field.withDefault "" Field.string "explanation" members
    <*> Field.withDefault [] (Field.strings .notList) "steps" members

def isTextual (members : List (String × Json)) (key : String) : Bool :=
  (Json.member? members key).all Json.isStandard

/-- An answer must name a growth before anything else about it is looked at. -/
def ofJson (answer : Json) : Except Failure Suggestion :=
  match answer with
  | .object members =>
      if (Json.member? members "notation").any Json.isPresent then
        match ofMembers members with
        | .valid suggestion =>
            if ["explanation", "steps"].all (isTextual members) then
              .ok suggestion
            else
              .error .unpaired
        | .invalid problems => .error (.invalidAnalysis problems)
      else
        .error .noGrowth
  | _ => .error .noGrowth

/-! An answer that is not JSON at all may still name a growth. -/

def term : Pattern :=
  .inOrder [.exactly "O(", .atLeastOne (· != ')'), .char ')']

/-- A suggestion with nothing but the first growth that a content names. -/
def rescued? (content : Text) : Option Suggestion :=
  (term.search? content).map fun found =>
    { growth := String.ofList found.text
      explanation := "Parsed from malformed response"
      steps := ["Could not parse full response"] }

def ofAnswer (answer : Except Failure Json) : Except Failure Suggestion :=
  match answer with
  | .ok value => ofJson value
  | .error (.malformed content) =>
      match rescued? content with
      | some suggestion => .ok suggestion
      | none => .error (.malformed content)
  | .error failure => .error failure

end Suggestion

end GrowthGauge.Assistant
