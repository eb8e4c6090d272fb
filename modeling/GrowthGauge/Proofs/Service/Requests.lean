import GrowthGauge.Proofs.Field.Reading
import GrowthGauge.Service.Response

namespace GrowthGauge.Service

/-! ## Calls that ask for an analysis

A body asks about a code, by the assistant or not. One without code asks about the empty
code, and one without a wish for the assistant has none. The service reads both and then
only minds how long the code is. -/

structure Call.AsksFor (call : Call) (code : String) (useAssistant : Bool) : Prop where
  posted : call.method = "POST"
  atPage : call.path = "/analyze".toList
  body : ∃ members, Json.ofBody call.body = .ok (.object members) ∧
    (Json.member? members "code").getD (.string "") = .string code ∧
    Field.bool ((Json.member? members "use_ai").getD (.bool false)) = .valid useAssistant

/-! Whether a call asks for an analysis can be computed. -/

def isString (text : String) : Json → Bool
  | .string other => other == text
  | _ => false

theorem isString_iff (text : String) (value : Json) :
    isString text value = true ↔ value = .string text := by
  cases value <;> simp [isString]

def bodyAsksFor (body : Text) (code : String) (useAssistant : Bool) : Bool :=
  match Json.ofBody body with
  | .ok (.object members) =>
      isString code ((Json.member? members "code").getD (.string "")) &&
        Field.bool ((Json.member? members "use_ai").getD (.bool false)) == .valid useAssistant
  | _ => false

theorem bodyAsksFor_iff (body : Text) (code : String) (useAssistant : Bool) :
    bodyAsksFor body code useAssistant = true ↔
      ∃ members, Json.ofBody body = .ok (.object members) ∧
        (Json.member? members "code").getD (.string "") = .string code ∧
        Field.bool ((Json.member? members "use_ai").getD (.bool false)) =
          .valid useAssistant := by
  rw [bodyAsksFor]
  cases Json.ofBody body with
  | error error => simp
  | ok value => cases value <;> simp [isString_iff]

instance (call : Call) (code : String) (useAssistant : Bool) :
    Decidable (call.AsksFor code useAssistant) :=
  decidable_of_iff
    (call.method = "POST" ∧ call.path = "/analyze".toList ∧
      bodyAsksFor call.body code useAssistant = true)
    ⟨fun ⟨posted, atPage, body⟩ => ⟨posted, atPage, (bodyAsksFor_iff _ _ _).mp body⟩,
      fun asks => ⟨asks.posted, asks.atPage, (bodyAsksFor_iff _ _ _).mpr asks.body⟩⟩

example :
    Call.AsksFor
      ⟨"POST", "/analyze".toList, none, "\x7b\"code\": \"x\", \"use_ai\": \"yes\"\x7d".toList⟩
      "x" true := by
  decide +kernel

/-- The problem of a code that is too long. -/
def lengthProblem : Problem :=
  ⟨["body", "code"], .tooLong⟩

namespace AnalysisRequest

variable {members : List (String × Json)} {code : String} {useAssistant : Bool}

theorem within_measuredString (code : String) :
    (Field.measuredString (some Settings.defaultMaxCodeLength) (.string code)).within "code" =
      if Settings.defaultMaxCodeLength < code.length then .invalid [⟨["code"], .tooLong⟩]
      else .valid code := by
  rw [Field.measuredString, Option.any_some]
  by_cases long : Settings.defaultMaxCodeLength < code.length
  · rw [if_pos long, if_pos (decide_eq_true long)]
    rfl
  · rw [if_neg long, if_neg (by simpa using long)]
    rfl

theorem ofMembers_eq
    (askedCode : (Json.member? members "code").getD (.string "") = .string code)
    (askedWish : Field.bool ((Json.member? members "use_ai").getD (.bool false)) =
      .valid useAssistant) :
    ofMembers members =
      if Settings.defaultMaxCodeLength < code.length then .invalid [⟨["code"], .tooLong⟩]
      else .valid ⟨code, useAssistant⟩ := by
  have absentCode : Field.measuredString (some Settings.defaultMaxCodeLength) (.string "") =
      .valid "" := rfl
  have absentWish : Field.bool (.bool false) = .valid false := rfl
  rw [ofMembers, Field.withDefault_eq absentCode, Field.withDefault_eq absentWish, askedCode,
    askedWish, within_measuredString]
  split <;> rfl

/-- A code that is too long is quoted in the report. It is a text, so it can be. -/
theorem report_lengthProblem
    (asked : (Json.member? members "code").getD (.string "") = .string code) :
    report (.object members) [⟨["code"], .tooLong⟩] = .invalid [lengthProblem] := by
  have quoted : (Json.part? ["code"] (.object members)).all Json.isStandard = true := by
    change ((Json.member? members "code").bind (Json.part? [])).all Json.isStandard = true
    cases found : Json.member? members "code" with
    | none => rfl
    | some value =>
        rw [found] at asked
        change value = .string code at asked
        subst asked
        rfl
  rw [report, List.all_cons, quoted]
  rfl

theorem ofBody_eq {call : Call} (asks : call.AsksFor code useAssistant) :
    ofBody call.body =
      if Settings.defaultMaxCodeLength < code.length then .error (.invalid [lengthProblem])
      else .ok ⟨code, useAssistant⟩ := by
  rcases asks.body with ⟨members, read, askedCode, askedWish⟩
  have written : call.body.isEmpty = false := by
    cases body : call.body with
    | nil =>
        have nothing : TextEncoding.decode? [] = some [] := by decide +kernel
        rw [body, Json.ofBody, nothing] at read
        cases read
    | cons head tail => rfl
  rw [ofBody, written, if_neg Bool.false_ne_true, read]
  dsimp only
  rw [ofValue, ofJson, ofMembers_eq askedCode askedWish]
  by_cases long : Settings.defaultMaxCodeLength < code.length
  · rw [if_pos long, if_pos long]
    exact congrArg Except.error (report_lengthProblem askedCode)
  · rw [if_neg long, if_neg long]

end AnalysisRequest

/-- The service answers a call that asks for an analysis. -/
theorem respond_of_asksFor {call : Call} {code : String} {useAssistant : Bool}
    (asks : call.AsksFor code useAssistant) (key : String) (script : Assistant.Script) :
    respond key script call =
      if Settings.defaultMaxCodeLength < code.length then
        .unassisted (.invalid [lengthProblem])
      else
        respondToRequest key script ⟨code, useAssistant⟩ := by
  have route : Route.ofPath? call.path = some .analyze := by
    rw [asks.atPage]
    decide
  have method : (call.method != Route.analyze.method) = false := by
    rw [asks.posted]
    decide
  rw [respond, route]
  dsimp only
  rw [method, if_neg Bool.false_ne_true, respondToAnalyze, AnalysisRequest.ofBody_eq asks]
  by_cases long : Settings.defaultMaxCodeLength < code.length
  · rw [if_pos long, if_pos long]
  · rw [if_neg long, if_neg long]

end GrowthGauge.Service
