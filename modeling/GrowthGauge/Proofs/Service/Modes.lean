import GrowthGauge.Proofs.Service.Requests

namespace GrowthGauge.Service

/-! ## The two modes

An offline answer is settled by the code alone: its length, whether it is blank, and its
analysis. It asks nobody, so neither the key nor what the assistant would reply makes a
difference. An assisted answer never shows an offline analysis. -/

/-! ### Pages -/

/-- Only an offline analysis puts something under the result on its page. -/
theorem result_of_page? {answer : Answer} {page result : Json} (shown : answer.page? = some page)
    (found : page.get? "result" = some result) :
    result = .null ∨ ∃ analysis, answer = .analyzed analysis := by
  cases answer with
  | analyzed analysis => exact .inr ⟨analysis, rfl⟩
  | suggested suggestion =>
      cases shown
      cases found
      exact .inl rfl
  | welcome | health _ | examples _ | refused _ _ _ | unparsed | notFound | methodNotAllowed =>
      cases shown
      cases found
  | invalid _ | redirected | internalError => cases shown

theorem answerOfFailure_ne_analyzed (failure : Assistant.Failure) (analysis : Analysis) :
    answerOfFailure failure ≠ .analyzed analysis := by
  cases failure <;> exact nofun

theorem suggest_ne_analyzed (key : String) (script : Assistant.Script) (code : Text)
    (analysis : Analysis) : (suggest key script code).answer ≠ .analyzed analysis := by
  rw [suggest]
  cases Assistant.Session.start key none with
  | error failure => exact answerOfFailure_ne_analyzed failure analysis
  | ok session =>
      dsimp only
      cases (session.analyze script code).1 with
      | ok suggestion => exact nofun
      | error failure => exact answerOfFailure_ne_analyzed failure analysis

/-! ### Offline -/

theorem analyze_of_inked {code : Text} (inked : code.isAllBlank = false) :
    ∃ analysis, GrowthGauge.analyze code = .ok analysis := by
  rw [GrowthGauge.analyze, inked, if_neg Bool.false_ne_true]
  cases Catalog.known? code with
  | some found => exact ⟨_, rfl⟩
  | none => exact ⟨_, rfl⟩

theorem respondToRequest_blank {code : String} (blank : Text.isAllBlank code.toList = true)
    (key : String) (script : Assistant.Script) (useAssistant : Bool) :
    respondToRequest key script ⟨code, useAssistant⟩ =
      .unassisted (.refused 400 (.ofUseAssistant useAssistant) "Code is required") := by
  rw [respondToRequest]
  exact if_pos blank

theorem respondToRequest_offline {code : String} (inked : Text.isAllBlank code.toList = false)
    {analysis : Analysis} (analyzed : GrowthGauge.analyze code.toList = .ok analysis) (key : String)
    (script : Assistant.Script) :
    respondToRequest key script ⟨code, false⟩ = .unassisted (.analyzed analysis) := by
  rw [respondToRequest]
  dsimp only
  rw [inked, if_neg Bool.false_ne_true, if_neg Bool.false_ne_true, analyzeOffline, analyzed]

/-- The response of an offline analysis of a code. -/
structure IsOffline (code : String) (response : Response) : Prop where
  invalid_iff : response.answer.status = 422 ↔ Settings.defaultMaxCodeLength < code.length
  invalid : Settings.defaultMaxCodeLength < code.length →
    ∃ problem : Problem, response.answer = .invalid [problem] ∧
      problem.location = ["body", "code"] ∧ problem.fault.label = "string_too_long"
  refused_iff : code.length ≤ Settings.defaultMaxCodeLength →
    (response.answer.status = 400 ↔ Text.isAllBlank code.toList = true)
  refused : code.length ≤ Settings.defaultMaxCodeLength → Text.isAllBlank code.toList = true →
    response.answer = .refused 400 .offline "Code is required"
  analyzed : code.length ≤ Settings.defaultMaxCodeLength → Text.isAllBlank code.toList = false →
    ∃ analysis, GrowthGauge.analyze code.toList = .ok analysis ∧ response.answer.status = 200 ∧
      response.answer.page? = some (.object
        [("success", .bool true), ("mode", .string "offline"), ("result", analysis.toJson),
          ("ai_result", .null), ("error", .null)])
  requests : response.requests = 0
  served : response.answer.status ≠ 500 ∧ response.answer.status ≠ 503

theorem isOffline_tooLong {code : String} (long : Settings.defaultMaxCodeLength < code.length) :
    IsOffline code (.unassisted (.invalid [lengthProblem])) where
  invalid_iff := iff_of_true rfl long
  invalid _ := ⟨lengthProblem, rfl, rfl, rfl⟩
  refused_iff short := absurd short (Nat.not_le_of_lt long)
  refused short := absurd short (Nat.not_le_of_lt long)
  analyzed short := absurd short (Nat.not_le_of_lt long)
  requests := rfl
  served := by decide

theorem isOffline_blank {code : String} (short : code.length ≤ Settings.defaultMaxCodeLength)
    (blank : Text.isAllBlank code.toList = true) :
    IsOffline code (.unassisted (.refused 400 .offline "Code is required")) where
  invalid_iff := iff_of_false (by decide) (Nat.not_lt_of_le short)
  invalid long := absurd short (Nat.not_le_of_lt long)
  refused_iff _ := iff_of_true rfl blank
  refused _ _ := rfl
  analyzed _ inked := absurd (blank.symm.trans inked) nofun
  requests := rfl
  served := by decide

theorem isOffline_analyzed {code : String} (short : code.length ≤ Settings.defaultMaxCodeLength)
    (inked : Text.isAllBlank code.toList = false) {analysis : Analysis}
    (analyzed : GrowthGauge.analyze code.toList = .ok analysis) :
    IsOffline code (.unassisted (.analyzed analysis)) where
  invalid_iff := iff_of_false (show (200 : Nat) ≠ 422 by decide) (Nat.not_lt_of_le short)
  invalid long := absurd short (Nat.not_le_of_lt long)
  refused_iff _ := iff_of_false (show (200 : Nat) ≠ 400 by decide) (Bool.eq_false_iff.mp inked)
  refused _ blank := absurd (blank.symm.trans inked) nofun
  analyzed _ _ := ⟨analysis, analyzed, rfl, rfl⟩
  requests := rfl
  served := show (200 : Nat) ≠ 500 ∧ (200 : Nat) ≠ 503 by decide

theorem isOffline_respond {call : Call} {code : String} (asks : call.AsksFor code false)
    (key : String) (script : Assistant.Script) : IsOffline code (respond key script call) := by
  rw [respond_of_asksFor asks]
  split
  · next long => exact isOffline_tooLong long
  · next notLong =>
      have short : code.length ≤ Settings.defaultMaxCodeLength := Nat.le_of_not_lt notLong
      cases blank : Text.isAllBlank code.toList with
      | true =>
          rw [respondToRequest_blank blank]
          exact isOffline_blank short blank
      | false =>
          rcases analyze_of_inked blank with ⟨analysis, analyzed⟩
          rw [respondToRequest_offline blank analyzed]
          exact isOffline_analyzed short blank analyzed

/-- An offline request does not reach the key or the script. -/
theorem respond_offline_eq {call : Call} {code : String} (asks : call.AsksFor code false)
    (key otherKey : String) (script otherScript : Assistant.Script) :
    respond otherKey otherScript call = respond key script call := by
  rw [respond_of_asksFor asks, respond_of_asksFor asks]
  rfl

/-! ### Assisted -/

theorem respond_assisted_ne_analyzed {call : Call} {code : String}
    (asks : call.AsksFor code true) (key : String) (script : Assistant.Script)
    (analysis : Analysis) : (respond key script call).answer ≠ .analyzed analysis := by
  rw [respond_of_asksFor asks]
  split
  · exact nofun
  · cases blank : Text.isAllBlank code.toList with
    | true =>
        rw [respondToRequest_blank blank]
        exact nofun
    | false =>
        rw [respondToRequest, blank]
        exact suggest_ne_analyzed key script code.toList analysis

/-- A call that asks for an offline analysis of one loop. -/
def loopCall : Call :=
  ⟨"POST", "/analyze".toList, none, "\x7b\"code\": \"for (;;) x();\"\x7d".toList⟩

/-- A call that asks the assistant about a blank. -/
def blankCall : Call :=
  ⟨"POST", "/analyze".toList, none,
    "\x7b\"code\": \"\\u2003\", \"use_ai\": true\x7d".toList⟩

end GrowthGauge.Service
