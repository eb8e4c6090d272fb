import GrowthGauge.Proofs.Assistant.Escapes
import GrowthGauge.Service.Response

namespace GrowthGauge.Service

/-! ## Internal errors of the service

The service reports the failures that the assistant foresees. One that escapes is an
internal error. -/

open Assistant

theorem status_answerOfFailure (failure : Failure) :
    (answerOfFailure failure).status = 500 ↔ failure.status? = none := by
  cases failure <;> simp [answerOfFailure, Failure.status?, Answer.status]

/-- The page of an assisted analysis is an internal error where a failure escapes. -/
theorem status_suggest {key : String} {session : Session}
    (started : Session.start key none = .ok session) (script : Script) (code : Text) :
    (suggest key script code).answer.status = 500 ↔
      Escapes (session.analyze script code).1 := by
  rw [suggest, started]
  simp only
  cases (session.analyze script code).1 with
  | ok suggestion => simp [Answer.status]
  | error failure => rw [escapes_error, ← status_answerOfFailure]

theorem exists_start {key : String} (usable : isUsableKey key = true) :
    ∃ session, Session.start key none = .ok session ∧ session.key = key := by
  rw [Session.start, usable, if_pos rfl]
  exact ⟨_, rfl, rfl⟩

/-- A completion whose content is the number five. -/
def numericCompletion : Script := fun _ =>
  .answered 200 "\x7b\"choices\":[\x7b\"message\":\x7b\"content\":5\x7d\x7d]\x7d".toList

end GrowthGauge.Service
