import GrowthGauge.Proofs.Assistant.LifeCycle
import GrowthGauge.Proofs.Service.Requests

namespace GrowthGauge

namespace Assistant

/-! ## The assistant is available once a session has started

Without a usable key no session starts. In one that has started many things can fail, but
none of the failures is that the assistant is unavailable, not even a refusal with the
status that would say so. -/

def IsAvailable {Value : Type} (result : Except Failure Value) : Prop :=
  result ≠ .error .unavailable

section

variable {Value Other : Type}

theorem isAvailable_ok (value : Value) : IsAvailable (.ok value) :=
  nofun

theorem isAvailable_error {failure : Failure} (other : failure ≠ .unavailable) :
    IsAvailable (.error failure : Except Failure Value) := by
  rintro equal
  cases equal
  exact other rfl

theorem isAvailable_bind {result : Except Failure Value}
    {next : Value → Except Failure Other} (available : IsAvailable result)
    (nextAvailable : ∀ value, IsAvailable (next value)) : IsAvailable (result >>= next) := by
  cases result with
  | ok value => exact nextAvailable value
  | error failure =>
      apply isAvailable_error
      rintro rfl
      exact available rfl

end

theorem refusalOfDetail_ne_unavailable (status : Nat) (detail : Json) :
    refusalOfDetail status detail ≠ .unavailable := by
  cases detail <;> exact nofun

/-- A refusal keeps its own status to itself. -/
theorem refusal_ne_unavailable (status : Nat) (body : Text) :
    refusal status body ≠ .unavailable := by
  unfold refusal
  split
  · exact nofun
  split
  · exact nofun
  unfold refusalOfBody
  split
  · exact refusalOfDetail_ne_unavailable status _
  · exact nofun
  · exact nofun
  · exact nofun

theorem isAvailable_record (reply : Reply) : IsAvailable (record reply) := by
  cases reply with
  | failed fault message => exact isAvailable_error nofun
  | answered status body =>
      change IsAvailable (if status == 200 then (Json.ofBody body).mapError .unreadable
        else .error (refusal status body))
      split
      · cases Json.ofBody body with
        | ok value => exact isAvailable_ok value
        | error error => exact isAvailable_error nofun
      · exact isAvailable_error (refusal_ne_unavailable status body)

theorem isAvailable_contentText (completion : Json) : IsAvailable (contentText completion) := by
  unfold contentText
  split
  · exact isAvailable_error nofun
  · dsimp only
    split
    · exact isAvailable_error nofun
    · exact isAvailable_ok _
  · exact isAvailable_error nofun
  · apply isAvailable_error
    split <;> exact nofun

theorem isAvailable_value (content : Text) : IsAvailable (value content) := by
  unfold value
  split
  · exact isAvailable_ok _
  · split
    · exact isAvailable_ok _
    · exact isAvailable_error nofun
    · exact isAvailable_error nofun
  · exact isAvailable_error nofun

theorem isAvailable_completed (reply : Reply) : IsAvailable (completed reply) :=
  isAvailable_bind (isAvailable_bind (isAvailable_record reply) isAvailable_contentText)
    isAvailable_value

theorem isAvailable_ofJson (answer : Json) : IsAvailable (Suggestion.ofJson answer) := by
  unfold Suggestion.ofJson
  split
  · split
    · split
      · split
        · exact isAvailable_ok _
        · exact isAvailable_error nofun
      · exact isAvailable_error nofun
    · exact isAvailable_error nofun
  · exact isAvailable_error nofun

theorem isAvailable_ofAnswer {answer : Except Failure Json} (available : IsAvailable answer) :
    IsAvailable (Suggestion.ofAnswer answer) := by
  unfold Suggestion.ofAnswer
  split
  · exact isAvailable_ofJson _
  · split
    · exact isAvailable_ok _
    · exact isAvailable_error nofun
  · next failure _ =>
      apply isAvailable_error
      rintro rfl
      exact available rfl

namespace Session

theorem isAvailable_complete (session : Session) (script : Script) (prompt system : String) :
    IsAvailable (session.complete script prompt system).1 := by
  unfold complete
  split
  · exact isAvailable_completed _
  · exact isAvailable_error nofun

theorem isAvailable_analyze (session : Session) (script : Script) (code : Text) :
    IsAvailable (session.analyze script code).1 := by
  unfold analyze
  split
  · exact isAvailable_error nofun
  · exact isAvailable_ofAnswer (isAvailable_complete session script _ _)

end Session

end Assistant

namespace Service

/-! ## The health page knows whether the assistant can be asked -/

theorem status_answerOfFailure_iff (failure : Assistant.Failure) :
    (answerOfFailure failure).status = 503 ↔ failure = .unavailable := by
  cases failure <;> simp [answerOfFailure, Assistant.Failure.status?, Answer.status]

theorem suggest_of_unusable {key : String} (unusable : isUsableKey key = false)
    (script : Assistant.Script) (code : Text) :
    suggest key script code = .unassisted (answerOfFailure .unavailable) := by
  rw [suggest, Assistant.Session.start, unusable]
  rfl

theorem status_suggest_of_usable {key : String} (usable : isUsableKey key = true)
    (script : Assistant.Script) (code : Text) :
    (suggest key script code).answer.status ≠ 503 := by
  rcases Assistant.Session.exists_started usable none with ⟨session, started, _⟩
  have available := session.isAvailable_analyze script code
  rw [suggest, started]
  dsimp only
  cases result : (session.analyze script code).1 with
  | ok suggestion => exact show (200 : Nat) ≠ 503 by decide
  | error failure =>
      dsimp only
      rw [ne_eq, status_answerOfFailure_iff]
      rintro rfl
      exact available result

theorem respond_health {call : Call} (got : call.method = "GET")
    (atPage : call.path = "/health".toList) (key : String) (script : Assistant.Script) :
    respond key script call = .unassisted (.health (isUsableKey key)) := by
  have route : Route.ofPath? call.path = some .health := by
    rw [atPage]
    decide
  have method : (call.method != Route.health.method) = false := by
    rw [got]
    decide
  rw [respond, route]
  dsimp only
  rw [method, if_neg Bool.false_ne_true]

/-- A call that asks the assistant. -/
def assistedCall : Call :=
  ⟨"POST", "/analyze".toList, none, "\x7b\"code\": \"x\", \"use_ai\": true\x7d".toList⟩

def healthCall : Call :=
  ⟨"GET", "/health".toList, none, []⟩

end Service

end GrowthGauge
