import GrowthGauge.Proofs.Assistant.Attempts

namespace GrowthGauge.Assistant

/-! ## What a step comes to

A step asks the model, closes the connection, or does neither. One that asks needs a
connection, and a session that can connect has one afterwards, whatever the answer. -/

/-- A step that puts a question to the model. -/
def Step.asks : Step → Bool
  | .analyze code => !code.isAllBlank
  | .complete .. => true
  | .close => false

/-- The result of a step to which the model gives this answer. A step that does not ask
has the same result for every answer. -/
def Step.resultOf (answer : Except Failure Json) : Step → StepResult
  | .analyze code =>
      if code.isAllBlank then .failed .emptySnippet
      else .ofExcept .suggested (Suggestion.ofAnswer answer)
  | .complete .. => .ofExcept .completed answer
  | .close => .closed

namespace Connection

theorem close_eq_absent_iff (connection : Connection) :
    connection.close = .absent ↔ connection = .absent := by
  cases connection <;> simp [close]

theorem close_ne_opened (connection : Connection) : connection.close ≠ .opened := by
  cases connection <;> exact nofun

theorem close_close (connection : Connection) : connection.close.close = connection.close := by
  cases connection <;> rfl

end Connection

namespace Session

theorem step_analyze_blank {code : Text} (blank : code.isAllBlank = true) (session : Session)
    (script : Script) :
    session.step script (.analyze code) = (.failed .emptySnippet, session) := by
  rw [step, analyze, blank, if_pos rfl]
  rfl

/-- A step that asks is a call of the model. -/
theorem exists_complete_of_asks {step : Step} (asks : step.asks = true) :
    ∃ prompt system, ∀ (session : Session) (script : Script),
      session.step script step =
        (step.resultOf (session.complete script prompt system).1,
          (session.complete script prompt system).2) := by
  cases step with
  | analyze code =>
      have inked : code.isAllBlank = false := by simpa [Step.asks] using asks
      refine ⟨question code.strip, systemPrompt, fun session script => ?_⟩
      rw [Session.step, analyze, Step.resultOf, inked, if_neg Bool.false_ne_true,
        if_neg Bool.false_ne_true]
  | complete prompt system => exact ⟨prompt, system, fun _ _ => rfl⟩
  | close => cases asks

/-- A step that does not ask closes the connection or leaves the session as it is. -/
theorem step_of_not_asks {step : Step} (idle : step.asks = false) (session : Session)
    (script : Script) (answer : Except Failure Json) :
    session.step script step =
      (step.resultOf answer, if step = .close then session.close else session) := by
  cases step with
  | analyze code =>
      have blank : code.isAllBlank = true := by simpa [Step.asks] using idle
      rw [step_analyze_blank blank, Step.resultOf, if_pos blank, if_neg nofun]
  | complete prompt system => cases idle
  | close => rfl

theorem close_of_absent {session : Session} (absent : session.connection = .absent) :
    session.close = session := by
  rw [close, absent, Connection.close, ← absent]

theorem key_step (session : Session) (script : Script) (step : Step) :
    (session.step script step).2.key = session.key := by
  cases asks : step.asks with
  | true =>
      rcases exists_complete_of_asks asks with ⟨prompt, system, call⟩
      rw [call, complete]
      split <;> rfl
  | false =>
      rw [step_of_not_asks asks session script (.error .noContent)]
      dsimp only
      split <;> rfl

theorem canConnect_step (session : Session) (script : Script) (step : Step) :
    (session.step script step).2.canConnect = session.canConnect := by
  rw [canConnect, canConnect, key_step]

theorem requests_lt_sent_exchange (session : Session) (script : Script) :
    session.requests < (exchange script allowedRepeats session.requests).sent :=
  Nat.lt_of_lt_of_le (attemptEnd_bounds script session.requests).1
    (sent_exchange_ge script allowedRepeats session.requests)

/-! ### A session that can connect -/

section

variable {session : Session} (connects : session.canConnect = true) (script : Script)

include connects

theorem step_of_asks {step : Step} (asks : step.asks = true) :
    (session.step script step).1 =
        step.resultOf (completed (exchange script allowedRepeats session.requests).reply) ∧
      (session.step script step).2.connection = .opened ∧
      (session.step script step).2.requests =
        (exchange script allowedRepeats session.requests).sent := by
  rcases exists_complete_of_asks asks with ⟨prompt, system, call⟩
  have more := requests_lt_sent_exchange session script
  rw [call, complete_of_canConnect connects]
  refine ⟨rfl, rfl, ?_⟩
  rw [requests] at more ⊢
  rw [List.length_append, List.length_replicate]
  exact Nat.add_sub_cancel' (Nat.le_of_lt more)

/-- What a step tells hangs on the number of requests before it alone. -/
theorem step_fst (step : Step) :
    (session.step script step).1 =
      step.resultOf (completed (exchange script allowedRepeats session.requests).reply) := by
  cases asks : step.asks with
  | true => exact (step_of_asks connects script asks).1
  | false => exact congrArg Prod.fst (step_of_not_asks asks session script _)

theorem requests_step (step : Step) :
    (session.step script step).2.requests =
      if step.asks then (exchange script allowedRepeats session.requests).sent
      else session.requests := by
  cases asks : step.asks with
  | true => exact (step_of_asks connects script asks).2.2
  | false =>
      rw [step_of_not_asks asks session script (.error .noContent)]
      dsimp only
      split <;> rfl

theorem requests_le_step (step : Step) :
    session.requests ≤ (session.step script step).2.requests := by
  rw [requests_step connects]
  split
  · exact Nat.le_of_lt (requests_lt_sent_exchange session script)
  · exact Nat.le_refl _

end

/-! ### A session that cannot connect -/

theorem complete_of_cannot {session : Session} (cannot : session.canConnect = false)
    (absent : session.connection = .absent) (script : Script) (prompt system : String) :
    session.complete script prompt system = (.error .unencodableKey, session) := by
  rw [complete, cannot, absent]
  rfl

theorem step_of_cannot {session : Session} (cannot : session.canConnect = false)
    (absent : session.connection = .absent) (script : Script) (step : Step) :
    session.step script step = (step.resultOf (.error .unencodableKey), session) := by
  cases asks : step.asks with
  | true =>
      rcases exists_complete_of_asks asks with ⟨prompt, system, call⟩
      rw [call, complete_of_cannot cannot absent]
  | false =>
      rw [step_of_not_asks asks session script (.error .unencodableKey), close_of_absent absent,
        ite_self]

theorem resultOf_of_asks {step : Step} (asks : step.asks = true) :
    step.resultOf (.error .unencodableKey) = .failed .unencodableKey := by
  cases step with
  | analyze code =>
      have inked : code.isAllBlank = false := by simpa [Step.asks] using asks
      rw [Step.resultOf, inked]
      rfl
  | complete prompt system => rfl
  | close => cases asks

/-! ## The session after some steps -/

def after (session : Session) (script : Script) (steps : List Step) : Session :=
  ((session.run script steps).getLast?.map Prod.snd).getD session

@[simp] theorem after_nil (session : Session) (script : Script) :
    session.after script [] = session := rfl

@[simp] theorem after_cons (session : Session) (script : Script) (first : Step)
    (rest : List Step) :
    session.after script (first :: rest) = (session.step script first).2.after script rest := by
  rw [after, after, run, List.getLast?_cons]
  cases ((session.step script first).2.run script rest).getLast? <;> rfl

theorem after_append (session : Session) (script : Script) (first second : List Step) :
    session.after script (first ++ second) =
      (session.after script first).after script second := by
  induction first generalizing session with
  | nil => rfl
  | cons step rest induction => rw [List.cons_append, after_cons, after_cons, induction]

theorem after_concat (session : Session) (script : Script) (steps : List Step) (last : Step) :
    session.after script (steps ++ [last]) = ((session.after script steps).step script last).2 := by
  rw [after_append, after_cons, after_nil]

theorem canConnect_after {session : Session} (connects : session.canConnect = true)
    (script : Script) (steps : List Step) : (session.after script steps).canConnect = true := by
  induction steps generalizing session with
  | nil => exact connects
  | cons first rest induction =>
      rw [after_cons]
      exact induction ((canConnect_step session script first).trans connects)

theorem requests_le_after {session : Session} (connects : session.canConnect = true)
    (script : Script) (steps : List Step) :
    session.requests ≤ (session.after script steps).requests := by
  induction steps generalizing session with
  | nil => exact Nat.le_refl _
  | cons first rest induction =>
      have stays := canConnect_after connects script [first]
      rw [after_cons]
      exact Nat.le_trans (requests_le_step connects script first) (induction stays)

end Session

end GrowthGauge.Assistant
