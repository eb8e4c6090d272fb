import GrowthGauge.Assistant.Session

namespace GrowthGauge.Assistant

/-! ## Attempts in a script

From any position on, a script falls into attempts, whether or not they are made.
An attempt is one reply, or two when the first asks to slow down, and its last
reply decides it. -/

/-- The position behind the attempt that begins at `position`. -/
def attemptEnd (script : Script) (position : Nat) : Nat :=
  if (script position).isRateLimited then position + 2 else position + 1

/-- The last reply of the attempt that begins at `position`. -/
def decidingReply (script : Script) (position : Nat) : Reply :=
  script (attemptEnd script position - 1)

/-- Where the attempts from `position` on begin, by their number. -/
def attemptStart (script : Script) (position : Nat) : (number : Nat) → Nat
  | 0 => position
  | number + 1 => attemptEnd script (attemptStart script position number)

example :
    attemptStart (Script.ofReplies (.answered 200 []) [.answered 429 [], .answered 200 []]) 0 2 =
      3 := by decide

theorem attempt_eq (script : Script) (position : Nat) :
    attempt script position = ⟨decidingReply script position, attemptEnd script position⟩ := by
  unfold attempt decidingReply attemptEnd
  split <;> rfl

theorem attemptStart_attemptEnd (script : Script) (position number : Nat) :
    attemptStart script (attemptEnd script position) number =
      attemptStart script position (number + 1) := by
  induction number with
  | zero => rfl
  | succ number induction =>
      rw [attemptStart, induction]
      rfl

theorem attemptEnd_bounds (script : Script) (position : Nat) :
    position + 1 ≤ attemptEnd script position ∧ attemptEnd script position ≤ position + 2 := by
  unfold attemptEnd
  split <;> omega

theorem attemptStart_bounds (script : Script) (position number : Nat) :
    position + number ≤ attemptStart script position number ∧
      attemptStart script position number ≤ position + 2 * number := by
  induction number with
  | zero => exact ⟨Nat.le_refl _, Nat.le_refl _⟩
  | succ number induction =>
      have step := attemptEnd_bounds script (attemptStart script position number)
      rw [attemptStart]
      omega

/-! ## The exchange makes attempts until one is decided

One attempt is made, and the exchange goes on behind it when it failed in passing.
So the attempts before the last one failed in passing, and the last one did not
unless no repeat was left. -/

theorem exists_exchange (script : Script) (repeats position : Nat) :
    ∃ last ≤ repeats,
      (∀ earlier < last,
        (decidingReply script (attemptStart script position earlier)).isTransient = true) ∧
      (last = repeats ∨
        (decidingReply script (attemptStart script position last)).isTransient = false) ∧
      exchange script repeats position =
        ⟨decidingReply script (attemptStart script position last),
          attemptStart script position (last + 1)⟩ := by
  induction repeats generalizing position with
  | zero =>
      refine ⟨0, Nat.le_refl 0, ?_, .inl rfl, attempt_eq script position⟩
      exact fun _ impossible => absurd impossible (Nat.not_lt_zero _)
  | succ repeats induction =>
      rw [exchange, attempt_eq]
      by_cases passes : (decidingReply script position).isTransient = true
      · rcases induction (attemptEnd script position) with
          ⟨last, bound, earlierPass, stops, result⟩
        refine ⟨last + 1, Nat.succ_le_succ bound, ?_, ?_, ?_⟩
        · intro earlier before
          cases earlier with
          | zero => exact passes
          | succ earlier =>
              rw [← attemptStart_attemptEnd]
              exact earlierPass earlier (Nat.lt_of_succ_lt_succ before)
        · rw [← attemptStart_attemptEnd]
          exact stops.imp_left (congrArg (· + 1))
        · rw [if_pos passes, result, attemptStart_attemptEnd, attemptStart_attemptEnd]
      · rw [Bool.not_eq_true] at passes
        refine ⟨0, Nat.zero_le _, ?_, .inr passes, ?_⟩
        · exact fun _ impossible => absurd impossible (Nat.not_lt_zero _)
        · rw [if_neg (Bool.eq_false_iff.mp passes)]
          rfl

/-! ## Replies behind the exchange are not read -/

/-- The scripts have the same replies from `first` on, up to `behind`. -/
def AgreeBetween (script other : Script) (first behind : Nat) : Prop :=
  ∀ position, first ≤ position → position < behind → other position = script position

theorem AgreeBetween.mono {script other : Script} {first behind earlier later : Nat}
    (agree : AgreeBetween script other first behind) (starts : first ≤ later)
    (ends : earlier ≤ behind) : AgreeBetween script other later earlier :=
  fun position reached before =>
    agree position (Nat.le_trans starts reached) (Nat.lt_of_lt_of_le before ends)

theorem attempt_eq_of_agree {script other : Script} {position : Nat}
    (agree : AgreeBetween script other position (attemptEnd script position)) :
    attempt other position = attempt script position := by
  have first : other position = script position :=
    agree position (Nat.le_refl _) (attemptEnd_bounds script position).1
  unfold attempt
  rw [first]
  split
  · next limited =>
      have behind : attemptEnd script position = position + 2 := if_pos limited
      rw [behind] at agree
      rw [agree (position + 1) (Nat.le_succ _) (Nat.lt_succ_self _)]
  · rfl

theorem sent_exchange_ge (script : Script) (repeats position : Nat) :
    attemptEnd script position ≤ (exchange script repeats position).sent := by
  rcases exists_exchange script repeats position with ⟨last, _, _, _, result⟩
  rw [result, ← attemptStart_attemptEnd]
  exact Nat.le_trans (Nat.le_add_right _ _) (attemptStart_bounds script _ last).1

theorem exchange_eq_of_agree {script other : Script} {repeats position : Nat}
    (agree : AgreeBetween script other position (exchange script repeats position).sent) :
    exchange other repeats position = exchange script repeats position := by
  have first : attempt other position = attempt script position :=
    attempt_eq_of_agree
      (agree.mono (Nat.le_refl _) (sent_exchange_ge script repeats position))
  induction repeats generalizing position with
  | zero => exact first
  | succ repeats induction =>
      rw [exchange, exchange, first]
      split
      · next passes =>
          have again : exchange script (repeats + 1) position =
              exchange script repeats (attempt script position).sent := by
            rw [exchange, if_pos passes]
          rw [again] at agree
          have behind : position ≤ (attempt script position).sent := by
            rw [attempt_eq]
            exact Nat.le_of_succ_le (attemptEnd_bounds script position).1
          have later := agree.mono behind (Nat.le_refl _)
          refine induction later (attempt_eq_of_agree ?_)
          exact later.mono (Nat.le_refl _) (sent_exchange_ge script repeats _)
      · rfl

/-! ## What a deciding reply comes to -/

/-- The outcome that a deciding reply has. A reply that the service did not refuse is
read for its content. -/
inductive ComesTo : Reply → Except Failure Json → Prop
  | unreachable {failure : Failure} (fault : TransportFault) (message : String)
      (status : failure.status? = some 502)
      (text : failure.message =
        "Network error: could not connect to the AI service (" ++ message ++ ")") :
      ComesTo (.failed fault message) (.error failure)
  | invalidKey {failure : Failure} (body : Text) (status : failure.status? = some 401)
      (text : failure.message =
        "Invalid API key: check that your Groq API key is correct and has not expired") :
      ComesTo (.answered 401 body) (.error failure)
  | rateLimited {failure : Failure} (body : Text) (status : failure.status? = some 429)
      (text : failure.message = "Rate limit exceeded: please try again in a few moments") :
      ComesTo (.answered 429 body) (.error failure)
  | refused {status : Nat} (body : Text) (other : status ≠ 200 ∧ status ≠ 401 ∧ status ≠ 429) :
      ComesTo (.answered status body) (.error (refusalOfBody status body))
  | answered (body : Text) :
      ComesTo (.answered 200 body)
        ((Json.ofBody body).mapError .unreadable >>= contentText >>= value)

theorem comesTo_completed (reply : Reply) : ComesTo reply (completed reply) := by
  cases reply with
  | failed fault message => exact .unreachable fault message rfl rfl
  | answered status body =>
      by_cases success : status = 200
      · subst success
        exact .answered body
      by_cases keyRefused : status = 401
      · subst keyRefused
        exact .invalidKey body rfl rfl
      by_cases limited : status = 429
      · subst limited
        exact .rateLimited body rfl rfl
      have result : completed (.answered status body) = .error (refusalOfBody status body) := by
        simp [completed, record, refusal, success, keyRefused, limited, bind, Except.bind]
      rw [result]
      exact .refused body ⟨success, keyRefused, limited⟩

/-! ## A call of the model -/

namespace Session

theorem complete_of_canConnect {session : Session} (connects : session.canConnect = true)
    (script : Script) (prompt system : String) :
    session.complete script prompt system =
      (completed (exchange script allowedRepeats session.requests).reply,
        { session with
          connection := .opened
          sent := session.sent ++ List.replicate
            ((exchange script allowedRepeats session.requests).sent - session.requests)
            (session.request prompt system) }) := by
  rw [complete, connects, Bool.or_true, if_pos rfl]

/-- How a call goes: all attempts but the last failed in passing, the last one did not
or was the third, and it decides the outcome alone. The call uses up one or two
replies for each attempt, sends the same request for each of them, and does not look
at any other reply. -/
structure Proceeds (session : Session) (script : Script) (prompt system : String)
    (attempts spent : Nat) : Prop where
  some_attempt : 1 ≤ attempts ∧ attempts ≤ 3
  passing : ∀ number, number + 1 < attempts →
    (decidingReply script (attemptStart script session.requests number)).isTransient = true
  decided : attempts = 3 ∨ (decidingReply script
    (attemptStart script session.requests (attempts - 1))).isTransient = false
  outcome : ComesTo
    (decidingReply script (attemptStart script session.requests (attempts - 1)))
    (session.complete script prompt system).1
  spent_eq : attemptStart script session.requests attempts = session.requests + spent
  some_spent : 1 ≤ spent ∧ spent ≤ 6
  sent : (session.complete script prompt system).2.sent =
    session.sent ++ List.replicate spent (session.request prompt system)
  unread : ∀ other,
    AgreeBetween script other session.requests (session.requests + spent) →
      session.complete other prompt system = session.complete script prompt system

end Session

end GrowthGauge.Assistant
