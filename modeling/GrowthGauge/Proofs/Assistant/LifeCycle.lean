import GrowthGauge.Proofs.Assistant.Steps
import Mathlib.Data.List.DropRight
import Mathlib.Data.List.Induction

namespace GrowthGauge.Assistant

namespace Session

/-! ## The connection tells the history -/

/-- The steps up to the last closing, that one among them. -/
def throughLastClosing (steps : List Step) : List Step :=
  steps.rdropWhile (· != .close)

theorem throughLastClosing_concat_close (steps : List Step) :
    throughLastClosing (steps ++ [.close]) = steps ++ [.close] :=
  List.rdropWhile_concat_neg _ _ _ (by simp)

theorem throughLastClosing_concat (steps : List Step) {last : Step} (other : last ≠ .close) :
    throughLastClosing (steps ++ [last]) = throughLastClosing steps :=
  List.rdropWhile_concat_pos _ _ _ (by simpa using other)

theorem requests_throughLastClosing_le {session : Session}
    (connects : session.canConnect = true) (script : Script) (steps : List Step) :
    (session.after script (throughLastClosing steps)).requests ≤
      (session.after script steps).requests := by
  rcases List.rdropWhile_prefix (· != .close) steps with ⟨since, split⟩
  have later := requests_le_after (canConnect_after connects script (throughLastClosing steps))
    script since
  have whole : throughLastClosing steps ++ since = steps := split
  rwa [← after_append, whole] at later

/-- What the connection tells about the steps behind it, and which further steps leave it as
it is. -/
structure TellsHistory (session : Session) (script : Script) (steps : List Step) : Prop where
  absent_iff : (session.after script steps).connection = .absent ↔
    (session.after script steps).requests = 0
  opened_iff : (session.after script steps).connection = .opened ↔
    (session.after script (throughLastClosing steps)).requests <
      (session.after script steps).requests
  closed_iff : (session.after script steps).connection = .closed ↔
    0 < (session.after script steps).requests ∧
      (session.after script (throughLastClosing steps)).requests =
        (session.after script steps).requests
  asked : ∀ step : Step, step.asks = true →
    ((session.after script steps).step script step).2.connection = .opened
  blank : ∀ code : Text, code.isAllBlank = true →
    ((session.after script steps).step script (.analyze code)).2 = session.after script steps
  close_unsent : (session.after script steps).requests = 0 →
    (session.after script steps).close = session.after script steps
  close_close : (session.after script steps).close.close = (session.after script steps).close

theorem connection_after_iff {session : Session} (connects : session.canConnect = true)
    (absent : session.connection = .absent) (fresh : session.requests = 0) (script : Script)
    (steps : List Step) :
    ((session.after script steps).connection = .absent ↔
        (session.after script steps).requests = 0) ∧
      ((session.after script steps).connection = .opened ↔
        (session.after script (throughLastClosing steps)).requests <
          (session.after script steps).requests) := by
  -- The last closing is looked for from the end, so the steps are taken off there.
  induction steps using List.reverseRecOn with
  | nil => simp [throughLastClosing, absent, fresh]
  | append_singleton steps last induction =>
      have stays := canConnect_after connects script steps
      have through := requests_throughLastClosing_le connects script steps
      rw [after_concat]
      cases asks : last.asks with
      | true =>
          have other : last ≠ .close := by
            rintro rfl
            cases asks
          have more := requests_lt_sent_exchange (session.after script steps) script
          rcases step_of_asks stays script asks with ⟨_, opened, sent⟩
          rw [throughLastClosing_concat steps other, opened, sent]
          exact ⟨⟨nofun, by omega⟩, ⟨fun _ => by omega, fun _ => rfl⟩⟩
      | false =>
          rw [step_of_not_asks asks _ script (.error .noContent)]
          by_cases closes : last = .close
          · subst closes
            rw [throughLastClosing_concat_close, after_concat, if_pos rfl]
            constructor
            · exact (Connection.close_eq_absent_iff _).trans induction.1
            · refine iff_of_false (Connection.close_ne_opened _) ?_
              exact Nat.lt_irrefl (session.after script steps).close.requests
          · rw [throughLastClosing_concat steps closes, if_neg closes]
            exact induction

theorem tellsHistory {session : Session} (connects : session.canConnect = true)
    (absent : session.connection = .absent) (fresh : session.requests = 0) (script : Script)
    (steps : List Step) : session.TellsHistory script steps := by
  have stays := canConnect_after connects script steps
  have through := requests_throughLastClosing_le connects script steps
  rcases connection_after_iff connects absent fresh script steps with ⟨absentIff, openedIff⟩
  refine ⟨absentIff, openedIff, ?_, ?_, ?_, ?_, ?_⟩
  · cases connection : (session.after script steps).connection with
    | absent =>
        have unsent := absentIff.mp connection
        exact iff_of_false nofun fun sent => Nat.ne_of_gt sent.1 unsent
    | opened =>
        have more := openedIff.mp connection
        exact iff_of_false nofun fun sent => Nat.ne_of_lt more sent.2
    | closed =>
        rw [connection] at absentIff openedIff
        have sent : (session.after script steps).requests ≠ 0 := fun unsent =>
          nomatch absentIff.mpr unsent
        have same : ¬(session.after script (throughLastClosing steps)).requests <
            (session.after script steps).requests := fun more => nomatch openedIff.mpr more
        exact iff_of_true rfl ⟨Nat.pos_of_ne_zero sent, by omega⟩
  · exact fun step asks => (step_of_asks stays script asks).2.1
  · exact fun code blank => congrArg Prod.snd (step_analyze_blank blank _ script)
  · intro unsent
    exact close_of_absent (absentIff.mpr unsent)
  · rw [close, close, Connection.close_close]

/-! ## Closings and keys make no difference -/

/-- The results of the steps other than closings, each with the number of requests sent by
then. -/
def outcomes (session : Session) (script : Script) (steps : List Step) :
    List (StepResult × Nat) :=
  ((steps.zip (session.run script steps)).filter (·.1 != .close)).map fun passed =>
    (passed.2.1, passed.2.2.requests)

/-- Two sessions that can connect and have sent equally many requests. Their connections and
their keys may differ: no result depends on them. -/
structure Alike (session other : Session) : Prop where
  connects : session.canConnect = true
  otherConnects : other.canConnect = true
  requests : session.requests = other.requests

section

variable {session other : Session} {script : Script}

theorem Alike.close (alike : Alike session other) : Alike session.close other :=
  ⟨alike.connects, alike.otherConnects, alike.requests⟩

theorem Alike.step (alike : Alike session other) (step : Step) :
    (session.step script step).1 = (other.step script step).1 ∧
      Alike (session.step script step).2 (other.step script step).2 := by
  refine ⟨?_, ?_, ?_, ?_⟩
  · rw [step_fst alike.connects, step_fst alike.otherConnects, alike.requests]
  · exact (canConnect_step session script step).trans alike.connects
  · exact (canConnect_step other script step).trans alike.otherConnects
  · rw [requests_step alike.connects, requests_step alike.otherConnects, alike.requests]

theorem outcomes_cons {first : Step} (other : first ≠ .close) (rest : List Step) :
    session.outcomes script (first :: rest) =
      ((session.step script first).1, (session.step script first).2.requests) ::
        (session.step script first).2.outcomes script rest := by
  simp [outcomes, run, other]

theorem outcomes_close (rest : List Step) :
    session.outcomes script (.close :: rest) = session.close.outcomes script rest := by
  simp [outcomes, run, Session.step]

/-- Without its closings a run comes to the same. -/
theorem Alike.withoutClosings (alike : Alike session other) (steps : List Step) :
    session.outcomes script steps = other.outcomes script (steps.filter (· != .close)) ∧
      Alike (session.after script steps) (other.after script (steps.filter (· != .close))) := by
  induction steps generalizing session other with
  | nil => exact ⟨rfl, alike⟩
  | cons first rest induction =>
      by_cases closes : first = .close
      · subst closes
        rw [List.filter_cons_of_neg (by simp), outcomes_close, after_cons]
        exact induction alike.close
      · rcases alike.step first with ⟨result, later⟩
        rcases induction later with ⟨outcomes, stays⟩
        rw [List.filter_cons_of_pos (by simpa using closes), outcomes_cons closes,
          outcomes_cons closes, after_cons, after_cons, result, later.requests, outcomes]
        exact ⟨rfl, stays⟩

theorem Alike.outcomes_eq (alike : Alike session other) {steps others : List Step}
    (same : steps.filter (· != .close) = others.filter (· != .close)) :
    session.outcomes script steps = other.outcomes script others ∧
      (session.after script steps).requests = (other.after script others).requests := by
  have itself : Alike other other := ⟨alike.otherConnects, alike.otherConnects, rfl⟩
  rcases alike.withoutClosings steps with ⟨outcomes, after⟩
  rcases itself.withoutClosings others with ⟨otherOutcomes, otherAfter⟩
  rw [outcomes, otherOutcomes, same, after.requests, otherAfter.requests, same]
  exact ⟨rfl, rfl⟩

end

/-! ## The life cycle of a session -/

theorem forall_run_of_cannot {session : Session} (cannot : session.canConnect = false)
    (absent : session.connection = .absent) (script : Script) (steps : List Step) :
    ∀ passed ∈ steps.zip (session.run script steps),
      (passed.1.asks = true → passed.2.1 = .failed .unencodableKey) ∧ passed.2.2 = session := by
  induction steps with
  | nil => exact fun _ member => nomatch member
  | cons first rest induction =>
      intro passed member
      rw [run, step_of_cannot cannot absent, List.zip_cons_cons] at member
      rcases List.mem_cons.mp member with equal | later
      · subst equal
        exact ⟨resultOf_of_asks, rfl⟩
      · exact induction passed later

def IsAscii (key : String) : Prop :=
  ∀ character ∈ key.toList, character.toNat < 0x80

instance (key : String) : Decidable (IsAscii key) :=
  List.decidableBAll _ key.toList

theorem canConnect_iff (session : Session) :
    session.canConnect = true ↔ IsAscii session.key := by
  rw [canConnect, List.all_eq_true]
  simp only [decide_eq_true_eq, IsAscii]

theorem exists_started {key : String} (usable : isUsableKey key = true) (model : Option String) :
    ∃ session, start key model = .ok session ∧ session.key = key ∧
      session.connection = .absent ∧ session.requests = 0 := by
  rw [start, usable, if_pos rfl]
  exact ⟨_, rfl, rfl, rfl, rfl⟩

/-- With an ASCII key the connection tells the history of the session after any steps, and
neither closings nor the key make a difference to what the other steps come to. With any
other key every step that asks fails, and nothing is ever sent. -/
theorem exists_lifeCycle {key : String} (usable : isUsableKey key = true) (model : Option String)
    (script : Script) :
    ∃ session, start key model = .ok session ∧
      (IsAscii key →
        (∀ steps, session.TellsHistory script steps) ∧
        ∀ otherKey, isUsableKey otherKey = true → IsAscii otherKey →
          ∃ other, start otherKey model = .ok other ∧
            ∀ steps others : List Step,
              steps.filter (· != .close) = others.filter (· != .close) →
                session.outcomes script steps = other.outcomes script others ∧
                (session.after script steps).requests = (other.after script others).requests) ∧
      (¬IsAscii key → ∀ steps : List Step, ∀ passed ∈ steps.zip (session.run script steps),
        (passed.1.asks = true → passed.2.1 = .failed .unencodableKey) ∧
        passed.2.2.connection = .absent ∧ passed.2.2.requests = 0) := by
  rcases exists_started usable model with ⟨session, started, ownKey, absent, fresh⟩
  refine ⟨session, started, ?_, ?_⟩
  · intro ascii
    have connects : session.canConnect = true := (canConnect_iff session).mpr (ownKey ▸ ascii)
    refine ⟨tellsHistory connects absent fresh script, ?_⟩
    intro otherKey otherUsable otherAscii
    rcases exists_started otherUsable model with ⟨other, otherStarted, itsKey, _, otherFresh⟩
    have otherConnects : other.canConnect = true :=
      (canConnect_iff other).mpr (itsKey ▸ otherAscii)
    have alike : Alike session other := ⟨connects, otherConnects, fresh.trans otherFresh.symm⟩
    exact ⟨other, otherStarted, fun steps others same => alike.outcomes_eq same⟩
  · intro foreign steps passed member
    have cannot : session.canConnect = false := by
      rw [Bool.eq_false_iff, ne_eq, canConnect_iff, ownKey]
      exact foreign
    rcases forall_run_of_cannot cannot absent script steps passed member with ⟨fails, same⟩
    rw [same]
    exact ⟨fails, absent, fresh⟩

/-- A call that times out three times, and an answer after it. -/
def timingOut : Script :=
  Script.ofReplies (.completion 200 "O(n)") (List.replicate 3 (.failed .readTimeout "slow"))

theorem exists_lifeCycle_timingOut :
    isUsableKey "key" = true ∧ IsAscii "key" ∧ isUsableKey "other" = true ∧ IsAscii "other" ∧
      isUsableKey "cl\u00e9" = true ∧ ¬IsAscii "cl\u00e9" ∧
      (∃ session other, start "key" none = .ok session ∧ start "other" none = .ok other ∧
        session.TellsHistory timingOut [.complete "prompt" "system", .close, .analyze ['x']] ∧
        session.outcomes timingOut [.complete "prompt" "system", .close, .analyze ['x']] =
          other.outcomes timingOut [.close, .complete "prompt" "system", .analyze ['x'], .close]) ∧
      ∃ session, start "cl\u00e9" none = .ok session ∧
        ∀ passed ∈ [Step.close, .analyze ['x']].zip
            (session.run timingOut [.close, .analyze ['x']]),
          (passed.1.asks = true → passed.2.1 = .failed .unencodableKey) ∧
          passed.2.2.connection = .absent ∧ passed.2.2.requests = 0 := by
  have usable : isUsableKey "key" = true := by decide
  have usableToo : isUsableKey "cl\u00e9" = true := by decide
  have usableOther : isUsableKey "other" = true := by decide
  have ascii : IsAscii "key" := by decide
  have asciiOther : IsAscii "other" := by decide
  have accented : ¬IsAscii "cl\u00e9" := by decide
  rcases exists_lifeCycle usable none timingOut with ⟨session, started, connected, _⟩
  rcases exists_lifeCycle usableToo none timingOut with ⟨unconnected, startedToo, _, foreign⟩
  rcases connected ascii with ⟨tells, sameFor⟩
  rcases sameFor "other" usableOther asciiOther with ⟨other, otherStarted, same⟩
  refine ⟨usable, ascii, usableOther, asciiOther, usableToo, accented, ?_, ?_⟩
  · have outcomes := same [.complete "prompt" "system", .close, .analyze ['x']]
      [.close, .complete "prompt" "system", .analyze ['x'], .close] (by decide)
    exact ⟨session, other, started, otherStarted, tells _, outcomes.1⟩
  · exact ⟨unconnected, startedToo, foreign accented _⟩

end Session

end GrowthGauge.Assistant
