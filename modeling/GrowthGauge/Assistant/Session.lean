import GrowthGauge.Assistant.Prompt
import GrowthGauge.Assistant.Suggestion

namespace GrowthGauge.Assistant

/-! ## Sessions

A session asks one model with one key. Its connection is made for the first
request and made anew after it was closed. -/

inductive Connection
  | absent
  | opened
  | closed
deriving Repr, DecidableEq

def Connection.close : Connection → Connection
  | absent => .absent
  | _ => .closed

structure Session where
  key : String
  model : String
  connection : Connection
  sent : List Request
deriving Repr, DecidableEq

namespace Session

/-- A session needs a key. Without a model it asks the default one. -/
def start (key : String) (model : Option String) : Except Failure Session :=
  if isUsableKey key then
    let named := model.getD ""
    .ok { key
          model := if named.isEmpty then Settings.defaultModel else named
          connection := .absent
          sent := [] }
  else
    .error .unavailable

/-- The number of requests sent so far. -/
def requests (session : Session) : Nat :=
  session.sent.length

/-- The key goes into a header, which holds ASCII only. -/
def canConnect (session : Session) : Bool :=
  session.key.toList.all fun character => character.toNat < 0x80

def request (session : Session) (prompt system : String) : Request :=
  ⟨session.key, session.model, system, prompt⟩

/-- A prompt put to the model, and the session after it. -/
def complete (session : Session) (script : Script) (prompt system : String) :
    Except Failure Json × Session :=
  if session.connection == .opened || session.canConnect then
    let decided := exchange script allowedRepeats session.requests
    let more := List.replicate (decided.sent - session.requests) (session.request prompt system)
    (completed decided.reply,
      { session with connection := .opened, sent := session.sent ++ more })
  else
    (.error .unencodableKey, session)

/-- A snippet put to the model. Blank code is not sent. -/
def analyze (session : Session) (script : Script) (code : Text) :
    Except Failure Suggestion × Session :=
  if code.isAllBlank then
    (.error .emptySnippet, session)
  else
    let (answer, after) := session.complete script (question code.strip) systemPrompt
    (Suggestion.ofAnswer answer, after)

def close (session : Session) : Session :=
  { session with connection := session.connection.close }

end Session

/-! A session is used in steps. -/

inductive Step
  | analyze (code : Text)
  | complete (prompt system : String)
  | close
deriving Repr, DecidableEq

inductive StepResult
  | suggested (suggestion : Suggestion)
  | completed (value : Json)
  | closed
  | failed (failure : Failure)

def StepResult.ofExcept (succeeded : α → StepResult) : Except Failure α → StepResult
  | .ok value => succeeded value
  | .error failure => .failed failure

namespace Session

def step (session : Session) (script : Script) : Step → StepResult × Session
  | .analyze code =>
      let (result, after) := session.analyze script code
      (.ofExcept .suggested result, after)
  | .complete prompt system =>
      let (result, after) := session.complete script prompt system
      (.ofExcept .completed result, after)
  | .close => (.closed, session.close)

/-- The results of the steps, each with the session after it. -/
def run (session : Session) (script : Script) : List Step → List (StepResult × Session)
  | [] => []
  | first :: rest =>
      let (result, after) := session.step script first
      (result, after) :: after.run script rest

end Session

end GrowthGauge.Assistant
