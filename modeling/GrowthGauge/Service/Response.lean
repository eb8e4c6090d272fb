import GrowthGauge.Service.Route

namespace GrowthGauge.Service

/-! ## Responses

A response is an answer together with the number of requests that the assistant
has sent for it. -/

structure Response where
  answer : Answer
  requests : Nat
deriving Repr, DecidableEq

def Response.unassisted (answer : Answer) : Response :=
  ⟨answer, 0⟩

/-- A failure that the assistant foresees is reported as a bad gateway. -/
def answerOfFailure (failure : Assistant.Failure) : Answer :=
  match failure with
  | .unavailable =>
      .refused 503 .assisted
        "AI analysis is currently unavailable. Please try using pattern matching mode instead."
  | failure =>
      if failure.status?.isSome then
        .refused 502 .assisted failure.message
      else
        .internalError

/-- The assistant is asked in a session of its own. -/
def suggest (key : String) (script : Assistant.Script) (code : Text) : Response :=
  match Assistant.Session.start key none with
  | .error failure => .unassisted (answerOfFailure failure)
  | .ok session =>
      let (result, after) := session.analyze script code
      match result with
      | .ok suggestion => ⟨.suggested suggestion, after.requests⟩
      | .error failure => ⟨answerOfFailure failure, after.requests⟩

def analyzeOffline (code : Text) : Answer :=
  match analyze code with
  | .ok analysis => .analyzed analysis
  | .error failure => .refused 400 .offline failure.message

/-- The two modes never call each other. -/
def respondToRequest (key : String) (script : Assistant.Script) (request : AnalysisRequest) :
    Response :=
  let code : Text := request.code.toList
  if code.isAllBlank then
    .unassisted (.refused 400 (.ofUseAssistant request.useAssistant) "Code is required")
  else if request.useAssistant then
    suggest key script code
  else
    .unassisted (analyzeOffline code)

def respondToAnalyze (key : String) (script : Assistant.Script) (body : Text) : Response :=
  match AnalysisRequest.ofBody body with
  | .ok request => respondToRequest key script request
  | .error answer => .unassisted answer

/-- The response of the service, with the assistant's key among its settings. -/
def respond (key : String) (script : Assistant.Script) (call : Call) : Response :=
  match Route.ofPath? call.path with
  | none => .unassisted (if Route.isNearPath call.path then .redirected else .notFound)
  | some route =>
      if call.method != route.method then
        .unassisted .methodNotAllowed
      else
        match route with
        | .root => .unassisted .welcome
        | .health => .unassisted (.health (isUsableKey key))
        | .examples =>
            .unassisted (.examples (Catalog.list ((call.parameter? "language").map String.toList)))
        | .analyze => respondToAnalyze key script call.body

end GrowthGauge.Service
