import GrowthGauge.Assistant.Session
import GrowthGauge.Report
import GrowthGauge.Service.Target

namespace GrowthGauge.Service

/-! ## Routes

The service has four pages. A line feed at the end of a path does not count. A
path with slashes behind that of a page leads to no page, but its caller is told
where the page is. -/

inductive Route
  | root
  | health
  | examples
  | analyze
deriving Repr, DecidableEq

namespace Route

def all : List Route :=
  [.root, .health, .examples, .analyze]

def path : Route → String
  | root => "/"
  | health => "/health"
  | examples => "/examples"
  | analyze => "/analyze"

def method : Route → String
  | root | health | examples => "GET"
  | analyze => "POST"

def isAt (route : Route) (path : Text) : Bool :=
  path == route.path.toList || path == route.path.toList ++ ['\n']

def ofPath? (path : Text) : Option Route :=
  all.find? (·.isAt path)

def withoutSlashes (path : Text) : Text :=
  (path.reverse.dropWhile (· == '/')).reverse

/-- A path that leads to a page when the slashes at its end are dropped. -/
def isNearPath (path : Text) : Bool :=
  path.getLast? == some '/' && (ofPath? (withoutSlashes path)).isSome

example : ofPath? "/health".toList = some .health := by decide +kernel

example : isNearPath "/health//".toList = true := by decide +kernel

example : isNearPath "/".toList = false := by decide +kernel

end Route

/-- The parameters that come with a call replace those of its target. -/
structure Call where
  method : String
  target : Text
  query? : Option (List (String × String))
  body : Text
deriving Repr, DecidableEq

namespace Call

def path (call : Call) : Text :=
  (Target.ofText call.target).path

def query (call : Call) : List (String × String) :=
  call.query?.getD (Target.ofText call.target).query

/-- A repeated parameter has its last value. -/
def parameter? (call : Call) (name : String) : Option String :=
  (call.query.reverse.find? (·.1 == name)).map Prod.snd

end Call

/-! ## Answers -/

inductive Mode
  | offline
  | assisted
deriving Repr, DecidableEq

def Mode.text : Mode → String
  | offline => "offline"
  | assisted => "ai"

def Mode.ofUseAssistant (useAssistant : Bool) : Mode :=
  if useAssistant then .assisted else .offline

inductive Content
  | record (value : Json)
  | plain (text : String)

inductive Answer
  | welcome
  | health (hasAssistant : Bool)
  | examples (entries : List CatalogEntry)
  | analyzed (analysis : Analysis)
  | suggested (suggestion : Assistant.Suggestion)
  | refused (status : Nat) (mode : Mode) (message : String)
  | invalid (problems : List Problem)
  | unparsed
  | redirected
  | notFound
  | methodNotAllowed
  | internalError
deriving Repr, DecidableEq

namespace Answer

def status : Answer → Nat
  | welcome | health _ | examples _ | analyzed _ | suggested _ => 200
  | refused status _ _ => status
  | invalid _ => 422
  | unparsed => 400
  | redirected => 307
  | notFound => 404
  | methodNotAllowed => 405
  | internalError => 500

def detail (text : String) : Json :=
  .object [("detail", .string text)]

def outcome (mode : Mode) (result suggestion : Json) : Json :=
  .object
    [("success", .bool true),
      ("mode", .string mode.text),
      ("result", result),
      ("ai_result", suggestion),
      ("error", .null)]

def welcomePage : Json :=
  .object
    [("message", .string "Big-O Analyzer API"),
      ("version", .string "1.0.0"),
      ("endpoints", .object
        [("/analyze", .string "POST - Analyze time complexity (input: code, use_ai)"),
          ("/examples", .string "GET - Bundled example snippets"),
          ("/health", .string "GET - Health check")])]

/-- The record on the page, if there is one. -/
def page? : Answer → Option Json
  | welcome => some welcomePage
  | health hasAssistant =>
      some (.object [("status", .string "healthy"), ("ai_available", .bool hasAssistant)])
  | examples entries => some (.array (entries.map fun entry => .object entry.listing))
  | analyzed analysis => some (outcome .offline analysis.toJson .null)
  | suggested suggestion => some (outcome .assisted .null suggestion.toJson)
  | refused _ mode message =>
      some (.object
        [("success", .bool false), ("mode", .string mode.text), ("error", .string message)])
  | invalid _ => none
  | unparsed => some (detail "There was an error parsing the body")
  | redirected => none
  | notFound => some (detail "Not Found")
  | methodNotAllowed => some (detail "Method Not Allowed")
  | internalError => none

/-- The plain text on a page without a record. -/
def plainText : Answer → String
  | internalError => "Internal Server Error"
  | _ => ""

/-- A call for the head of a page alone gets no content. -/
def content (answer : Answer) (method : String) : Content :=
  if method == "HEAD" then
    .plain ""
  else
    match answer.page? with
    | some value => .record value
    | none => .plain answer.plainText

end Answer

/-! ## Requests for an analysis

The body is a JSON record with the code and the wish for the assistant. Both
fields may be left out. -/

structure AnalysisRequest where
  code : String
  useAssistant : Bool
deriving Repr, DecidableEq

namespace AnalysisRequest

def ofMembers (members : List (String × Json)) : Checked AnalysisRequest :=
  AnalysisRequest.mk
    <$> Field.withDefault "" (Field.measuredString Settings.defaultMaxCodeLength) "code" members
    <*> Field.withDefault false Field.bool "use_ai" members

def ofJson : Json → Checked AnalysisRequest
  | .object members => ofMembers members
  | _ => .fail .notObject

/-- A report of problems quotes the values that are wrong. It cannot be written if
one of them has no standard form. -/
def report (value : Json) (problems : List Problem) : Answer :=
  if problems.all fun problem => (value.part? problem.location).all Json.isStandard then
    .invalid (problems.map (·.within "body"))
  else
    .internalError

/-- The request, or the answer that reports its problems. -/
def ofValue (value : Json) : Except Answer AnalysisRequest :=
  match ofJson value with
  | .valid request => .ok request
  | .invalid problems => .error (report value problems)

/-- A body that is JSON beyond a limit has no problem to report. -/
def ofBody (body : Text) : Except Answer AnalysisRequest :=
  if body.isEmpty then
    .error (.invalid [⟨["body"], .missing⟩])
  else
    match Json.ofBody body with
    | .ok value => ofValue value
    | .error .malformed => .error (.invalid [⟨["body"], .unreadableJson⟩])
    | .error _ => .error .unparsed

end AnalysisRequest

end GrowthGauge.Service
