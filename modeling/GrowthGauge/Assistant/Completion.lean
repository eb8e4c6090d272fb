import GrowthGauge.Assistant.Exchange
import GrowthGauge.Assistant.Failure
import GrowthGauge.Json.Reader

namespace GrowthGauge.Assistant

/-! ## From a reply to its content

A reply that reports an error is told apart by its status. A successful one is a
chat completion, and the content of its first message is the answer. -/

/-- What an error record says: its own message, or else the error itself, or else
the whole body. -/
def refusalDetail (whole : Json) (members : List (String × Json)) : Json :=
  match Json.member? members "error" with
  | none => whole
  | some (.object error) => ((Json.member? error "message").filter Json.isPresent).getD whole
  | some error => if error.display.isEmpty then whole else error

def refusalOfDetail (status : Nat) : (detail : Json) → Failure
  | .unpaired _ => .unpaired
  | detail => .refused status detail.display

/-- An error body that is no JSON is shown whole. One that nests too deeply is not
shown at all. -/
def refusalOfBody (status : Nat) (body : Text) : Failure :=
  let whole := String.ofList body
  match Json.ofBody body with
  | .ok (.object members) => refusalOfDetail status (refusalDetail (.string whole) members)
  | .ok _ => .shapelessRefusal
  | .error .tooDeep => .unreadable .tooDeep
  | .error _ => .refused status whole

def refusal (status : Nat) (body : Text) : Failure :=
  if status == 401 then
    .invalidKey
  else if status == 429 then
    .rateLimited
  else
    refusalOfBody status body

/-- The record that a deciding reply carries. -/
def record (reply : Reply) : Except Failure Json :=
  match reply with
  | .failed _ message => .error (.unreachable message)
  | .answered status body =>
      if status == 200 then
        (Json.ofBody body).mapError .unreadable
      else
        .error (refusal status body)

/-- The content of the first choice's message. -/
def messageContent? (completion : Json) : Option Json := do
  let choices ← completion.get? "choices"
  let choice ← choices.item? 0
  let message ← choice.get? "message"
  message.get? "content"

/-- The content as a text without blanks around it, which may not be empty. -/
def contentText (completion : Json) : Except Failure Text :=
  match messageContent? completion with
  | none => .error .noContent
  | some (.string content) =>
      let stripped := Text.strip content.toList
      if stripped.isEmpty then .error .noContent else .ok stripped
  | some (.unpaired _) => .error .unpaired
  | some content => .error (if content.isPresent then .contentNotText else .noContent)

/-! ## From the content to a value

The content should be JSON. Where it is not, the text from its first opening
brace to its last closing one may be. -/

def braceSpan (content : Text) : Text :=
  ((content.dropWhile (· != '{')).reverse.dropWhile (· != '}')).reverse

/-- A text that is JSON beyond a limit is not searched for braces. -/
def value (content : Text) : Except Failure Json :=
  match Json.ofText content with
  | .ok value => .ok value
  | .error .malformed =>
      match Json.ofText (braceSpan content) with
      | .ok value => .ok value
      | .error .malformed => .error (.malformed content)
      | .error error => .error (.unreadable error)
  | .error error => .error (.unreadable error)

def completed (reply : Reply) : Except Failure Json :=
  record reply >>= contentText >>= value

end GrowthGauge.Assistant
