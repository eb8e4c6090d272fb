import GrowthGauge.Json.Printer
import GrowthGauge.Settings

namespace GrowthGauge.Assistant

/-! ## Requests

A question goes to the chat endpoint of the model service as a system message
and a user message. The service is told to answer in JSON. -/

def endpoint : String :=
  "https://api.groq.com/openai/v1/chat/completions"

def method : String :=
  "POST"

def contentType : String :=
  "application/json"

structure Request where
  key : String
  model : String
  system : String
  prompt : String
deriving Repr, DecidableEq

def Request.authorization (request : Request) : String :=
  "Bearer " ++ request.key

def message (role content : String) : Json :=
  .object [("role", .string role), ("content", .string content)]

/-- The record that the request carries. -/
def Request.payload (request : Request) : Json :=
  .object
    [("model", .string request.model),
      ("messages", .array [message "system" request.system, message "user" request.prompt]),
      ("max_tokens", .integer Settings.defaultMaxTokens),
      ("temperature", .double Settings.defaultTemperature),
      ("response_format", .object [("type", .string "json_object")])]

/-! ## Replies

A request is answered with a status and a body, or it fails on the way. Timeouts
and broken connections pass; other failures do not. -/

inductive TransportFault
  | connectTimeout
  | readTimeout
  | writeTimeout
  | poolTimeout
  | connectError
  | readError
  | writeError
  | closeError
  | localProtocolError
  | remoteProtocolError
  | proxyError
  | unsupportedProtocol
  | decodingError
  | tooManyRedirects
deriving Repr, DecidableEq

namespace TransportFault

def isTransient : TransportFault → Bool
  | connectTimeout | readTimeout | writeTimeout | poolTimeout => true
  | connectError | readError | writeError | closeError => true
  | _ => false

end TransportFault

inductive Reply
  | answered (status : Nat) (body : Text)
  | failed (fault : TransportFault) (message : String)
deriving Repr, DecidableEq

namespace Reply

/-- A chat completion whose message has this content. -/
def completion (status : Nat) (content : String) : Reply :=
  .answered status (Json.write (.object
    [("choices", .array [.object [("message", message "assistant" content)]])]))

def isRateLimited : Reply → Bool
  | answered status _ => status == 429
  | failed .. => false

def isTransient : Reply → Bool
  | answered .. => false
  | failed fault _ => fault.isTransient

end Reply

/-! ## Attempts

The replies that the service will give stand in a script, by the number of the
request. An attempt sends the request once, and once more when it was told to
slow down. An attempt that failed in passing is repeated, three attempts in all. -/

abbrev Script := Nat → Reply

/-- The script of a list of replies, the last of which repeats. -/
def Script.ofReplies (last : Reply) : List Reply → Script
  | [], _ => last
  | reply :: _, 0 => reply
  | reply :: rest, position + 1 => ofReplies reply rest position

/-- A decided exchange: the reply that decided it and the number of requests that
have been sent by then. -/
structure Exchange where
  reply : Reply
  sent : Nat
deriving Repr, DecidableEq

def attempt (script : Script) (sent : Nat) : Exchange :=
  if (script sent).isRateLimited then
    ⟨script (sent + 1), sent + 2⟩
  else
    ⟨script sent, sent + 1⟩

def exchange (script : Script) : (repeats : Nat) → (sent : Nat) → Exchange
  | 0, sent => attempt script sent
  | repeats + 1, sent =>
      let decided := attempt script sent
      if decided.reply.isTransient then
        exchange script repeats decided.sent
      else
        decided

/-- An attempt may be repeated twice. -/
def allowedRepeats : Nat := 2

end GrowthGauge.Assistant
