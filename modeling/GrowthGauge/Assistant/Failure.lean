import GrowthGauge.Field.Problem
import GrowthGauge.Json.ReadError
import GrowthGauge.Text.Blank

namespace GrowthGauge.Assistant

/-! ## Failures

Why the assistant could not give an answer. Some failures are foreseen and have
a message and a status for the caller; the others are defects of a reply that
nobody looks for. -/

inductive Failure
  | unavailable
  | emptySnippet
  | unencodableKey
  | unreachable (message : String)
  | invalidKey
  | rateLimited
  | refused (status : Nat) (detail : String)
  | shapelessRefusal
  | unreadable (error : Json.ReadError)
  | unpaired
  | noContent
  | contentNotText
  | malformed (content : Text)
  | noGrowth
  | invalidAnalysis (problems : List Problem)
deriving Repr, DecidableEq

namespace Failure

/-- The status that a failure is reported with, if it is a foreseen one. -/
def status? : Failure → Option Nat
  | unavailable => some 503
  | unreachable _ => some 502
  | invalidKey => some 401
  | rateLimited => some 429
  | refused status _ => some status
  | noContent => some 502
  | malformed _ => some 502
  | noGrowth => some 502
  | invalidAnalysis _ => some 502
  | emptySnippet | unencodableKey | shapelessRefusal | contentNotText => none
  | unreadable _ | unpaired => none

def countedProblems (count : Nat) : String :=
  if count == 1 then s!"{count} validation error" else s!"{count} validation errors"

def message : Failure → String
  | unavailable => "AI analysis is currently unavailable"
  | emptySnippet => "Code cannot be empty"
  | unencodableKey => "The API key has a character outside ASCII"
  | unreachable message => s!"Network error: could not connect to the AI service ({message})"
  | invalidKey =>
      "Invalid API key: check that your Groq API key is correct and has not expired"
  | rateLimited => "Rate limit exceeded: please try again in a few moments"
  | refused status detail => s!"API error ({status}): {detail}"
  | shapelessRefusal => "The error body is JSON but no object"
  | unreadable error => error.message
  | unpaired => "The answer has an unpaired surrogate"
  | noContent => "No response from AI model"
  | contentNotText => "The content of the message is not a text"
  | malformed content =>
      s!"Failed to parse JSON response: {String.ofList (content.take 200)}..."
  | noGrowth => "Missing 'notation' field in response"
  | invalidAnalysis problems =>
      s!"Invalid analysis in response: {countedProblems problems.length} for AIVerdict"

end Failure

end GrowthGauge.Assistant
