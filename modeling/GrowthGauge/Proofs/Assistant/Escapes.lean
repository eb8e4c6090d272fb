import GrowthGauge.Assistant.Session
import GrowthGauge.Proofs.Pattern.Requirement

namespace GrowthGauge.Assistant

/-! ## Failures that nobody looks for

A failure without a status is not foreseen: it escapes from the assistant to its
caller. -/

def Escapes {Value : Type} (result : Except Failure Value) : Prop :=
  ∃ failure, result = .error failure ∧ failure.status? = none

section

variable {Value Other : Type}

@[simp] theorem not_escapes_ok (value : Value) : ¬Escapes (.ok value) := by
  rintro ⟨failure, equal, _⟩
  cases equal

@[simp] theorem escapes_error (failure : Failure) :
    Escapes (.error failure : Except Failure Value) ↔ failure.status? = none := by
  constructor
  · rintro ⟨_, equal, none⟩
    cases equal
    exact none
  · exact fun none => ⟨failure, rfl, none⟩

theorem not_escapes_foreseen (failure : Failure) (foreseen : failure.status?.isSome = true) :
    ¬Escapes (.error failure : Except Failure Value) := by
  rw [escapes_error]
  exact Option.isSome_iff_ne_none.mp foreseen

theorem escapes_bind (result : Except Failure Value) (next : Value → Except Failure Other) :
    Escapes (result >>= next) ↔
      Escapes result ∨ ∃ value, result = .ok value ∧ Escapes (next value) := by
  cases result with
  | error failure =>
      change Escapes (.error failure : Except Failure Other) ↔ _
      simp
  | ok value =>
      change Escapes (next value) ↔ _
      simp

end

/-! ## Replies that nobody looks for

Every step from a reply to an answer takes a shape of the reply for granted. -/

/-- A content that is neither a text nor one of the values that count as absent. -/
def IsNotText : Json → Prop
  | .string _ => False
  | .unpaired _ => True
  | content => content.isPresent = true

/-- A text that is JSON, or whose part in braces is, but goes beyond a limit of the
reader. -/
def IsBeyondLimits (content : Text) : Prop :=
  ∃ error ≠ Json.ReadError.malformed, Json.ofText content = .error error ∨
    (Json.ofText content = .error .malformed ∧ Json.ofText (braceSpan content) = .error error)

/-- An error body for which no detail can be told: it nests too deeply, it is JSON but
no object, or its detail is no text. -/
def IsShapeless (body : Text) : Prop :=
  match Json.ofBody body with
  | .ok (.object members) =>
      ∃ codes, refusalDetail (.string (String.ofList body)) members = .unpaired codes
  | .ok _ => True
  | .error error => error = .tooDeep

inductive Overlooked : Reply → Prop
  | unreadable {body : Text} {error : Json.ReadError} (read : Json.ofBody body = .error error) :
      Overlooked (.answered 200 body)
  | notText {body : Text} {completion content : Json} (read : Json.ofBody body = .ok completion)
      (found : messageContent? completion = some content) (notText : IsNotText content) :
      Overlooked (.answered 200 body)
  | beyondLimits {body content : Text} {completion : Json}
      (read : Json.ofBody body = .ok completion) (text : contentText completion = .ok content)
      (beyond : IsBeyondLimits content) : Overlooked (.answered 200 body)
  | shapeless {status : Nat} {body : Text}
      (refused : status ≠ 200 ∧ status ≠ 401 ∧ status ≠ 429) (shapeless : IsShapeless body) :
      Overlooked (.answered status body)

theorem escapes_refusalOfBody (status : Nat) (body : Text) :
    Escapes (.error (refusalOfBody status body) : Except Failure Json) ↔ IsShapeless body := by
  rw [escapes_error, refusalOfBody, IsShapeless]
  cases Json.ofBody body with
  | error error => cases error <;> simp [Failure.status?]
  | ok value =>
      cases value with
      | object members =>
          simp only
          cases refusalDetail (.string (String.ofList body)) members <;>
            simp [refusalOfDetail, Failure.status?]
      | _ => simp [Failure.status?]

theorem escapes_contentText (completion : Json) :
    Escapes (contentText completion) ↔
      ∃ content, messageContent? completion = some content ∧ IsNotText content := by
  rw [contentText]
  cases messageContent? completion with
  | none => simp [Failure.status?]
  | some content =>
      cases content with
      | string text =>
          simp only [Option.some.injEq, exists_eq_left', IsNotText, iff_false]
          split <;> simp [Failure.status?]
      | unpaired codes => simp [IsNotText, Failure.status?]
      | _ =>
          simp only [Option.some.injEq, exists_eq_left', IsNotText, escapes_error]
          split <;> simp_all [Failure.status?]

theorem escapes_value (content : Text) : Escapes (value content) ↔ IsBeyondLimits content := by
  rw [value, IsBeyondLimits]
  cases Json.ofText content with
  | ok value => simp
  | error error =>
      cases error with
      | malformed =>
          cases Json.ofText (braceSpan content) with
          | ok value => simp
          | error error =>
              cases error <;> simp [Failure.status?, and_or_left, exists_or]
      | _ => simp [Failure.status?]

theorem escapes_unreadable {Value : Type} (read : Except Json.ReadError Value) :
    Escapes (read.mapError .unreadable) ↔ ∃ error, read = .error error := by
  cases read <;> simp [Except.mapError, Failure.status?]

theorem completed_of_refused {status : Nat} (body : Text)
    (refused : status ≠ 200 ∧ status ≠ 401 ∧ status ≠ 429) :
    completed (.answered status body) = .error (refusalOfBody status body) := by
  simp [completed, record, refusal, refused, bind, Except.bind]

theorem escapes_completed_answered (body : Text) :
    Escapes (completed (.answered 200 body)) ↔ Overlooked (.answered 200 body) := by
  have result : completed (.answered 200 body) =
      (Json.ofBody body).mapError .unreadable >>= contentText >>= value := rfl
  rw [result, escapes_bind, escapes_bind, escapes_unreadable]
  simp only [escapes_contentText, escapes_value]
  constructor
  · rintro ((⟨error, read⟩ | ⟨completion, record, content, found, notText⟩) |
      ⟨content, text, beyond⟩)
    · exact .unreadable read
    · cases read : Json.ofBody body <;> rw [read] at record <;> cases record
      exact .notText read found notText
    · cases read : Json.ofBody body <;> rw [read] at text
      · cases text
      · exact .beyondLimits read text beyond
  · rintro (⟨read⟩ | ⟨read, found, notText⟩ | ⟨read, text, beyond⟩ | ⟨refused, _⟩)
    · exact .inl (.inl ⟨_, read⟩)
    · exact .inl (.inr ⟨_, by rw [read]; rfl, _, found, notText⟩)
    · exact .inr ⟨_, by rw [read]; exact text, beyond⟩
    · exact absurd rfl refused.1

/-- What escapes from reading a reply is due to a shape of the reply that nobody looks
for. -/
theorem escapes_completed (reply : Reply) : Escapes (completed reply) ↔ Overlooked reply := by
  cases reply with
  | failed fault message =>
      refine iff_of_false (not_escapes_foreseen (.unreachable message) rfl) ?_
      exact fun overlooked => nomatch overlooked
  | answered status body =>
      by_cases success : status = 200
      · exact success ▸ escapes_completed_answered body
      by_cases keyRefused : status = 401
      · subst keyRefused
        refine iff_of_false (not_escapes_foreseen .invalidKey rfl) ?_
        rintro (_ | _ | _ | ⟨refused, _⟩)
        exact refused.2.1 rfl
      by_cases limited : status = 429
      · subst limited
        refine iff_of_false (not_escapes_foreseen .rateLimited rfl) ?_
        rintro (_ | _ | _ | ⟨refused, _⟩)
        exact refused.2.2 rfl
      · have refused := And.intro success (And.intro keyRefused limited)
        rw [completed_of_refused body refused, escapes_refusalOfBody]
        refine ⟨.shapeless refused, ?_⟩
        rintro (_ | _ | _ | ⟨_, shapeless⟩)
        · exact absurd rfl success
        · exact absurd rfl success
        · exact absurd rfl success
        · exact shapeless

/-! ## Answers -/

/-- An answer whose explanation or steps are no texts, though nothing else is wrong with
it. -/
def HasUnpairedPart : Json → Prop
  | .object members =>
      (Json.member? members "notation").any Json.isPresent = true ∧
      (∃ suggestion, Suggestion.ofMembers members = .valid suggestion) ∧
      ["explanation", "steps"].all (Suggestion.isTextual members) = false
  | _ => False

theorem escapes_ofJson (answer : Json) :
    Escapes (Suggestion.ofJson answer) ↔ HasUnpairedPart answer := by
  cases answer with
  | object members =>
      rw [Suggestion.ofJson, HasUnpairedPart]
      cases (Json.member? members "notation").any Json.isPresent with
      | false => simp [Failure.status?]
      | true =>
          cases Suggestion.ofMembers members with
          | invalid problems => simp [Failure.status?]
          | valid suggestion =>
              cases ["explanation", "steps"].all (Suggestion.isTextual members) <;>
                simp [Failure.status?]
  | _ => simp [Suggestion.ofJson, HasUnpairedPart, Failure.status?]

/-- Only the failure of a content that is no JSON is made good. -/
theorem escapes_ofAnswer (answer : Except Failure Json) :
    Escapes (Suggestion.ofAnswer answer) ↔
      Escapes answer ∨ ∃ value, answer = .ok value ∧ HasUnpairedPart value := by
  cases answer with
  | ok value => simp [Suggestion.ofAnswer, escapes_ofJson]
  | error failure =>
      cases failure with
      | malformed content =>
          rw [Suggestion.ofAnswer]
          cases Suggestion.rescued? content <;> simp [Failure.status?]
      | _ => simp [Suggestion.ofAnswer]

/-! ## Suggestions name a growth -/

theorem seq_eq_valid {Value Other : Type} {transform : Checked (Value → Other)}
    {argument : Checked Value} {result : Other} (valid : (transform <*> argument) = .valid result) :
    ∃ function value, transform = .valid function ∧ argument = .valid value ∧
      function value = result := by
  change transform.apply argument = .valid result at valid
  cases transform <;> cases argument <;> cases valid
  exact ⟨_, _, rfl, rfl, rfl⟩

theorem map_eq_valid {Value Other : Type} {function : Value → Other} {argument : Checked Value}
    {result : Other} (valid : (function <$> argument) = .valid result) :
    ∃ value, argument = .valid value ∧ function value = result := by
  change argument.map function = .valid result at valid
  cases argument <;> cases valid
  exact ⟨_, rfl, rfl⟩

theorem growth_of_ofMembers {members : List (String × Json)} {suggestion : Suggestion}
    (valid : Suggestion.ofMembers members = .valid suggestion) :
    Json.member? members "notation" = some (.string suggestion.growth) := by
  rcases seq_eq_valid valid with ⟨_, _, withoutSteps, _, rfl⟩
  rcases seq_eq_valid withoutSteps with ⟨_, _, withoutExplanation, _, rfl⟩
  rcases map_eq_valid withoutExplanation with ⟨growth, read, rfl⟩
  rw [Field.required] at read
  cases found : Json.member? members "notation" with
  | none =>
      rw [found] at read
      cases read
  | some value =>
      rw [found] at read
      cases value with
      | string text =>
          cases read
          rfl
      | _ => cases read

theorem growth_ne_of_ofJson {answer : Json} {suggestion : Suggestion}
    (suggested : Suggestion.ofJson answer = .ok suggestion) : suggestion.growth ≠ "" := by
  cases answer with
  | object members =>
      rw [Suggestion.ofJson] at suggested
      split at suggested
      · next present =>
          split at suggested
          · next valid =>
              split at suggested <;> cases suggested
              rw [growth_of_ofMembers valid] at present
              simpa [Json.isPresent] using present
          · cases suggested
      · cases suggested
  | _ => cases suggested

theorem growth_ne_of_rescued? {content : Text} {suggestion : Suggestion}
    (rescued : Suggestion.rescued? content = some suggestion) : suggestion.growth ≠ "" := by
  rcases Option.map_eq_some_iff.mp rescued with ⟨found, search, rfl⟩
  rcases Pattern.exists_matchAt_of_searchFrom search with ⟨_, ahead, _, matched⟩
  rcases Pattern.mem_ends_of_matchAt matched with ⟨start, member⟩
  have requires : Suggestion.term.Requires (· == ')') :=
    Pattern.requires_inOrder (List.mem_of_getLast? rfl) (Pattern.requires_char rfl)
  have shorter := Pattern.length_ahead_lt_of_requires requires member
  have width := Pattern.length_matchText found
  intro empty
  have none : found.text = [] := String.ofList_eq_empty_iff.mp empty
  rw [none, start, List.length_nil] at width
  exact absurd width (Nat.ne_of_lt (Nat.sub_pos_of_lt shorter))

theorem growth_ne_of_ofAnswer {answer : Except Failure Json} {suggestion : Suggestion}
    (suggested : Suggestion.ofAnswer answer = .ok suggestion) : suggestion.growth ≠ "" := by
  unfold Suggestion.ofAnswer at suggested
  split at suggested
  · exact growth_ne_of_ofJson suggested
  · split at suggested <;> cases suggested
    exact growth_ne_of_rescued? ‹_›
  · cases suggested

/-! ## A snippet put to the model -/

namespace Session

variable {session : Session} {script : Script} {code : Text}

theorem analyze_of_inked (inked : code.isAllBlank = false) :
    (session.analyze script code).1 =
      Suggestion.ofAnswer (session.complete script (question code.strip) systemPrompt).1 := by
  rw [analyze, inked, if_neg Bool.false_ne_true]

theorem escapes_complete_of_cannot (absent : session.connection ≠ .opened)
    (cannot : session.canConnect = false) (prompt system : String) :
    Escapes (session.complete script prompt system).1 := by
  rw [complete, cannot, Bool.or_false, beq_eq_false_iff_ne.mpr absent, if_neg Bool.false_ne_true]
  exact (escapes_error .unencodableKey).mpr rfl

theorem complete_of_can (can : session.connection = .opened ∨ session.canConnect = true)
    (prompt system : String) :
    (session.complete script prompt system).1 =
      completed (exchange script allowedRepeats session.requests).reply := by
  have connects : (session.connection == .opened || session.canConnect) = true := by
    simpa using can
  rw [complete, connects, if_pos rfl]

theorem analyze_of_start {key : String} {model : Option String}
    (started : start key model = .ok session) :
    session.key = key ∧ session.connection = .absent ∧ session.requests = 0 := by
  unfold start at started
  split at started
  · cases started
    exact ⟨rfl, rfl, rfl⟩
  · cases started

theorem escapes_analyze_iff {key : String} {model : Option String}
    (started : start key model = .ok session) (script : Script)
    (inked : code.isAllBlank = false) :
    Escapes (session.analyze script code).1 ↔
      session.canConnect = false ∨ Overlooked (exchange script allowedRepeats 0).reply ∨
        ∃ value, completed (exchange script allowedRepeats 0).reply = .ok value ∧
          HasUnpairedPart value := by
  rcases analyze_of_start started with ⟨_, absent, fresh⟩
  rw [analyze_of_inked inked, escapes_ofAnswer]
  cases can : session.canConnect with
  | false =>
      have notOpen : session.connection ≠ .opened := by
        rw [absent]
        exact nofun
      simp [escapes_complete_of_cannot notOpen can]
  | true => simp [complete_of_can (.inr can), fresh, escapes_completed]

end Session

end GrowthGauge.Assistant
