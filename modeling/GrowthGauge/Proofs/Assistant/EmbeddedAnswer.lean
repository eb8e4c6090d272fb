import GrowthGauge.Proofs.Assistant.Escapes
import GrowthGauge.Proofs.Field.Reading
import GrowthGauge.Proofs.Json.Refused
import GrowthGauge.Proofs.Text.Strip

namespace GrowthGauge

/-! ## Texts in braces

A text from one brace to another stays whole when the blanks around a content are taken
away. It is then what stands between the first opening brace and the last closing one,
as long as no such brace stands around it. -/

namespace Text

/-- The text begins with an opening brace and ends with a closing one. -/
structure InBraces (text : Text) : Prop where
  opens : text.head? = some '\x7b'
  closes : text.getLast? = some '\x7d'

variable {accept : Char → Bool} {text : Text} {mark : Char}

theorem dropWhile_append_of_head? (begins : text.head? = some mark) (stops : accept mark = false)
    (before : Text) : (before ++ text).dropWhile accept = before.dropWhile accept ++ text := by
  rcases List.head?_eq_some_iff.mp begins with ⟨rest, rfl⟩
  rw [List.dropWhile_append, List.dropWhile_cons_of_neg (ne_true_of_eq_false stops)]
  split
  · next empty => rw [List.isEmpty_iff.mp empty, List.nil_append]
  · rfl

theorem rdropWhile_append_of_getLast? (ends : text.getLast? = some mark)
    (stops : accept mark = false) (after : Text) :
    (text ++ after).rdropWhile accept = text ++ after.rdropWhile accept := by
  have begins : text.reverse.head? = some mark := by rw [List.head?_reverse, ends]
  rw [List.rdropWhile, List.reverse_append, dropWhile_append_of_head? begins stops,
    List.reverse_append, List.reverse_reverse, List.rdropWhile]

variable {object : Text}

theorem InBraces.head?_append (inBraces : object.InBraces) (after : Text) :
    (object ++ after).head? = some '\x7b' := by
  rw [List.head?_append, inBraces.opens, Option.some_or]

theorem InBraces.strip_append_append (inBraces : object.InBraces) (before after : Text) :
    strip (before ++ object ++ after) = before.stripStart ++ object ++ after.stripEnd := by
  have ends : (before.stripStart ++ object).getLast? = some '\x7d' := by
    rw [List.getLast?_append, inBraces.closes, Option.some_or]
  rw [strip, stripStart, List.append_assoc,
    dropWhile_append_of_head? (inBraces.head?_append after) (by decide), ← List.append_assoc,
    ← stripStart, stripEnd_eq_rdropWhile, rdropWhile_append_of_getLast? ends (by decide),
    stripEnd_eq_rdropWhile]

theorem InBraces.strip_eq (inBraces : object.InBraces) : strip object = object := by
  apply strip_eq_self
  · rw [inBraces.opens]
    rfl
  · rw [inBraces.closes]
    rfl

end Text

namespace Assistant

open Text

theorem braceSpan_eq (content : Text) :
    braceSpan content = (content.dropWhile (· != '\x7b')).rdropWhile (· != '\x7d') :=
  rfl

/-- What stands around the text and has no brace that could be taken for one of its
own is left out. -/
theorem braceSpan_append_append {object before after : Text} (inBraces : object.InBraces)
    (noOpening : '\x7b' ∉ before) (noClosing : '\x7d' ∉ after) :
    braceSpan (before ++ object ++ after) = object := by
  have noneBefore : before.dropWhile (· != '\x7b') = [] := by
    rw [List.dropWhile_eq_nil_iff]
    intro character member
    exact bne_iff_ne.mpr fun same => noOpening (same ▸ member)
  have noneAfter : after.rdropWhile (· != '\x7d') = [] := by
    rw [List.rdropWhile_eq_nil_iff]
    intro character member
    exact bne_iff_ne.mpr fun same => noClosing (same ▸ member)
  rw [braceSpan_eq, List.append_assoc,
    dropWhile_append_of_head? (inBraces.head?_append after) (by decide), noneBefore,
    List.nil_append, rdropWhile_append_of_getLast? inBraces.closes (by decide), noneAfter,
    List.append_nil]

theorem braceSpan_strip {object before after : Text} (inBraces : object.InBraces)
    (noOpening : '\x7b' ∉ before) (noClosing : '\x7d' ∉ after) :
    braceSpan (strip (before ++ object ++ after)) = object := by
  rw [inBraces.strip_append_append]
  apply braceSpan_append_append inBraces
  · exact fun member => noOpening ((List.dropWhile_sublist _).subset member)
  · rw [stripEnd_eq_rdropWhile]
    exact fun member => noClosing ((List.rdropWhile_prefix _ _).subset member)

/-! ## Answers that suggest something -/

/-- An answer with these members suggests this. Without an explanation it has the empty
one, and without steps it has none. -/
structure Suggests (members : List (String × Json)) (suggestion : Suggestion) : Prop where
  named : suggestion.growth ≠ ""
  growth : Json.member? members "notation" = some (.string suggestion.growth)
  explanation : (Json.member? members "explanation").getD (.string "") =
    .string suggestion.explanation
  steps : (Json.member? members "steps").getD (.array []) =
    .array (suggestion.steps.map .string)

theorem ofMembers_of_suggests {members : List (String × Json)} {suggestion : Suggestion}
    (suggests : Suggests members suggestion) :
    Suggestion.ofMembers members = .valid suggestion := by
  have absentExplanation : Field.string (.string "") = .valid "" := rfl
  have absentSteps : Field.strings .notList (.array []) = .valid [] := rfl
  rw [Suggestion.ofMembers, Field.required, suggests.growth,
    Field.withDefault_eq absentExplanation, suggests.explanation,
    Field.withDefault_eq absentSteps, suggests.steps, Field.strings_map_string]
  rfl

theorem itemsAreStandard_map_string (texts : List String) :
    Json.itemsAreStandard (texts.map .string) = true := by
  induction texts with
  | nil => rfl
  | cons text rest induction =>
      rw [List.map_cons, Json.itemsAreStandard, induction]
      rfl

theorem isTextual_of_getD {members : List (String × Json)} {key : String} {absent value : Json}
    (found : (Json.member? members key).getD absent = value) (standard : value.isStandard = true) :
    Suggestion.isTextual members key = true := by
  rw [Suggestion.isTextual]
  cases member : Json.member? members key with
  | none => rfl
  | some part =>
      rw [member, Option.getD_some] at found
      rw [Option.all_some, found, standard]

theorem ofJson_of_suggests {members : List (String × Json)} {suggestion : Suggestion}
    (suggests : Suggests members suggestion) :
    Suggestion.ofJson (.object members) = .ok suggestion := by
  have present : (Json.member? members "notation").any Json.isPresent = true := by
    rw [suggests.growth, Option.any_some, Json.isPresent, bne_iff_ne]
    exact suggests.named
  have explanation := isTextual_of_getD suggests.explanation rfl
  have steps := isTextual_of_getD suggests.steps (itemsAreStandard_map_string suggestion.steps)
  rw [Suggestion.ofJson, present, if_pos rfl, ofMembers_of_suggests suggests]
  simp only [List.all_cons, explanation, steps, List.all_nil, Bool.and_true, if_true]

/-! ## The content of a reply -/

/-- The content of a completion, where it is a text. -/
def textContent? (completion : Json) : Option Text :=
  match messageContent? completion with
  | some (.string content) => some content.toList
  | _ => none

/-- The content of a reply that is a chat completion. -/
def Reply.content? : Reply → Option Text
  | .answered 200 body => (Json.ofBody body).toOption.bind textContent?
  | _ => none

theorem contentText_of_textContent? {completion : Json} {content : Text}
    (found : textContent? completion = some content) (inked : content.strip ≠ []) :
    contentText completion = .ok content.strip := by
  unfold textContent? at found
  split at found
  · next text isText =>
      cases found
      have nonempty : (strip text.toList).isEmpty = false := by
        rw [Bool.eq_false_iff, ne_eq, List.isEmpty_iff]
        exact inked
      rw [contentText, isText]
      simp only [nonempty, Bool.false_eq_true, if_false]
  · cases found

theorem contentText_of_blank {completion : Json} {content : Text}
    (found : textContent? completion = some content) (blank : content.strip = []) :
    contentText completion = .error .noContent := by
  unfold textContent? at found
  split at found
  · next text isText =>
      cases found
      rw [contentText, isText]
      simp only [blank, List.isEmpty_nil, if_true]
  · cases found

theorem exists_completion_of_content? {reply : Reply} {content : Text}
    (carried : reply.content? = some content) :
    ∃ completion, textContent? completion = some content ∧
      completed reply = contentText completion >>= value := by
  unfold Reply.content? at carried
  split at carried
  · next body =>
      rcases Option.bind_eq_some_iff.mp carried with ⟨completion, isCompletion, found⟩
      have read : Json.ofBody body = .ok completion := by
        cases result : Json.ofBody body <;> rw [result] at isCompletion <;> cases isCompletion
        rfl
      have result : completed (.answered 200 body) =
          (Json.ofBody body).mapError .unreadable >>= contentText >>= value := rfl
      exact ⟨completion, found, by rw [result, read]; rfl⟩
  · cases carried

theorem completed_of_content? {reply : Reply} {content : Text}
    (carried : reply.content? = some content) (inked : content.strip ≠ []) :
    completed reply = value content.strip := by
  rcases exists_completion_of_content? carried with ⟨completion, found, result⟩
  rw [result, contentText_of_textContent? found inked]
  rfl

theorem completed_of_blank_content? {reply : Reply} {content : Text}
    (carried : reply.content? = some content) (blank : content.strip = []) :
    completed reply = .error .noContent := by
  rcases exists_completion_of_content? carried with ⟨completion, found, result⟩
  rw [result, contentText_of_blank found blank]
  rfl

/-- The record that a chat completion with this content is. -/
def completionOf (content : String) : Json :=
  .object [("choices", .array [.object [("message", message "assistant" content)]])]

theorem readsBack_completionOf (content : String) :
    Json.ReadsBack Json.ReadError.depthLimit (completionOf content) := by
  have role := Json.readsBack_string 966 "assistant"
  have inner := Json.readsBack_string 966 content
  have message : Json.ReadsBack 967 (message "assistant" content) := by
    apply Json.readsBack_object
    · exact List.forall_mem_cons.mpr ⟨role, List.forall_mem_singleton.mpr inner⟩
    · exact show ["role", "content"].Nodup by decide
  have choice : Json.ReadsBack 968 (.object [("message", Assistant.message "assistant" content)]) :=
    Json.readsBack_object (List.forall_mem_singleton.mpr message) (List.nodup_singleton _)
  have choices := Json.readsBack_array (List.forall_mem_singleton.mpr choice)
  exact Json.readsBack_object (List.forall_mem_singleton.mpr choices) (List.nodup_singleton _)

/-- Any content can be carried. -/
theorem content?_completion (content : Text) :
    (Reply.completion 200 (String.ofList content)).content? = some content := by
  have read : Json.ofBody (Json.write (completionOf (String.ofList content))) =
      .ok (completionOf (String.ofList content)) :=
    Json.ofBody_write (readsBack_completionOf _)
  change (Json.ofBody (Json.write (completionOf (String.ofList content)))).toOption.bind
    textContent? = some content
  rw [read]
  exact congrArg some String.toList_ofList

/-! ## The value of a content -/

theorem value_of_read {content : Text} {json : Json} (read : Json.ofText content = .ok json) :
    value content = .ok json := by
  rw [value, read]

theorem value_of_beyond {content : Text} {error : Json.ReadError}
    (refused : Json.ofText content = .error error) (beyond : error ≠ .malformed) :
    value content = .error (.unreadable error) := by
  rw [value, refused]
  cases error with
  | malformed => exact absurd rfl beyond
  | _ => rfl

theorem value_of_braceSpan {content : Text} {json : Json}
    (malformed : Json.ofText content = .error .malformed)
    (read : Json.ofText (braceSpan content) = .ok json) : value content = .ok json := by
  rw [value, malformed]
  simp only [read]

/-- An object in braces, with text around it whose braces cannot be taken for its own. -/
structure Embedded (before object after : Text) (members : List (String × Json)) : Prop where
  inBraces : object.InBraces
  read : Json.ofText object = .ok (.object members)
  noOpening : '\x7b' ∉ before
  noClosing : '\x7d' ∉ after

namespace Embedded

variable {before object after : Text} {members : List (String × Json)}

theorem inked (embedded : Embedded before object after members) :
    strip (before ++ object ++ after) ≠ [] := by
  rw [embedded.inBraces.strip_append_append]
  intro empty
  have none : object = [] := (List.append_eq_nil_iff.mp (List.append_eq_nil_iff.mp empty).1).2
  have opens := embedded.inBraces.opens
  rw [none] at opens
  cases opens

theorem value_of_malformed (embedded : Embedded before object after members)
    (malformed : Json.ofText (strip (before ++ object ++ after)) = .error .malformed) :
    value (strip (before ++ object ++ after)) = .ok (.object members) := by
  apply value_of_braceSpan malformed
  rw [braceSpan_strip embedded.inBraces embedded.noOpening embedded.noClosing, embedded.read]

theorem value_of_blank (embedded : Embedded before object after members)
    (beforeBlank : before.isAllBlank = true) (afterBlank : after.isAllBlank = true) :
    value (strip (before ++ object ++ after)) = .ok (.object members) := by
  rw [strip_blank_append_blank beforeBlank afterBlank, embedded.inBraces.strip_eq]
  exact value_of_read embedded.read

end Embedded

namespace Session

variable {session : Session} {script : Script} {before object after : Text}
  {members : List (String × Json)}

theorem complete_of_content? (can : session.connection = .opened ∨ session.canConnect = true)
    {content : Text}
    (carried : (exchange script allowedRepeats session.requests).reply.content? = some content)
    (inked : content.strip ≠ []) (prompt system : String) :
    (session.complete script prompt system).1 = value content.strip := by
  rw [complete_of_can can, completed_of_content? carried inked]

/-- What is asked for is the value of the whole content, or else of the object in it.
An object that suggests something is then what an analysis suggests. -/
theorem complete_embedded (can : session.connection = .opened ∨ session.canConnect = true)
    (embedded : Embedded before object after members)
    (carried : (exchange script allowedRepeats session.requests).reply.content? =
      some (before ++ object ++ after)) :
    let whole := strip (before ++ object ++ after)
    (∀ json, Json.ofText whole = .ok json →
      ∀ prompt system, (session.complete script prompt system).1 = .ok json) ∧
    (Json.ofText whole = .error .malformed →
      ∀ prompt system, (session.complete script prompt system).1 = .ok (.object members)) ∧
    (Json.ofText whole = .error .malformed ∨
        before.isAllBlank = true ∧ after.isAllBlank = true →
      ∀ suggestion, Suggests members suggestion → ∀ code, Text.isAllBlank code = false →
        (session.analyze script code).1 = .ok suggestion) := by
  intro whole
  have complete := complete_of_content? can carried embedded.inked
  refine ⟨?_, ?_, ?_⟩
  · intro json read prompt system
    rw [complete, value_of_read read]
  · intro malformed prompt system
    rw [complete, embedded.value_of_malformed malformed]
  · intro found suggestion suggests code inked
    have answer : value whole = .ok (.object members) := by
      rcases found with malformed | ⟨beforeBlank, afterBlank⟩
      · exact embedded.value_of_malformed malformed
      · exact embedded.value_of_blank beforeBlank afterBlank
    rw [analyze_of_inked inked, complete, answer]
    exact ofJson_of_suggests suggests

/-- A suggestion with a brace in one of its steps. -/
def bracedAnswer : List (String × Json) :=
  [("notation", .string "O(n)"), ("steps", .array [.string "while (i) \x7b"])]

theorem readsBack_bracedAnswer :
    Json.ReadsBack Json.ReadError.depthLimit (.object bracedAnswer) := by
  have growth := Json.readsBack_string 969 "O(n)"
  have steps := Json.readsBack_array
    (List.forall_mem_singleton.mpr (Json.readsBack_string 968 "while (i) \x7b"))
  apply Json.readsBack_object
  · exact List.forall_mem_cons.mpr ⟨growth, List.forall_mem_singleton.mpr steps⟩
  · exact show ["notation", "steps"].Nodup by decide

/-- The content begins with a byte order mark and has braces on both sides of the object.
It comes with the third request, after one that should slow down and one in its place
that times out. -/
theorem complete_embedded_amongBraces :
    let before := "\uFEFF\x7d Answer:\n".toList
    let after := "\n(see [1\x7b)".toList
    let object := Json.write (.object bracedAnswer)
    let script := Script.ofReplies (.answered 429 [])
      [.answered 429 [], .failed .readTimeout "slow",
        .completion 200 (String.ofList (before ++ object ++ after))]
    let session : Session := ⟨"key", "model", .closed, []⟩
    Embedded before object after bracedAnswer ∧
      (exchange script allowedRepeats session.requests).reply.content? =
        some (before ++ object ++ after) ∧
      Json.ofText (strip (before ++ object ++ after)) = .error .malformed ∧
      (session.complete script "prompt" "system").1 = .ok (.object bracedAnswer) ∧
      (session.analyze script ['x']).1 = .ok ⟨"O(n)", "", ["while (i) \x7b"]⟩ := by
  intro before after object script session
  have embedded : Embedded before object after bracedAnswer :=
    ⟨⟨by decide +kernel, by decide +kernel⟩, Json.ofText_write readsBack_bracedAnswer,
      by decide +kernel, by decide +kernel⟩
  have carried : (exchange script allowedRepeats session.requests).reply.content? =
      some (before ++ object ++ after) :=
    content?_completion (before ++ object ++ after)
  have malformed : Json.ofText (strip (before ++ object ++ after)) = .error .malformed := by
    rw [embedded.inBraces.strip_append_append]
    exact Json.ofText_of_not_opens (by decide) (by decide) (by decide) _
  have suggests : Suggests bracedAnswer ⟨"O(n)", "", ["while (i) \x7b"]⟩ :=
    ⟨by decide, rfl, rfl, rfl⟩
  rcases complete_embedded (.inr (by decide)) embedded carried with ⟨_, completed, analyzed⟩
  exact ⟨embedded, carried, malformed, completed malformed "prompt" "system",
    analyzed (.inl malformed) _ suggests ['x'] (by decide)⟩

/-! ## Objects that are missed

An object is not found behind a number that is too long, since the number is not even
refused as malformed. In a list it is not looked for, though a blank stands before the list
that JSON does not know. And a growth that is half a surrogate pair is no suggestion. -/

/-- A session that has sent nothing. -/
def unused : Session :=
  ⟨"key", "model", .absent, []⟩

/-- Every request is answered with this content. -/
def answering (content : Text) : Script := fun _ =>
  .completion 200 (String.ofList content)

theorem content?_answering (content : Text) :
    (exchange (answering content) allowedRepeats unused.requests).reply.content? =
      some content :=
  content?_completion content

theorem complete_answering {content : Text} (inked : content.strip ≠ [])
    (prompt system : String) :
    (unused.complete (answering content) prompt system).1 = value content.strip :=
  complete_of_content? (.inr (by decide)) (content?_answering content) inked prompt system

def plainAnswer : List (String × Json) :=
  [("notation", .string "O(n)")]

def plainText : Text :=
  Json.write (.object plainAnswer)

theorem readsBack_plainAnswer (depth : Nat) : Json.ReadsBack (depth + 1) (.object plainAnswer) :=
  Json.readsBack_object (List.forall_mem_singleton.mpr (Json.readsBack_string depth "O(n)"))
    (List.nodup_singleton _)

theorem embedded_plainText {before after : Text} (noOpening : '\x7b' ∉ before)
    (noClosing : '\x7d' ∉ after) : Embedded before plainText after plainAnswer :=
  ⟨⟨by decide +kernel, by decide +kernel⟩, Json.ofText_write (readsBack_plainAnswer 969),
    noOpening, noClosing⟩

theorem suggests_plainAnswer : Suggests plainAnswer ⟨"O(n)", "", []⟩ :=
  ⟨by decide, rfl, rfl, rfl⟩

theorem embedded_listed : Embedded ['\u00A0', '['] plainText [']'] plainAnswer :=
  embedded_plainText (by decide) (by decide)

theorem ofText_listed :
    Json.ofText (strip (['\u00A0', '['] ++ plainText ++ [']'])) =
      .ok (.array [.object plainAnswer]) := by
  have list : strip (['\u00A0', '['] ++ plainText ++ [']']) =
      Json.write (.array [.object plainAnswer]) := by
    rw [embedded_listed.inBraces.strip_append_append, Json.write, Json.writeItems]
    rfl
  rw [list]
  exact Json.ofText_write
    (Json.readsBack_array (List.forall_mem_singleton.mpr (readsBack_plainAnswer 968)))

def overlongNumber : Text :=
  '1' :: List.replicate Json.ReadError.digitLimit '1'

theorem eq_of_mem_overlongNumber {digit : Char} (member : digit ∈ overlongNumber) :
    digit = '1' := by
  rcases List.mem_cons.mp member with same | member
  · exact same
  · exact List.eq_of_mem_replicate member

theorem embedded_behindNumber : Embedded overlongNumber plainText [] plainAnswer := by
  refine embedded_plainText ?_ List.not_mem_nil
  intro member
  cases eq_of_mem_overlongNumber member

theorem ofText_behindNumber :
    Json.ofText (strip (overlongNumber ++ plainText ++ [])) =
      .error (.oversizedInteger overlongNumber.length) := by
  have start : overlongNumber.stripStart = overlongNumber :=
    List.dropWhile_cons_of_neg (by decide)
  have tooMany : Json.ReadError.digitLimit < overlongNumber.length := by
    rw [overlongNumber, List.length_cons, List.length_replicate]
    exact Nat.lt_succ_self _
  have object : plainText = '\x7b' :: (Json.writeMembers plainAnswer ++ ['\x7d']) := by
    rw [plainText, Json.write, List.cons_append]
  rw [embedded_behindNumber.inBraces.strip_append_append, start, List.append_assoc, object]
  apply Json.ofText_oversizedInteger (by decide) (by decide) (by decide) _ tooMany
  intro digit member
  rw [eq_of_mem_overlongNumber member]
  rfl

def halfPairAnswer : List (String × Json) :=
  [("notation", .unpaired [0xD800])]

theorem readsBack_halfPair (depth : Nat) : Json.ReadsBack depth (.unpaired [0xD800]) where
  opens := ⟨'"', _, by rw [Json.write, List.cons_append], rfl, by decide⟩
  reads := by
    intro steps rest enough
    have written : Json.write (.unpaired [0xD800]) = "\"\\ud800\"".toList := by
      rw [Json.write]
      decide +kernel
    rw [written] at enough ⊢
    have length : "\"\\ud800\"".toList.length = 8 := rfl
    rcases Nat.exists_eq_add_of_le' (by omega : 3 ≤ steps) with ⟨more, rfl⟩
    rfl

theorem embedded_halfPair :
    Embedded [] (Json.write (.object halfPairAnswer)) [] halfPairAnswer := by
  refine ⟨⟨by decide +kernel, by decide +kernel⟩, Json.ofText_write ?_, List.not_mem_nil,
    List.not_mem_nil⟩
  exact Json.readsBack_object (List.forall_mem_singleton.mpr (readsBack_halfPair 969))
    (List.nodup_singleton _)

/-- What is no JSON does not always lead to the object in it, nor to its suggestion. -/
theorem not_forall_embedded :
    (¬∀ before object after members suggestion script, Embedded before object after members →
      (exchange script allowedRepeats unused.requests).reply.content? =
        some (before ++ object ++ after) →
      (∀ json, Json.ofText (before ++ object ++ after) ≠ .ok json) →
      Suggests members suggestion → (unused.analyze script ['x']).1 = .ok suggestion) ∧
    (¬∀ before object after members script, Embedded before object after members →
      (exchange script allowedRepeats unused.requests).reply.content? =
        some (before ++ object ++ after) →
      (∀ json, Json.ofText (strip (before ++ object ++ after)) ≠ .ok json) →
      (unused.complete script "prompt" "system").1 = .ok (.object members)) ∧
    ¬∀ object members codes script, Embedded [] object [] members →
      (exchange script allowedRepeats unused.requests).reply.content? =
        some ([] ++ object ++ []) →
      Json.member? members "notation" = some (.unpaired codes) → codes ≠ [] →
      ∃ suggestion, (unused.analyze script ['x']).1 = .ok suggestion := by
  refine ⟨?_, ?_, ?_⟩
  · intro told
    have malformed : Json.ofText (['\u00A0', '['] ++ plainText ++ [']']) = .error .malformed :=
      Json.ofText_of_not_opens (by decide) (by decide) (by decide) _
    have suggested := told _ _ _ _ _ _ embedded_listed (content?_answering _)
      (by rw [malformed]; nofun) suggests_plainAnswer
    rw [analyze_of_inked (by decide), complete_answering embedded_listed.inked,
      value_of_read ofText_listed] at suggested
    cases suggested
  · intro found
    have completed := found _ _ _ _ _ embedded_behindNumber (content?_answering _)
      (by rw [ofText_behindNumber]; nofun)
    rw [complete_answering embedded_behindNumber.inked,
      value_of_beyond ofText_behindNumber (by nofun)] at completed
    cases completed
  · intro told
    rcases told _ _ [0xD800] _ embedded_halfPair (content?_answering _) rfl
      (List.cons_ne_nil _ _) with ⟨suggestion, suggested⟩
    rw [analyze_of_inked (by decide), complete_answering embedded_halfPair.inked,
      embedded_halfPair.value_of_blank rfl rfl] at suggested
    cases suggested

end Session

end Assistant

end GrowthGauge
