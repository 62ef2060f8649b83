import Mathlib.Data.List.Chain
import OpenZync.Library.JsonReading
import OpenZync.Llm.ExtractJson

/-!
# Structured output of a language model

`LLMBackend.chat` asks the provider until an answer validates against the model of
the response, and tells it about each answer that does not.  The `_chat` of the SDK
backends sends each question again while the provider is busy.
-/

namespace OpenZync.Llm

open OpenZync.Library

/-- A message; other keys of the dictionaries are handed through. -/
structure ChatMessage where
  role : Text
  content : Text
deriving DecidableEq

structure TokenUsage where
  promptTokens : Nat
  completionTokens : Nat
  reasoningTokens : Nat
  cacheReadInputTokens : Nat
  cacheCreationInputTokens : Nat
deriving DecidableEq

structure ChatResponse (μ : Type) where
  content : Text
  model : Text
  usage : TokenUsage
  validatedData : Option μ

/-- A Pydantic model, what is told about it, and `orjson.dumps`. -/
structure ResponseModel (V μ : Type) where
  name : Text
  schemaJson : Text
  /-- Pydantic's own parser, with which `model_validate_json` starts. -/
  parse : Text → Option V
  /-- What `model_validate_json` makes of a parsed value. -/
  validateParsed : V → Option μ
  /-- `model_validate` -/
  validate : V → Option μ
  dumps : V → Text
  validationError : V → Text
  decodeError : Text → Text

/-- `model_validate_json` -/
def ResponseModel.validateJson {V μ : Type} (model : ResponseModel V μ) (text : Text) :
    Option μ :=
  (model.parse text).bind model.validateParsed

/-- A rendered value that the model accepts is parsed back, and the model is not stricter about
parsed values than about those of the program. -/
structure ResponseModel.Lax {V μ : Type} (model : ResponseModel V μ) : Prop where
  reads : ∀ value data, model.validate value = some data →
    model.parse (model.dumps value) = some value
  accepts : ∀ value data, model.validate value = some data →
    model.validateParsed value = some data

/-- How the provider ends a request: `busy` is an error with status 429, 500, 502 or 503. -/
inductive Completion (ε μ : Type) where
  | answered (response : ChatResponse μ)
  | busy
  | failed (error : ε)

inductive ChatError (ε : Type) where
  | provider (error : ε)
  | retriesExhausted
  | structuredOutput (message modelName contentPreview validationError : Text)
  | unreachable
deriving DecidableEq

/-- A row for the metering; its duration and its key are left out. -/
structure UsageRecord where
  provider : Text
  model : Text
  usage : TokenUsage
deriving DecidableEq

/-- A backend with a JSON library; `σ` are the sinks. -/
structure LLMBackend (V ε μ σ : Type) where
  json : JsonLibrary V
  providerName : Text
  modelName : Text
  maxRetries : Nat
  usageSink : Option σ
  /-- The answer to a request, by the number of requests before it. -/
  complete : Nat → List ChatMessage → Completion ε μ

/-- The messages that `_chat` gets, and the number of requests before. -/
structure Question where
  messages : List ChatMessage
  sent : Nat
deriving DecidableEq

/-- The result of a call, its questions, the number of requests, and what the sinks got. -/
structure ChatRun (ε μ σ : Type) where
  result : Except (ChatError ε) (ChatResponse μ)
  asked : List Question
  sent : Nat
  emitted : List (σ × UsageRecord)

/-- What `chat` is called with after the response model. -/
structure ChatCall (σ : Type) where
  validationRetries : Option Int
  sink : Option σ
  metered : Bool

/-- `VALIDATION_RETRIES` -/
def defaultRetries : Int := 2

def ChatCall.retries {σ : Type} (call : ChatCall σ) : Int :=
  call.validationRetries.getD defaultRetries

section Prompts

variable {V μ : Type} (model : ResponseModel V μ)

def schemaInstruction : Text :=
  ("You MUST respond with valid JSON only. Do NOT include markdown code blocks, " ++
    "explanations, or any text outside the JSON object.\n\nExpected JSON schema:\n").toList ++
    model.schemaJson

/-- `_inject_schema_instr` -/
def injectSchemaInstr : List ChatMessage → List ChatMessage
  | first :: rest =>
      if first.role = "system".toList then
        { first with content := first.content ++ "\n\n".toList ++ schemaInstruction model } :: rest
      else ⟨"system".toList, schemaInstruction model⟩ :: first :: rest
  | [] => [⟨"system".toList, schemaInstruction model⟩]

/-- `_build_retry_messages` -/
def buildRetryMessages (messages : List ChatMessage) (badContent : Text) : List ChatMessage :=
  messages ++
    [⟨"assistant".toList, badContent⟩,
      ⟨"user".toList,
        ("The previous response was NOT valid JSON matching the expected schema.\n\n" ++
          "Please try again. Output ONLY valid JSON. No markdown fences, no extra text.\n" ++
          "Expected schema:\n").toList ++ model.schemaJson⟩]

/-- `_last_validation_error` -/
def lastValidationError (json : JsonLibrary V) (content : Text) : Text :=
  match json.loads content with
  | none => "Invalid JSON: ".toList ++ model.decodeError content
  | some parsed =>
      match model.validate parsed with
      | none => model.validationError parsed
      | some _ => "Unknown validation error".toList

/-- The two tries to validate a response; the second one replaces its content by clean JSON. -/
def accept (json : JsonLibrary V) (response : ChatResponse μ) : Option (ChatResponse μ) :=
  match model.validateJson response.content with
  | some data => some { response with validatedData := some data }
  | none =>
      (extractJson json response.content).bind fun extracted =>
        (model.validate extracted).map fun data =>
          { response with content := model.dumps extracted, validatedData := some data }

end Prompts

namespace LLMBackend

variable {V ε μ σ : Type} (backend : LLMBackend V ε μ σ)

/-- `_chat`: the requests for one question, of which so many remain. -/
def chatOnce (messages : List ChatMessage) :
    Nat → Nat → Except (ChatError ε) (ChatResponse μ) × Nat
  | 0, sent => (.error .retriesExhausted, sent)
  | remaining + 1, sent =>
      match backend.complete sent messages with
      | .answered response => (.ok response, sent + 1)
      | .failed error => (.error (.provider error), sent + 1)
      | .busy => chatOnce messages remaining (sent + 1)

/-- `_maybe_emit_usage`; what a sink raises is logged. -/
def maybeEmitUsage (call : ChatCall σ) (response : ChatResponse μ) :
    List (σ × UsageRecord) :=
  match call.sink.or backend.usageSink with
  | some sink =>
      if call.metered then [(sink, ⟨backend.providerName, response.model, response.usage⟩)] else []
  | none => []

/-- `raise LLMStructuredOutputError` after so many attempts. -/
def structuredOutputError (model : ResponseModel V μ) (attempts : Int) (content : Text) :
    ChatError ε :=
  .structuredOutput
    ("LLM output failed to match ".toList ++ model.name ++ " after ".toList ++
      (toString attempts).toList ++ " attempt(s).".toList)
    backend.modelName (content.take 300) (lastValidationError model backend.json content)

/-- The loop of `chat` over the attempts, of which so many remain. -/
def chatAttempts (call : ChatCall σ) (model : ResponseModel V μ) :
    Nat → Int → Nat → List ChatMessage → ChatRun ε μ σ
  | 0, _, sent, _ => ⟨.error .unreachable, [], sent, []⟩
  | remaining + 1, attempt, sent, messages =>
      match backend.chatOnce messages backend.maxRetries sent with
      | (.error error, total) => ⟨.error error, [⟨messages, sent⟩], total, []⟩
      | (.ok response, total) =>
          match accept model backend.json response with
          | some accepted =>
              ⟨.ok accepted, [⟨messages, sent⟩], total, backend.maybeEmitUsage call accepted⟩
          | none =>
              if call.retries ≤ attempt then
                ⟨.error (backend.structuredOutputError model (call.retries + 1) response.content),
                  [⟨messages, sent⟩], total, []⟩
              else
                let rest := chatAttempts call model remaining (attempt + 1) total
                  (buildRetryMessages model messages response.content)
                { rest with asked := ⟨messages, sent⟩ :: rest.asked }

/-- `chat` -/
def chat (messages : List ChatMessage) (responseModel : Option (ResponseModel V μ))
    (call : ChatCall σ) : ChatRun ε μ σ :=
  match responseModel with
  | none =>
      match backend.chatOnce messages backend.maxRetries 0 with
      | (.error error, total) => ⟨.error error, [⟨messages, 0⟩], total, []⟩
      | (.ok response, total) =>
          ⟨.ok response, [⟨messages, 0⟩], total, backend.maybeEmitUsage call response⟩
  | some model =>
      backend.chatAttempts call model (call.retries + 1).toNat 0 0
        (injectSchemaInstr model messages)

end LLMBackend

section Runs

variable {V ε μ σ : Type} {backend : LLMBackend V ε μ σ} {call : ChatCall σ}
  {model : ResponseModel V μ}

theorem accept_valid (lax : model.Lax) {json : JsonLibrary V}
    {response accepted : ChatResponse μ} (accepts : accept model json response = some accepted) :
    ∃ data, accepted.validatedData = some data ∧
      model.validateJson accepted.content = some data := by
  unfold accept at accepts
  split at accepts
  · rename_i data valid
    cases accepts
    exact ⟨data, rfl, valid⟩
  · obtain ⟨extracted, _, validated⟩ := Option.bind_eq_some_iff.mp accepts
    obtain ⟨data, valid, rfl⟩ := Option.map_eq_some_iff.mp validated
    refine ⟨data, rfl, ?_⟩
    rw [ResponseModel.validateJson, lax.reads extracted data valid]
    exact lax.accepts extracted data valid

theorem chatOnce_sent (backend : LLMBackend V ε μ σ) (messages : List ChatMessage)
    (remaining sent : Nat) :
    (backend.chatOnce messages remaining sent).2 ≤ sent + remaining := by
  induction remaining generalizing sent with
  | zero => exact Nat.le_refl sent
  | succ remaining induction =>
      rw [LLMBackend.chatOnce]
      split
      · omega
      · omega
      · have rest := induction (sent + 1)
        omega

theorem chatOnce_error {messages : List ChatMessage} {remaining sent : Nat}
    {error : ChatError ε}
    (raised : (backend.chatOnce messages remaining sent).1 = .error error) :
    error = .retriesExhausted ∨ ∃ cause, error = .provider cause := by
  induction remaining generalizing sent with
  | zero =>
      cases raised
      exact .inl rfl
  | succ remaining induction =>
      rw [LLMBackend.chatOnce] at raised
      split at raised
      · cases raised
      · cases raised
        exact .inr ⟨_, rfl⟩
      · exact induction raised

/-- With so many requests in all the provider has answered the question, after it was busy for
the ones before. -/
def Answered (backend : LLMBackend V ε μ σ) (question : Question) (total : Nat)
    (response : ChatResponse μ) : Prop :=
  ∃ number, total = number + 1 ∧ question.sent ≤ number ∧
    number < question.sent + backend.maxRetries ∧
    (∀ earlier, question.sent ≤ earlier → earlier < number →
      backend.complete earlier question.messages = .busy) ∧
    backend.complete number question.messages = .answered response

theorem chatOnce_answered {messages : List ChatMessage} {remaining sent total : Nat}
    {response : ChatResponse μ}
    (answer : backend.chatOnce messages remaining sent = (.ok response, total)) :
    ∃ number, total = number + 1 ∧ sent ≤ number ∧ number < sent + remaining ∧
      (∀ earlier, sent ≤ earlier → earlier < number →
        backend.complete earlier messages = .busy) ∧
      backend.complete number messages = .answered response := by
  induction remaining generalizing sent with
  | zero => cases answer
  | succ remaining induction =>
      rw [LLMBackend.chatOnce] at answer
      split at answer
      · rename_i response' now
        cases answer
        refine ⟨sent, rfl, Nat.le_refl sent, by omega, ?_, now⟩
        intro earlier above below
        omega
      · cases answer
      · rename_i busy
        obtain ⟨number, last, above, below, waited, now⟩ := induction answer
        refine ⟨number, last, by omega, by omega, ?_, now⟩
        intro earlier from' until'
        rcases Nat.eq_or_lt_of_le from' with rfl | later
        · exact busy
        · exact waited earlier later until'

/-- A question repeats the one before, with the answer to it, which was not accepted. -/
def AsksAgain (backend : LLMBackend V ε μ σ) (model : ResponseModel V μ)
    (earlier later : Question) : Prop :=
  ∃ response, Answered backend earlier later.sent response ∧
    accept model backend.json response = none ∧
    later.messages = buildRetryMessages model earlier.messages response.content

/-- The answer to the last question of the run. -/
def LastAnswer (backend : LLMBackend V ε μ σ) (run : ChatRun ε μ σ) (response : ChatResponse μ) :
    Prop :=
  ∃ question ∈ run.asked.getLast?, Answered backend question run.sent response

/-- What a run with so many attempts from the given messages is like. -/
structure SoundRun (backend : LLMBackend V ε μ σ) (call : ChatCall σ)
    (model : ResponseModel V μ) (attempts sent : Nat) (messages : List ChatMessage)
    (run : ChatRun ε μ σ) : Prop where
  questions : run.asked.length ≤ attempts
  first : ∀ question ∈ run.asked.head?, question = ⟨messages, sent⟩
  again : run.asked.IsChain (AsksAgain backend model)
  requests : run.sent ≤ sent + attempts * backend.maxRetries
  returned : ∀ accepted, run.result = .ok accepted → ∃ response,
    LastAnswer backend run response ∧ accept model backend.json response = some accepted
  metered : run.emitted = match run.result with
    | .ok response => backend.maybeEmitUsage call response
    | .error _ => []
  exhausted : ∀ message modelName preview error,
    run.result = .error (.structuredOutput message modelName preview error) →
      run.asked.length = attempts ∧ ∃ response,
        LastAnswer backend run response ∧ accept model backend.json response = none
  reachable : run.result = .error .unreachable → attempts = 0

/-- Without an attempt nothing is asked. -/
theorem soundRun_none (call : ChatCall σ) (attempt : Int) (sent : Nat)
    (messages : List ChatMessage) :
    SoundRun backend call model 0 sent messages
      (backend.chatAttempts call model 0 attempt sent messages) :=
  { questions := Nat.le_refl 0
    first := nofun
    again := .nil
    requests := Nat.le_add_right _ _
    returned := nofun
    metered := rfl
    exhausted := nofun
    reachable := fun _ => rfl }

theorem LastAnswer.cons {run : ChatRun ε μ σ} {response : ChatResponse μ}
    (last : LastAnswer backend run response) (question : Question) :
    LastAnswer backend { run with asked := question :: run.asked } response := by
  obtain ⟨final, member, answered⟩ := last
  refine ⟨final, ?_, answered⟩
  change (question :: run.asked).getLast? = some final
  rw [List.getLast?_cons, Option.mem_def.mp member]
  rfl

theorem soundRun_chatAttempts (call : ChatCall σ) (remaining : Nat) (attempt : Int)
    (fits : attempt + remaining = call.retries + 1) (sent : Nat) (messages : List ChatMessage) :
    SoundRun backend call model remaining sent messages
      (backend.chatAttempts call model remaining attempt sent messages) := by
  induction remaining generalizing attempt sent messages with
  | zero => exact soundRun_none call attempt sent messages
  | succ remaining induction =>
      have within := chatOnce_sent backend messages backend.maxRetries sent
      have sum : (remaining + 1) * backend.maxRetries =
          remaining * backend.maxRetries + backend.maxRetries := Nat.succ_mul _ _
      rw [LLMBackend.chatAttempts]
      split
      · rename_i error total answer
        rw [answer] at within
        have raised : (backend.chatOnce messages backend.maxRetries sent).1 = .error error := by
          rw [answer]
        refine
          { questions := Nat.le_add_left 1 remaining
            first := ?_
            again := .singleton _
            requests := ?_
            returned := nofun
            metered := rfl
            exhausted := ?_
            reachable := ?_ }
        · intro question asked
          cases asked
          rfl
        · dsimp only at within ⊢
          omega
        · intro message modelName preview detail same
          cases same
          rcases chatOnce_error raised with exhausted | ⟨cause, provider⟩
          · cases exhausted
          · cases provider
        · intro same
          cases same
          rcases chatOnce_error raised with exhausted | ⟨cause, provider⟩
          · cases exhausted
          · cases provider
      · rename_i response total answer
        rw [answer] at within
        dsimp only at within
        have answered : Answered backend ⟨messages, sent⟩ total response :=
          chatOnce_answered answer
        split
        · rename_i accepted accepts
          refine
            { questions := Nat.le_add_left 1 remaining
              first := ?_
              again := .singleton _
              requests := ?_
              returned := ?_
              metered := rfl
              exhausted := nofun
              reachable := nofun }
          · intro question asked
            cases asked
            rfl
          · dsimp only
            omega
          · intro accepted' same
            cases same
            exact ⟨response, ⟨_, rfl, answered⟩, accepts⟩
        · rename_i rejected
          split
          · rename_i last
            refine
              { questions := Nat.le_add_left 1 remaining
                first := ?_
                again := .singleton _
                requests := ?_
                returned := nofun
                metered := rfl
                exhausted := ?_
                reachable := nofun }
            · intro question asked
              cases asked
              rfl
            · dsimp only
              omega
            · intro message modelName preview error same
              refine ⟨?_, response, ⟨_, rfl, answered⟩, rejected⟩
              rw [List.length_singleton]
              omega
          · rename_i early
            have rest := induction (attempt + 1) (by omega) total
              (buildRetryMessages model messages response.content)
            refine
              { questions := Nat.succ_le_succ rest.questions
                first := ?_
                again := ?_
                requests := ?_
                returned := ?_
                metered := rest.metered
                exhausted := ?_
                reachable := ?_ }
            · intro question asked
              cases asked
              rfl
            · apply rest.again.cons
              intro next asked
              obtain rfl := rest.first next asked
              exact ⟨response, answered, rejected, rfl⟩
            · have later := rest.requests
              dsimp only
              omega
            · intro accepted same
              obtain ⟨response', last, accepts⟩ := rest.returned accepted same
              exact ⟨response', last.cons _, accepts⟩
            · intro message modelName preview error same
              obtain ⟨all, response', last, rejects⟩ :=
                rest.exhausted message modelName preview error same
              refine ⟨?_, response', last.cons _, rejects⟩
              rw [List.length_cons, all]
            · intro same
              have none : remaining = 0 := rest.reachable same
              omega

end Runs

/-- Whatever the provider answers, a call with a response model returns its last answer as the
model accepts it, with content that is valid and the data that it validates to; each question after
the first one repeats the one before with the answer to it, which was not accepted; there are as
many questions as attempts at most, each sent while the provider is busy and not more often than
`MAX_RETRIES`; and what is metered is the returned answer alone. -/
theorem structured_output_sound {V ε μ σ : Type} (backend : LLMBackend V ε μ σ)
    (call : ChatCall σ) (model : ResponseModel V μ) (lax : model.Lax)
    (messages : List ChatMessage) :
    SoundRun backend call model (call.retries + 1).toNat 0 (injectSchemaInstr model messages)
        (backend.chat messages (some model) call) ∧
      ∀ accepted, (backend.chat messages (some model) call).result = .ok accepted →
        ∃ data, accepted.validatedData = some data ∧
          model.validateJson accepted.content = some data := by
  have sound : SoundRun backend call model (call.retries + 1).toNat 0
      (injectSchemaInstr model messages) (backend.chat messages (some model) call) := by
    change SoundRun backend call model (call.retries + 1).toNat 0
      (injectSchemaInstr model messages)
      (backend.chatAttempts call model (call.retries + 1).toNat 0 0
        (injectSchemaInstr model messages))
    by_cases negative : call.retries + 1 ≤ 0
    · rw [Int.toNat_of_nonpos negative]
      exact soundRun_none call 0 0 _
    · apply soundRun_chatAttempts
      omega
  refine ⟨sound, ?_⟩
  intro accepted returned
  obtain ⟨response, _, accepts⟩ := sound.returned accepted returned
  exact accept_valid lax accepts

section Fenced

/-- The document that has the one field of the model. -/
def yesDocument : Json Nat :=
  .object [("answer".toList, .string "yes".toList)]

def yesText : Text :=
  Json.render (Nat.toDigits 10) yesDocument

/-- A model with one field, which is a string. -/
def answerField : Json Nat → Option Text
  | .object [(key, .string answer)] => if key = "answer".toList then some answer else none
  | _ => none

def answerModel : ResponseModel (Json Nat) Text where
  name := "Answer".toList
  schemaJson := Json.render (Nat.toDigits 10) (.object [("type".toList, .string "object".toList)])
  parse := Json.loads Json.readNat
  validateParsed := answerField
  validate := answerField
  dumps := Json.render (Nat.toDigits 10)
  validationError := fun _ => "answer: Field required".toList
  decodeError := fun _ => "unexpected character".toList

theorem answerModel_lax : answerModel.Lax where
  reads := fun value _ _ => Json.loads_render Json.readsNumbers_readNat value
  accepts := fun _ _ valid => valid

/-- A library that knows one document. -/
def oneDocument : JsonLibrary (Json Nat) where
  loads := fun text => if text = yesText then some yesDocument else none
  complete := by
    intro document trailing _ parsed parsed' c member
    have whole : document = yesText := by
      by_contra other
      simp [other] at parsed
    have longer : document ++ trailing = yesText := by
      by_contra other
      simp [other] at parsed'
    have none : trailing = [] := List.append_right_eq_self.mp (longer.trans whole.symm)
    rw [none] at member
    cases member

def answeredWith (content : Text) : Completion Unit Text :=
  .answered ⟨content, "gpt".toList, ⟨1, 1, 0, 0, 0⟩, none⟩

/-- The provider is busy once, answers with prose, and then in a fence. -/
def hesitantBackend : LLMBackend (Json Nat) Unit Text Unit where
  json := oneDocument
  providerName := "openai".toList
  modelName := "gpt".toList
  maxRetries := 3
  usageSink := some ()
  complete := fun number _ =>
    if number = 0 then .busy
    else if number = 1 then answeredWith "I would say yes.".toList
    else answeredWith (inJsonFence "Sure: ".toList yesText [])

def meteredCall : ChatCall Unit where
  validationRetries := none
  sink := none
  metered := true

theorem structured_output_sound_hesitantBackend :
    SoundRun hesitantBackend meteredCall answerModel 3 0
        (injectSchemaInstr answerModel [⟨"user".toList, "Yes or no?".toList⟩])
        (hesitantBackend.chat [⟨"user".toList, "Yes or no?".toList⟩] (some answerModel)
          meteredCall) ∧
      ∀ accepted, (hesitantBackend.chat [⟨"user".toList, "Yes or no?".toList⟩] (some answerModel)
          meteredCall).result = .ok accepted →
        ∃ data, accepted.validatedData = some data ∧
          answerModel.validateJson accepted.content = some data :=
  structured_output_sound hesitantBackend meteredCall answerModel answerModel_lax
    [⟨"user".toList, "Yes or no?".toList⟩]

/-- The document is dug out of the third answer, to the second question. -/
example :
    let run := hesitantBackend.chat [⟨"user".toList, "Yes or no?".toList⟩] (some answerModel)
      meteredCall
    run.result.toOption.map ChatResponse.content = some yesText ∧
      run.asked.map Question.sent = [0, 2] ∧ run.sent = 3 ∧ run.emitted.length = 1 := by
  decide +kernel

end Fenced

end OpenZync.Llm
