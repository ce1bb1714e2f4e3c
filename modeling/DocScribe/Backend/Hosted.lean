import DocScribe.Backend.Completion
import DocScribe.Backend.Config
import DocScribe.Log
import DocScribe.Prompt

/-!
# `DocScribe.Backend.Hosted`: the service behind an account

A chat request with a system instruction. Without a key there is no
client, and every completion is refused before a request is made.
Further parameters of the settings, and then those of a call, replace
what the request would say by itself.

An answer is whatever the client makes of what the service has sent. Its
values are read as they are, so a value that is missing or of another kind
makes the completion fail.
-/

set_option autoImplicit false

namespace DocScribe.Backend.Hosted

/-- The model that is asked if none is chosen. -/
def defaultModel : Text := "gpt-4"

/-- The model that is asked. -/
def modelOf (config : Config) : Text :=
  match config.model with
  | some (c :: rest) => c :: rest
  | _ => defaultModel

/-- The key without blanks around it. -/
def keyOf (config : Config) : Text :=
  (config.apiKey.getD []).trim

/-- Whether there is a client to send requests with. -/
def hasClient (config : Config) : Bool :=
  !(keyOf config).isEmpty

/-- The address, if another one than the usual is set. -/
def addressArgument (config : Config) : Json.Members :=
  match config.baseUrl with
  | some (c :: rest) => [("base_url", .str (c :: rest))]
  | _ => []

/-- The time limit, if one is set. -/
def timeoutArgument (config : Config) : Json.Members :=
  match config.timeout with
  | some seconds => if seconds.isZero then [] else [("timeout", .float seconds)]
  | none => []

/-- What a client is made with. -/
def clientArguments (config : Config) : Json.Members :=
  ("api_key", .str (keyOf config)) :: ("max_retries", .int 0)
    :: (addressArgument config ++ timeoutArgument config)

/-- Members that replace or extend others. -/
def overlay (members more : Json.Members) : Json.Members :=
  more.foldl (fun all m => all.put m.1 m.2) members

/-- The request for a prompt. -/
def request (config : Config) (prompt : Text) (extra : Json.Members) : Json.Members :=
  overlay
    (overlay
      [("model", .str (modelOf config)),
        ("messages", .arr [
          .obj [("role", .str "system"), ("content", .str Prompt.systemPrompt)],
          .obj [("role", .str "user"), ("content", .str prompt)]]),
        ("temperature", .float config.temperature), ("max_tokens", .int config.maxTokens)]
      config.parameters)
    extra

/-- An answer of the client. An object is given by the attributes that it
has; any other value is one that no attribute can be asked of. -/
structure Answer where
  value : Json

/-- One text among the choices of a chat completion. -/
structure Choice where
  content : Json
  finishReason : Json

/-- The object for a choice. -/
def Choice.value (choice : Choice) : Json :=
  .obj [("message", .obj [("content", choice.content)]), ("finish_reason", choice.finishReason)]

/-- A chat completion. Its tokens have been counted unless they are
`null`. -/
def Answer.ofChoices (choices : List Choice) (totalTokens id created model : Json) : Answer :=
  let usage : Json :=
    match totalTokens with
    | .null => .null
    | total => .obj [("total_tokens", total)]
  ⟨.obj [("choices", .arr (choices.map Choice.value)), ("usage", usage), ("id", id),
    ("created", created), ("model", model)]⟩

/-- The answer that holds one text and nothing else of interest. -/
def Answer.ofText (model : Json) (t : Text) : Answer :=
  .ofChoices [⟨.str t, .null⟩] .null (.str "id-1") (.int 0) model

/-- An error of this service. -/
def errorOf (kind : ErrorKind) (message : Text) (fault : Option Fault) : CompletionError :=
  .backend ⟨kind, message, some Service.hosted.word, fault⟩

/-- Faults that the service's client reports as errors of its
interface. -/
def isInterfaceFault : FaultKind → Bool
  | .accountTimeout | .accountAuthentication | .accountConnection | .accountStatus
  | .accountRateLimit => true
  | _ => false

/-- The error for a fault, and what is logged of it. -/
def ofFault (fault : Fault) : List Log.Entry × CompletionError :=
  match fault.kind with
  | .accountTimeout =>
    ([Log.error "request_timeout"],
      errorOf .timeout ("OpenAI request timed out: " ++ fault.message) (some fault))
  | .accountAuthentication =>
    ([Log.error "authentication_failed"],
      errorOf .authentication "OpenAI authentication failed. Check your API key." (some fault))
  | kind =>
    if isInterfaceFault kind then
      ([Log.error "api_error"],
        errorOf .provider ("OpenAI API error: " ++ fault.message) (some fault))
    else
      ([Log.error "unexpected_error"],
        errorOf .provider ("Unexpected error: " ++ fault.message) (some fault))

/-- The error without a key. -/
def missingKey : CompletionError :=
  errorOf .authentication "API key is required for the openai provider" none

/-! ### Reading answers -/

/-- What the value of an attribute is. An object in its place is one of a
class, which is named where it has no such attribute. -/
def attributeOf (value : Json) (ofClass name : Text) : Except CompletionError Json :=
  match value with
  | .obj attributes =>
    match Json.Members.get? attributes name with
    | some found => .ok found
    | none => .error (.noAttribute ofClass name)
  | other => .error (.noAttribute other.typeName name)

/-- The first of some choices that count as true. -/
def firstOf : Json → Except CompletionError Json
  | .arr (first :: _) => .ok first
  | .str (c :: _) => .ok (.str [c])
  | .obj _ => .error (.noKey "0")
  | other => .error (.badOperands ("'" ++ other.typeName ++ "' object is not subscriptable"))

/-- Whether there is an account of the tokens. One that the client has made
an object of is there even if nothing is in it. -/
def isCounted : Json → Bool
  | .obj _ => true
  | usage => usage.isTruthy

/-- The tokens that a completion took, if there is an account of them. -/
def tokensOf (usage : Json) : Except CompletionError Json :=
  if isCounted usage then attributeOf usage "CompletionUsage" "total_tokens" else .ok .null

/-- The completion in the first choice of an answer. -/
def ofFirst (answer choices : Json) : Except CompletionError Completion := do
  -- In the order in which the attributes are asked for: the first that is missing is named.
  let choice ← firstOf choices
  let message ← attributeOf choice "Choice" "message"
  let content ← attributeOf message "ChatCompletionMessage" "content"
  let model ← attributeOf answer "ChatCompletion" "model"
  let tokens ← tokensOf (← attributeOf answer "ChatCompletion" "usage")
  let finish ← attributeOf choice "Choice" "finish_reason"
  let id ← attributeOf answer "ChatCompletion" "id"
  let created ← attributeOf answer "ChatCompletion" "created"
  (Completion.ofValues (orElse content (.str [])) model tokens finish
    [("id", id), ("created", created)]).mapError .unfit

/-- The completion in an answer. -/
def ofAnswer (answer : Answer) : List Log.Entry × Except CompletionError Completion :=
  match attributeOf answer.value "ChatCompletion" "choices" with
  | .error e => ([], .error e)
  | .ok choices =>
    if choices.isTruthy then
      let result := ofFirst answer.value choices
      ((match result with
        | .ok _ => [Log.info "completion_success"]
        | .error _ => []), result)
    else
      ([Log.error "empty_choices"],
        .error (errorOf .provider "OpenAI returned no completion choices" none))

end DocScribe.Backend.Hosted
