import DocScribe.Backend.Completion
import DocScribe.Backend.Config
import DocScribe.Backend.Hosted
import DocScribe.Decimal.Notation
import DocScribe.Log
import DocScribe.Pairs

/-!
# `DocScribe.Backend.Local`: the service within reach

One prompt, one answer, no stream. The answer is a table; its two
token counts are added up as they are, so that counts which are no
numbers make the completion fail.
-/

set_option autoImplicit false

namespace DocScribe.Backend.Local

/-- The model that is asked if none is chosen. -/
def defaultModel : Text := "llama2"

/-- Where the service is if the settings do not say. -/
def defaultHost : Text := "http://localhost:11434"

/-- How long an answer may take if the settings do not say. -/
def defaultTimeout : Double := .ofInt 120

/-- The model that is asked. -/
def modelOf (config : Config) : Text :=
  match config.model with
  | some (c :: rest) => c :: rest
  | _ => defaultModel

def hostOf (config : Config) : Text :=
  match config.baseUrl with
  | some (c :: rest) => c :: rest
  | _ => defaultHost

def timeoutOf (config : Config) : Double :=
  match config.timeout with
  | some seconds => if seconds.isZero then defaultTimeout else seconds
  | none => defaultTimeout

/-- What a client is made with. -/
def clientArguments (config : Config) : Json.Members :=
  [("host", .str (hostOf config))]

/-- The request for a prompt. -/
def request (config : Config) (prompt : Text) (extra : Json.Members) : Json.Members :=
  Hosted.overlay
    [("model", .str (modelOf config)), ("prompt", .str prompt), ("stream", .bool false),
      ("options", .obj (Hosted.overlay
        [("temperature", .float config.temperature), ("top_p", .float (.ofDecimal false 9 (-1))),
          ("num_predict", .int config.maxTokens)]
        config.parameters))]
    extra

/-- An error of this service. -/
def errorOf (kind : ErrorKind) (message : Text) (fault : Fault) : CompletionError :=
  .backend ⟨kind, message, some Service.local.word, some fault⟩

/-- The error for a fault, and what is logged of it. -/
def ofFault (config : Config) (fault : Fault) : List Log.Entry × CompletionError :=
  match fault.kind with
  | .timeout | .webTimeout =>
    ([Log.error "request_timeout"],
      errorOf .timeout
        ("Ollama did not answer within " ++ (timeoutOf config).toMeasure ++ " seconds") fault)
  -- The only status with a meaning of its own: the service is there and the model is not.
  | .serverResponse status =>
    if status = 404 then
      ([Log.error "model_not_found"],
        errorOf .provider
          ("Model '" ++ modelOf config ++ "' not found. Pull it with: ollama pull "
            ++ modelOf config) fault)
    else
      ([Log.error "api_error"],
        errorOf .provider ("Ollama API error: " ++ fault.content) fault)
  | .connection | .connectionRefused | .webConnection =>
    ([Log.error "connection_failed"],
      errorOf .provider
        ("Cannot connect to Ollama at " ++ hostOf config
          ++ ". Is it running? Start with: ollama serve") fault)
  | _ =>
    ([Log.error "unexpected_error"],
      errorOf .provider ("Ollama API error: " ++ fault.message) fault)

/-! ### Counts -/

/-- The number that a value is, flags being zero and one. -/
def number? : Json → Option Json
  | .bool b => some (.int (if b then 1 else 0))
  | .int n => some (.int n)
  | .float x => some (.float x)
  | _ => none

/-- Why an operation on two values fails. -/
def unsupported (operation : Text) (a b : Json) : Text :=
  "unsupported operand type(s) for " ++ operation ++ ": '" ++ a.typeName ++ "' and '"
    ++ b.typeName ++ "'"

/-- The double that a number is; an integer may be too large for
one. -/
def toDouble : Json → Except CompletionError Double
  | .int n => if (Double.ofInt n).isFinite then .ok (.ofInt n) else .error .numberTooLarge
  | .float x => .ok x
  | _ => .ok .nan

/-- The sum of two values: of numbers, of texts, or of lists. -/
def add (a b : Json) : Except CompletionError Json :=
  match number? a, number? b with
  | some (.int m), some (.int n) => .ok (.int (m + n))
  | some x, some y => do
    let sum := (← toDouble x).add (← toDouble y)
    pure (.float sum)
  | _, _ =>
    match a, b with
    | .str s, .str t => .ok (.str (s ++ t))
    | .arr xs, .arr ys => .ok (.arr (xs ++ ys))
    | .str _, _ =>
      .error (.badOperands ("can only concatenate str (not \"" ++ b.typeName ++ "\") to str"))
    | .arr _, _ =>
      .error (.badOperands ("can only concatenate list (not \"" ++ b.typeName ++ "\") to list"))
    | _, _ => .error (.badOperands (unsupported "+" a b))

/-- Whether a value is positive. -/
def isPositive (value : Json) : Except CompletionError Bool :=
  match number? value with
  | some (.int n) => .ok (0 < n)
  | some (.float x) => .ok x.isPositive
  | _ =>
    .error (.badOperands
      ("'>' not supported between instances of '" ++ value.typeName ++ "' and 'int'"))

/-- The tokens of an answer: the sum of both counts if it is
positive. -/
def tokensOf (answer : Json.Members) : Except CompletionError Json := do
  let count (key : Text) := orElse ((answer.get? key).getD .null) (.int 0)
  let total ← add (count "prompt_eval_count") (count "eval_count")
  pure (if ← isPositive total then total else .null)

/-- A duration that is logged has to be a number. -/
def checkDuration (answer : Json.Members) : Except CompletionError Unit :=
  let duration := orElse ((answer.get? "total_duration").getD .null) (.int 0)
  match number? duration with
  | some _ => .ok ()
  | none => .error (.badOperands (unsupported "//" duration (.int 0)))

/-- The completion in an answer. -/
def ofAnswer (config : Config) (answer : Json) :
    List Log.Entry × Except CompletionError Completion :=
  match answer with
  | .obj members =>
    let value (key : Text) := (Json.Members.get? members key).getD .null
    let result : Except CompletionError Completion := do
      let tokens ← tokensOf members
      let completion ← (Completion.ofValues (orElse (value "response") (.str []))
        (orElse (value "model") (.str (modelOf config))) tokens
        (if (value "done").isTruthy then .str "stop" else .null)
        [("total_duration", value "total_duration"), ("load_duration", value "load_duration"),
          ("eval_duration", value "eval_duration")]).mapError .unfit
      -- The duration is needed for the log only, and yet a bad one fails the completion.
      checkDuration members
      pure completion
    ((match result with
      | .ok _ => [Log.info "completion_success"]
      | .error _ => []), result)
  | other => ([], .error (.noAttribute other.typeName "get"))

end DocScribe.Backend.Local
