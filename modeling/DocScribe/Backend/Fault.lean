import DocScribe.Json.Display
import DocScribe.Json.Reader
import DocScribe.Pairs
import DocScribe.Validation.Issue

/-!
# `DocScribe.Backend.Fault`: how a request can fail

A request fails in the client of a service, in the transport below it,
or in the program that stands in for both. What failed is a kind with
a text. A backend turns such a fault into one of the few errors that
the rest of the library knows.

A server reports its errors in answers that have to be read first.
Where that is not possible, the reading is what has failed.
-/

set_option autoImplicit false

namespace DocScribe.Backend

/-- The services that complete a prompt: one behind an account, one on
a machine within reach. -/
inductive Service where
  | hosted
  | local
deriving DecidableEq, Repr

namespace Service

/-- The word for a service. -/
def word : Service → Text
  | .hosted => "openai"
  | .local => "ollama"

/-- What errors call the backend of a service. -/
def className : Service → Text
  | .hosted => "OpenAIProvider"
  | .local => "OllamaProvider"

/-- The services in the order in which they are listed. -/
def all : List Service := [.hosted, .local]

/-- The service with a word. -/
def ofWord? (w : Text) : Option Service :=
  all.find? fun s => s.word == w

end Service

/-- Where a request failed and how. An answer that should have members
may have none, or may be nested too deep. -/
inductive FaultKind where
  | accountTimeout
  | accountAuthentication
  | accountConnection
  | accountStatus
  | accountRateLimit
  | accountOther
  | serverResponse (status : Int)
  | noMembers
  | tooDeep
  | timeout
  | webTimeout
  | webConnection
  | webStatus
  | connection
  | connectionRefused
  | runtime
  | value
  | system
  | provider (service : Option Text)
  | authentication (service : Option Text)
deriving DecidableEq

/-- A failed request. -/
structure Fault where
  kind : FaultKind
  content : Text
deriving DecidableEq

namespace Fault

/-- What is said of a value of a type without an attribute. -/
def noAttributeMessage (type name : Text) : Text :=
  "'" ++ type ++ "' object has no attribute '" ++ name ++ "'"

/-- The error that a server's answer tells: the member `error` if the
answer is an object that has one, and the answer itself if it has none
or is no JSON. No other answer can be read. -/
def ofServer (status : Int) (answer : Text) : Fault :=
  match Json.parse answer with
  | .ok (.obj members) =>
    match Json.Members.get? members "error" with
    | some value => ⟨.serverResponse status, value.display⟩
    | none => ⟨.serverResponse status, answer⟩
  | .ok value => ⟨.noMembers, noAttributeMessage value.typeName "get"⟩
  | .error (.malformed _) => ⟨.serverResponse status, answer⟩
  | .error (.integerTooLong digits) => ⟨.value, (Json.ParseError.integerTooLong digits).message⟩
  | .error (.nestingTooDeep container) =>
    ⟨.tooDeep, (Json.ParseError.nestingTooDeep container).message⟩

/-- What a fault says. -/
def message (f : Fault) : Text :=
  match f.kind with
  | .accountTimeout => "Request timed out."
  | .accountConnection => if f.content.isEmpty then "Connection error." else f.content
  | .serverResponse status =>
    f.content ++ " (status code: " ++ Text.ofInt status ++ ")"
  | _ => f.content

/-- What a fault is called. -/
def typeName (f : Fault) : Text :=
  match f.kind with
  | .accountTimeout => "APITimeoutError"
  | .accountAuthentication => "AuthenticationError"
  | .accountConnection => "APIConnectionError"
  | .accountStatus => "APIStatusError"
  | .accountRateLimit => "RateLimitError"
  | .accountOther => "OpenAIError"
  | .serverResponse _ => "ResponseError"
  | .noMembers => "AttributeError"
  | .tooDeep => "RecursionError"
  | .timeout => "TimeoutError"
  | .webTimeout => "ReadTimeout"
  | .webConnection => "ConnectError"
  | .webStatus => "HTTPStatusError"
  | .connection => "ConnectionError"
  | .connectionRefused => "ConnectionRefusedError"
  | .runtime => "RuntimeError"
  | .value => "ValueError"
  | .system => "OSError"
  | .provider _ => "ProviderError"
  | .authentication _ => "AuthenticationError"

end Fault

/-- The errors that a backend reports. -/
inductive ErrorKind where
  | unsupported
  | authentication
  | provider
  | timeout
deriving DecidableEq, Repr

/-- An error of a backend, the service it belongs to, and the fault
behind it if there is one. -/
structure BackendError where
  kind : ErrorKind
  message : Text
  service : Option Text
  fault : Option Fault
deriving DecidableEq

/-- What an error is called. -/
def BackendError.typeName (e : BackendError) : Text :=
  match e.kind with
  | .unsupported => "UnsupportedProviderError"
  | .authentication => "AuthenticationError"
  | .provider => "ProviderError"
  | .timeout => "ProviderTimeoutError"

/-- Why a prompt was not completed: an error of the backend, an answer
whose fields do not fit a completion, an answer without an attribute or a
key that is asked for, an answer whose values do not allow what is done
with them, or a parameter that is the prompt or the backend itself once
more. -/
inductive CompletionError where
  | backend (e : BackendError)
  | unfit (r : Rejection)
  | noAttribute (type name : Text)
  | noKey (key : Text)
  | badOperands (message : Text)
  | numberTooLarge
  | givenTwice (service : Service) (parameter : Text)
deriving DecidableEq

namespace CompletionError

def message : CompletionError → Text
  | .backend e => e.message
  | .unfit r => r.message
  | .noAttribute type name => Fault.noAttributeMessage type name
  | .noKey key => key
  | .badOperands message => message
  | .numberTooLarge => "int too large to convert to float"
  | .givenTwice service parameter =>
    service.className ++ ".complete() got multiple values for argument '" ++ parameter ++ "'"

def typeName : CompletionError → Text
  | .backend e => e.typeName
  | .unfit _ => "ValidationError"
  | .noAttribute _ _ => "AttributeError"
  | .noKey _ => "KeyError"
  | .badOperands _ => "TypeError"
  | .numberTooLarge => "OverflowError"
  | .givenTwice _ _ => "TypeError"

end CompletionError

end DocScribe.Backend
