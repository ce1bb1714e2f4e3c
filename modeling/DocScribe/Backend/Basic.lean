import DocScribe.Backend.Hosted
import DocScribe.Backend.Local

/-!
# `DocScribe.Backend.Basic`: completing prompts

A backend is a service with its settings. What it does for a prompt is
an `Exchange`: what is logged before the request, the request if one
is made at all, what is logged once it is answered, and the outcome.
At most one request is made and nothing is tried again.

The transport is what carries a request and brings something back. It
may also be interrupted, which no backend turns into an error.
-/

set_option autoImplicit false

namespace DocScribe

/-- A service with its settings. -/
structure Backend where
  service : Backend.Service
  config : Backend.Config

namespace Backend

/-- A request as it is handed to the transport. -/
inductive Request where
  | completion (arguments : Json.Members)
  | listing

/-- What the transport brings back. -/
inductive Delivery (α : Type) where
  | answered (answer : α)
  | failed (fault : Fault)
  | interrupted

/-- How requests are carried to the services. -/
structure Transport where
  chat : Json.Members → Delivery Hosted.Answer
  generate : Json.Members → Delivery Json
  list : Delivery Unit

/-- What a prompt leads to; the outcome is missing if the transport
was interrupted. -/
structure Exchange (α : Type) where
  before : List Log.Entry
  request : Option Request
  after : List Log.Entry
  outcome : Option (Except CompletionError α)

/-- The exchange with something else made of its result. -/
def Exchange.map {α β : Type} (f : α → β) (e : Exchange α) : Exchange β :=
  { before := e.before, request := e.request, after := e.after
    outcome := e.outcome.map fun result => result.map f }

/-- The exchange that a request leads to. -/
def Exchange.ofDelivery {α β : Type} (before : List Log.Entry) (request : Request)
    (ofFault : Fault → List Log.Entry × CompletionError)
    (ofAnswer : α → List Log.Entry × Except CompletionError β) : Delivery α → Exchange β
  | .answered answer => ⟨before, some request, (ofAnswer answer).1, some (ofAnswer answer).2⟩
  | .failed fault => ⟨before, some request, (ofFault fault).1, some (.error (ofFault fault).2)⟩
  | .interrupted => ⟨before, some request, [], none⟩

/-- The backend of the service that the settings name. -/
def create (config : Config) : List Log.Entry × Except BackendError Backend :=
  match Service.ofWord? config.provider.trim.toSmall with
  | some service =>
    ([Log.info (match service with
      | .hosted => "openai_provider_initialized"
      | .local => "local_provider_initialized")], .ok ⟨service, config⟩)
  | none =>
    ([Log.error "unsupported_provider"],
      .error ⟨.unsupported, "Unsupported AI provider: " ++ config.provider, some config.provider,
        none⟩)

/-- The model that is asked. -/
def model (b : Backend) : Text :=
  match b.service with
  | .hosted => Hosted.modelOf b.config
  | .local => Local.modelOf b.config

/-- What the client of the backend is made with, if it has one. -/
def clientArguments? (b : Backend) : Option Json.Members :=
  match b.service with
  | .hosted => if Hosted.hasClient b.config then some (Hosted.clientArguments b.config) else none
  | .local => some (Local.clientArguments b.config)

/-- The names that no further parameter of a completion can have. -/
def takenNames : List Text := ["self", "prompt"]

/-- The first of some parameters with a name that is taken. -/
def givenTwice? (extra : Json.Members) : Option Text :=
  (extra.map (·.1)).find? takenNames.contains

/-- Asking the service of a backend. -/
def ask (b : Backend) (transport : Transport) (prompt : Text) (extra : Json.Members) :
    Exchange Completion :=
  match b.service with
  | .hosted =>
    if Hosted.hasClient b.config then
      let arguments := Hosted.request b.config prompt extra
      .ofDelivery [Log.debug "api_request"] (.completion arguments) Hosted.ofFault Hosted.ofAnswer
        (transport.chat arguments)
    else ⟨[Log.error "missing_credentials"], none, [], some (.error Hosted.missingKey)⟩
  | .local =>
    let arguments := Local.request b.config prompt extra
    .ofDelivery [Log.debug "api_request"] (.completion arguments) (Local.ofFault b.config)
      (Local.ofAnswer b.config) (transport.generate arguments)

/-- Completing a prompt, with further parameters for the request. -/
def complete (b : Backend) (transport : Transport) (prompt : Text) (extra : Json.Members) :
    Exchange Completion :=
  match givenTwice? extra with
  | some name => ⟨[], none, [], some (.error (.givenTwice b.service name))⟩
  | none => b.ask transport prompt extra

/-- The reply to a prompt. -/
def send (b : Backend) (transport : Transport) (prompt : Text) : Exchange Text :=
  (b.complete transport prompt []).map (·.content)

/-- Whether the service answers: the hosted one has to say something,
the local one has to list its models. -/
def testConnection (b : Backend) (transport : Transport) : Exchange Bool :=
  match b.service with
  | .hosted =>
    (b.complete transport trialPrompt []).map fun completion => !completion.content.isEmpty
  | .local =>
    .ofDelivery [] .listing (Local.ofFault b.config) (fun _ => ([], .ok true)) transport.list

end Backend

end DocScribe
