import DocScribe.Backend.Basic
import DocScribe.Generation.Cause

/-!
# `DocScribe.Generation.Provider`: whatever answers a prompt

A provider turns a prompt into an answer. A backend with a transport
is one. What comes back may be a reply, a cause of failure, or nothing
at all if the request was interrupted.

Nothing says that equal prompts are answered alike: a service may be
down for a while, or say something else the next time. So calls of a
provider are numbered, and an answer belongs to the number of the call
as well as to the prompt.
-/

set_option autoImplicit false

namespace DocScribe.Generation

/-- What a provider makes of a prompt: whether a request was sent, what
is logged before it and after it, and what came back. -/
structure Answer where
  before : List Log.Entry
  sent : Bool
  after : List Log.Entry
  reply : Option (Except Cause Text)

/-- Something that answers prompts, each of them at a call with a
number. In a batch that is the position for which the call is made. -/
structure Provider where
  send : Nat → Text → Answer

namespace Provider

/-- A provider that has an answer for every prompt, the same at every
call. -/
def scripted (answers : Text → Backend.Delivery Text) : Provider :=
  ⟨fun _ prompt =>
    { before := [], sent := true, after := []
      reply := match answers prompt with
        | .answered reply => some (.ok reply)
        | .failed fault => some (.error (.request fault))
        | .interrupted => none }⟩

/-- A backend that sends its requests over a transport, which may carry
those of every call in another way. -/
def ofBackend (transport : Nat → Backend.Transport) (backend : Backend) : Provider :=
  ⟨fun call prompt =>
    let exchange := backend.send (transport call) prompt
    { before := exchange.before
      sent := exchange.request.isSome
      after := exchange.after
      reply := exchange.outcome.map fun result => result.mapError .completion }⟩

end Provider

end DocScribe.Generation
