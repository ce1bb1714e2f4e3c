import DocScribe.Backend.Fault
import DocScribe.Validation.Checked

/-!
# `DocScribe.Backend.Completion`: what a backend answers

A completion is the text of a reply with the model it came from, the
tokens it took and why it ended. It is built from whatever values an
answer holds; values of other types are refused.
-/

set_option autoImplicit false

namespace DocScribe.Backend

structure Completion where
  content : Text
  model : Text
  tokensUsed : Option Int
  finishReason : Option Text
  metadata : Json.Members

namespace Completion

/-- The name that refused answers are reported under. -/
def title : Text := "LLMResponse"

/-- A completion from the values of an answer. -/
def ofValues (content model tokens finish : Json) (metadata : Json.Members) :
    Except Rejection Completion :=
  (Completion.mk
    <$> Checked.ofField [.key "content"] (Lax.text content.toLoose)
    <*> Checked.ofField [.key "model"] (Lax.text model.toLoose)
    <*> Checked.ofField [.key "tokens_used"] (Lax.optional Lax.integer tokens.toLoose)
    <*> Checked.ofField [.key "finish_reason"] (Lax.optional Lax.text finish.toLoose)
    <*> .ok metadata).toExcept title

end Completion

/-- A value, or another one where it does not count as true. -/
def orElse (value alternative : Json) : Json :=
  if value.isTruthy then value else alternative

/-- The prompt that tries a connection. -/
def trialPrompt : Text := "Hello, please respond with 'OK'."

end DocScribe.Backend
