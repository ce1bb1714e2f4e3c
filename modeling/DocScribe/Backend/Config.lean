import DocScribe.Validation.Checked

/-!
# `DocScribe.Backend.Config`: what a backend needs to know

The choices for a completion backend. Which service is meant stays
text here; an unknown one is reported when the backend is created.
-/

set_option autoImplicit false

namespace DocScribe.Backend

/-- Settings of a backend. The temperature lies between zero and one,
the token limit and the timeout are positive. -/
structure Config where
  provider : Text
  model : Option Text
  apiKey : Option Text
  baseUrl : Option Text
  temperature : Double
  maxTokens : Int
  timeout : Option Double
  parameters : Json.Members

namespace Config

/-- A temperature of one tenth. -/
def defaultTemperature : Double := .ofDecimal false 1 (-1)

def defaultMaxTokens : Int := 4000

/-- The name that refused settings are reported under. -/
def title : Text := "LLMConfig"

/-- Further parameters, which have to be a table. -/
def parametersOf (members : Json.Members) : Checked Json.Members :=
  match members.get? "additional_params" with
  | none => .ok []
  | some (.obj parameters) => .ok parameters
  | some _ => .bad [⟨.notTable, [.key "additional_params"]⟩]

/-- Settings from the members of an object. -/
def ofMembers (members : Json.Members) : Checked Config :=
  let found (name : Text) := (members.get? name).map Json.toLoose
  Config.mk
    <$> Checked.required [.key "provider"] Lax.text (found "provider")
    <*> Checked.orDefault [.key "model"] none (Lax.optional Lax.text) (found "model")
    <*> Checked.orDefault [.key "api_key"] none (Lax.optional Lax.text) (found "api_key")
    <*> Checked.orDefault [.key "base_url"] none (Lax.optional Lax.text) (found "base_url")
    <*> Checked.orDefault [.key "temperature"] defaultTemperature Lax.temperature
      (found "temperature")
    <*> Checked.orDefault [.key "max_tokens"] defaultMaxTokens Lax.positiveInteger
      (found "max_tokens")
    <*> Checked.orDefault [.key "timeout"] none (Lax.optional Lax.positiveNumber) (found "timeout")
    <*> parametersOf members

/-- Settings from a JSON value. -/
def ofJson : Json → Except Rejection Config
  | .obj members => (ofMembers members).toExcept title
  | _ => .error ⟨title, [⟨.notRecord title, []⟩]⟩

end Config

end DocScribe.Backend
