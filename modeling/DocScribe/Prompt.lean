import DocScribe.Schema
import DocScribe.Validation.Checked

/-!
# `DocScribe.Prompt`: the question put to a model

A prompt is fixed text around three things: the language, the source
as it is, and whether examples are wanted. The path of a file is no
part of it. The source stands between fences that it may imitate; the
fixed text around it still decides where it begins and ends.
-/

set_option autoImplicit false

namespace DocScribe

/-- The choices for one request. The path is not blank. -/
structure PromptOptions where
  includeExamples : Bool
  filePath : Text
deriving DecidableEq

namespace PromptOptions

/-- A path in the options says something. -/
def pathOf (value : Loose) : Except IssueKind Text := do
  let path ← Lax.text value
  if path.isBlank then throw (.refused "File path cannot be empty")
  pure path

/-- The spelling of a field that counts: the key, unless only the name
is present. -/
def spelling (l : Label) (members : Json.Members) : Text :=
  -- The value is looked up by this spelling, and an issue with it is placed there.
  if !members.has l.key && members.has l.name then l.name else l.key

/-- Options from the members of an object. -/
def ofMembers (members : Json.Members) : Checked PromptOptions :=
  let found (l : Label) := (members.get? (spelling l members)).map Json.toLoose
  let place (l : Label) : List Place := [.key (spelling l members)]
  PromptOptions.mk
    <$> Checked.orDefault (place Labels.includeExamples) true Lax.flag
      (found Labels.includeExamples)
    <*> Checked.required (place Labels.filePath) pathOf (found Labels.filePath)

/-- The name that refused options are reported under. -/
def title : Text := "GenerationOptions"

/-- Options from a JSON value. -/
def ofJson : Json → Except Rejection PromptOptions
  | .obj members => (ofMembers members).toExcept title
  | _ => .error ⟨title, [⟨.notRecord title, []⟩]⟩

/-- Options for a source file. -/
def forFile (includeExamples : Bool) (filePath : Text) : Except Rejection PromptOptions :=
  (PromptOptions.mk includeExamples
    <$> Checked.required [.key Labels.filePath.name] pathOf (some (.text filePath))).toExcept title

def toJson (options : PromptOptions) : Json :=
  .obj [(Labels.includeExamples.key, .bool options.includeExamples),
    (Labels.filePath.key, .str options.filePath)]

end PromptOptions

namespace Prompt

/-- What a chat model is told first. -/
def systemPrompt : Text := "You are a professional API documentation generator."

/-- The line that asks for examples, or for none. -/
def examplesLine (includeExamples : Bool) : Text :=
  if includeExamples then "- Include practical code examples" else "- Skip code examples"

/-- The lines of a prompt. -/
def lines (code language : Text) (includeExamples : Bool) : List Text :=
  ["You are a professional API documentation generator. Analyze the following " ++ language
      ++ " code and generate comprehensive API documentation.",
    "",
    "Code to analyze:",
    "```" ++ language,
    code,
    "```",
    "",
    "Please provide a JSON response with the following structure:",
    Schema.text,
    "",
    "Requirements:",
    "- Be thorough and professional",
    "- Include clear descriptions for all elements",
    examplesLine includeExamples,
    "- Focus on public APIs and interfaces",
    "- Use proper technical terminology",
    "- Explain complex concepts clearly",
    "- Use empty lists for categories with no entries",
    "",
    "Respond only with valid JSON."]

/-- The prompt for a source text. -/
def build (code language : Text) (options : PromptOptions) : Text :=
  Text.joinWith "\n" (lines code language options.includeExamples)

end Prompt

end DocScribe
