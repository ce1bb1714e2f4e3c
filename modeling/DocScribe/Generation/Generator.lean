import DocScribe.Generation.Provider
import DocScribe.Language
import DocScribe.Prompt
import DocScribe.Workspace.Basic

/-!
# `DocScribe.Generation.Generator`: from a source to its documentation

A generator has a provider or knows how to create one; it creates it
at the first request that needs it and keeps it. Documentation is
generated in two steps with the provider's answer in between, so that
several files can wait for their answers at the same time.
-/

set_option autoImplicit false

namespace DocScribe

/-- A provider, the settings to create one from, or neither. -/
structure Generator where
  provider : Option Generation.Provider
  config : Option Backend.Config

namespace Generator

open Generation

/-- What is said where there is neither a provider nor settings. -/
def nothingToAsk : Text := "Either an LLM provider or an LLM configuration is required"

/-- A generator with a provider, or with settings to create one
from. -/
def create (provider : Option Provider) (config : Option Backend.Config) : Except Text Generator :=
  match provider, config with
  | none, none => .error nothingToAsk
  | _, _ => .ok ⟨provider, config⟩

/-- How a backend becomes a provider. -/
abbrev Connect := Backend → Provider

/-- The provider of a generator, created now if there is none. If that
fails the generator stays without one. -/
def provide (connect : Connect) (g : Generator) :
    Generator × List Log.Entry × Except Cause Provider :=
  match g.provider, g.config with
  -- A provider that is there is kept, whatever the settings say.
  | some provider, _ => (g, [], .ok provider)
  | none, none => (g, [], .error .noProvider)
  | none, some config =>
    match Backend.create config with
    | (log, .error e) => (g, log, .error (.completion (.backend e)))
    | (log, .ok backend) =>
      ({ g with provider := some (connect backend) }, log ++ [Log.info "llm_provider_created"],
        .ok (connect backend))

/-- What a failure to generate is logged as. -/
def failed : List Log.Entry := [Log.error "generation_failed"]

/-- The prompt for a source and the provider's answer to it, at a call
with a number. -/
def ask (connect : Connect) (g : Generator) (call : Nat) (code language : Text)
    (options : PromptOptions) :
    Generator × List Log.Entry × Except GenerationError (Text × Answer) :=
  -- The prompt is built, and that is logged, before it is known whether there is anyone to ask.
  let prompt := Prompt.build code language options
  match g.provide connect with
  | (g', log, .error cause) =>
    (g', Log.debug "prompt_built" :: log ++ failed,
      .error ⟨.generating, options.filePath, cause⟩)
  | (g', log, .ok provider) =>
    let answer := provider.send call prompt
    (g', Log.debug "prompt_built" :: log ++ answer.before, .ok (prompt, answer))

/-- What is logged of a reply before it is given up: a payload may have
been found in it. -/
def foundIn : ReplyError → List Log.Entry
  | .malformed ⟨.mismatched _, _⟩ =>
    [Log.debug "payload_extracted", Log.warning "payload_rejected"]
  | _ => []

/-- The documentation in a reply. -/
def read (filePath reply : Text) : List Log.Entry × Except GenerationError FileDoc :=
  match Reply.normalize reply with
  | .ok doc =>
    ([Log.debug "reply_received", Log.debug "payload_extracted", Log.debug "payload_normalized",
      Log.info "generation_complete"], .ok doc)
  | .error e =>
    (Log.debug "reply_received" :: foundIn e ++ failed, .error ⟨.generating, filePath, .reply e⟩)

/-- The documentation in an answer; nothing if it was interrupted. -/
def conclude (filePath : Text) (answer : Answer) :
    List Log.Entry × Option (Except GenerationError FileDoc) :=
  match answer.reply with
  | none => (answer.after, none)
  | some (.error cause) =>
    (answer.after ++ failed, some (.error ⟨.generating, filePath, cause⟩))
  | some (.ok reply) =>
    let result := read filePath reply
    (answer.after ++ result.1, some result.2)

/-! ### Files -/

/-- What a file has come to: documentation or an error of its own, or
a breakdown. -/
inductive Outcome where
  | settled (result : Except GenerationError FileDoc)
  | broken (breakdown : Breakdown)

/-- What a file has come to before an answer is there. -/
inductive Begun where
  | asked (prompt : Text) (answer : Answer)
  | ended (outcome : Outcome)

/-- Read a file and ask for its documentation. A path that is no path
to anything is no failure to read, and a path without a visible
character is refused as an option once its file has been read. -/
def beginFile (connect : Connect) (ws : Workspace) (includeExamples : Bool) (g : Generator)
    (call : Nat) (path : Path) : Generator × List Log.Entry × Begun :=
  match ws.readText path with
  | .error .nullCharacter => (g, [], .ended (.broken (.file .nullCharacter)))
  | .error (.unspellable e) => (g, [], .ended (.broken (.file (.unspellable e))))
  | .error fault =>
    (g, [Log.error "file_read_failed"],
      .ended (.settled (.error ⟨.reading, path.toText, .file fault⟩)))
  | .ok code =>
    match PromptOptions.forFile includeExamples path.toText with
    | .error r => (g, [], .ended (.broken (.options r)))
    | .ok options =>
      match g.ask connect call code (Language.ofPath path) options with
      | (g', log, .error e) => (g', log, .ended (.settled (.error e)))
      | (g', log, .ok (prompt, answer)) => (g', log, .asked prompt answer)

/-- The outcome of a file whose answer is there. -/
def concludeFile (path : Path) (answer : Answer) : List Log.Entry × Outcome :=
  match conclude path.toText answer with
  | (log, none) => (log, .broken .interrupted)
  | (log, some result) => (log, .settled (result.map (·.withSource path.toText)))

/-- A file from beginning to end. -/
def generateFile (connect : Connect) (ws : Workspace) (includeExamples : Bool) (g : Generator)
    (call : Nat) (path : Path) : Generator × List Log.Entry × Outcome :=
  match g.beginFile connect ws includeExamples call path with
  | (g', log, .ended outcome) => (g', log, outcome)
  | (g', log, .asked _ answer) =>
    let concluded := concludeFile path answer
    (g', log ++ concluded.1, concluded.2)

end Generator

end DocScribe
