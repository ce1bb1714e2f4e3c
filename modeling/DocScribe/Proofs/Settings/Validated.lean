import DocScribe.Settings.Basic

/-!
# `DocScribe.Proofs.Settings.Validated`: settings read field by field

Settings are read from what is found under their names, each of them from
what is found under its own: it is the value of its field for that, or its
default if nothing is found (`Validated`). There are settings for what was
found exactly if every field can be read (`ofValues_eq_ok_iff`), and nothing
counts that is found under other names (`ofValues_congr`).
-/

set_option autoImplicit false

namespace DocScribe

namespace Checked

variable {α β : Type}

/-- A field behind others can be read if it and they can. -/
theorem seq_eq_ok_iff {f : Checked (α → β)} {a : Checked α} {b : β} :
    f <*> a = .ok b ↔ ∃ g x, f = .ok g ∧ a = .ok x ∧ g x = b := by
  show app f a = .ok b ↔ _
  cases f <;> cases a <;> simp [app]

/-- A function of a value that is checked succeeds where the check does. -/
theorem map_eq_ok_iff {f : α → β} {a : Checked α} {b : β} :
    f <$> a = .ok b ↔ ∃ x, a = .ok x ∧ f x = b := by
  show map f a = .ok b ↔ _
  cases a <;> simp [map]

/-- A field succeeds where it can be read; its place is for the issue
only. -/
theorem ofField_eq_ok_iff {place : List Place} {read : Except IssueKind α} {a : α} :
    ofField place read = .ok a ↔ read = .ok a := by
  cases read <;> simp [ofField]

/-- So does a record, whose title is for the error only. -/
theorem toExcept_eq_ok_iff {title : Text} {record : Checked α} {a : α} :
    record.toExcept title = .ok a ↔ record = .ok a := by
  cases record <;> simp [toExcept]

end Checked

namespace Settings

variable {found : Text → Option Loose} {s : Settings}

/-- What a setting is for what is found under its name. -/
def Gives {α : Type} (found : Text → Option Loose) (name : Text) (default : α)
    (field : Loose → Except IssueKind α) (a : α) : Prop :=
  match found name with
  | none => a = default
  | some value => field value = .ok a

/-- One setting is given if its value is read, or it has its default where
there is none. -/
theorem one_eq_ok_iff {α : Type} {name : Text} {default a : α}
    {field : Loose → Except IssueKind α} :
    one found name default field = .ok a ↔ Gives found name default field a := by
  rw [one, Checked.orDefault.eq_def, Gives]
  cases found name with
  | none => exact ⟨fun h => (Checked.ok.inj h).symm, fun h => congrArg Checked.ok h.symm⟩
  | some value => exact Checked.ofField_eq_ok_iff

/-- Each setting is the value of its field for what is found under its
name, or its default. -/
structure Validated (found : Text → Option Loose) (s : Settings) : Prop where
  provider : Gives found "provider" ("openai" : Text) providerField s.provider
  model : Gives found "model" none (Lax.optional Lax.text) s.model
  apiKey : Gives found "api_key" none (Lax.optional Lax.text) s.apiKey
  apiKeyVariable : Gives found "api_key_env" ("OPENAI_API_KEY" : Text) Lax.text s.apiKeyVariable
  localHost : Gives found "ollama_host" ("http://localhost:11434" : Text) Lax.text s.localHost
  localModel : Gives found "ollama_model" ("llama2" : Text) Lax.text s.localModel
  temperature :
    Gives found "temperature" Backend.Config.defaultTemperature Lax.temperature s.temperature
  maxTokens :
    Gives found "max_tokens" Backend.Config.defaultMaxTokens Lax.positiveInteger s.maxTokens
  timeout : Gives found "timeout" none (Lax.optional Lax.positiveNumber) s.timeout
  outputFormat : Gives found "output_format" .markdown formatField s.outputFormat
  outputFolder : Gives found "output_dir" (Path.ofText "docs") folderField s.outputFolder
  includeExamples : Gives found "include_examples" true Lax.flag s.includeExamples
  excludePatterns : patternsOf (found excludeName) = .ok s.excludePatterns
  concurrency : Gives found "concurrency" 1 (Lax.integerBetween 1 32) s.concurrency
  verbose : Gives found "verbose" false Lax.flag s.verbose
  quiet : Gives found "quiet" false Lax.flag s.quiet
  logLevel : Gives found "log_level" .info levelField s.logLevel
  logFormat : Gives found "log_format" .console layoutField s.logFormat

/-- There are settings if every field can be read, and these are the
settings. -/
theorem ofValues_eq_ok_iff : ofValues found = .ok s ↔ Validated found s := by
  constructor
  · intro hall
    rw [ofValues] at hall
    -- The fields from the last one to the first.
    obtain ⟨_, _, toLogLevel, logFormat, rfl⟩ := Checked.seq_eq_ok_iff.mp hall
    obtain ⟨_, _, toQuiet, logLevel, rfl⟩ := Checked.seq_eq_ok_iff.mp toLogLevel
    obtain ⟨_, _, toVerbose, quiet, rfl⟩ := Checked.seq_eq_ok_iff.mp toQuiet
    obtain ⟨_, _, toConcurrency, verbose, rfl⟩ := Checked.seq_eq_ok_iff.mp toVerbose
    obtain ⟨_, _, toPatterns, concurrency, rfl⟩ := Checked.seq_eq_ok_iff.mp toConcurrency
    obtain ⟨_, _, toExamples, excludePatterns, rfl⟩ := Checked.seq_eq_ok_iff.mp toPatterns
    obtain ⟨_, _, toOutputFolder, includeExamples, rfl⟩ := Checked.seq_eq_ok_iff.mp toExamples
    obtain ⟨_, _, toOutputFormat, outputFolder, rfl⟩ := Checked.seq_eq_ok_iff.mp toOutputFolder
    obtain ⟨_, _, toTimeout, outputFormat, rfl⟩ := Checked.seq_eq_ok_iff.mp toOutputFormat
    obtain ⟨_, _, toMaxTokens, timeout, rfl⟩ := Checked.seq_eq_ok_iff.mp toTimeout
    obtain ⟨_, _, toTemperature, maxTokens, rfl⟩ := Checked.seq_eq_ok_iff.mp toMaxTokens
    obtain ⟨_, _, toLocalModel, temperature, rfl⟩ := Checked.seq_eq_ok_iff.mp toTemperature
    obtain ⟨_, _, toLocalHost, localModel, rfl⟩ := Checked.seq_eq_ok_iff.mp toLocalModel
    obtain ⟨_, _, toApiKeyVariable, localHost, rfl⟩ := Checked.seq_eq_ok_iff.mp toLocalHost
    obtain ⟨_, _, toApiKey, apiKeyVariable, rfl⟩ := Checked.seq_eq_ok_iff.mp toApiKeyVariable
    obtain ⟨_, _, toModel, apiKey, rfl⟩ := Checked.seq_eq_ok_iff.mp toApiKey
    obtain ⟨_, _, toProvider, model, rfl⟩ := Checked.seq_eq_ok_iff.mp toModel
    obtain ⟨_, provider, rfl⟩ := Checked.map_eq_ok_iff.mp toProvider
    exact ⟨one_eq_ok_iff.mp provider, one_eq_ok_iff.mp model, one_eq_ok_iff.mp apiKey,
      one_eq_ok_iff.mp apiKeyVariable, one_eq_ok_iff.mp localHost, one_eq_ok_iff.mp localModel,
      one_eq_ok_iff.mp temperature, one_eq_ok_iff.mp maxTokens, one_eq_ok_iff.mp timeout,
      one_eq_ok_iff.mp outputFormat, one_eq_ok_iff.mp outputFolder, one_eq_ok_iff.mp
      includeExamples, excludePatterns, one_eq_ok_iff.mp concurrency, one_eq_ok_iff.mp verbose,
      one_eq_ok_iff.mp quiet, one_eq_ok_iff.mp logLevel, one_eq_ok_iff.mp logFormat⟩
  · intro h
    rw [ofValues, one_eq_ok_iff.mpr h.provider, one_eq_ok_iff.mpr h.model, one_eq_ok_iff.mpr
      h.apiKey, one_eq_ok_iff.mpr h.apiKeyVariable, one_eq_ok_iff.mpr h.localHost,
      one_eq_ok_iff.mpr h.localModel, one_eq_ok_iff.mpr h.temperature, one_eq_ok_iff.mpr
      h.maxTokens, one_eq_ok_iff.mpr h.timeout, one_eq_ok_iff.mpr h.outputFormat,
      one_eq_ok_iff.mpr h.outputFolder, one_eq_ok_iff.mpr h.includeExamples, h.excludePatterns,
      one_eq_ok_iff.mpr h.concurrency, one_eq_ok_iff.mpr h.verbose, one_eq_ok_iff.mpr h.quiet,
      one_eq_ok_iff.mpr h.logLevel, one_eq_ok_iff.mpr h.logFormat]
    rfl

/-- Nothing counts but what is found under the names of settings. -/
theorem ofValues_congr {found' : Text → Option Loose}
    (h : ∀ name ∈ names, found name = found' name) : ofValues found = ofValues found' := by
  simp only [names, List.forall_mem_cons] at h
  simp only [ofValues, one, h]

end Settings

end DocScribe
