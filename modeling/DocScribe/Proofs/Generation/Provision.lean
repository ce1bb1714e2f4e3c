import DocScribe.Generation.Generator

/-!
# `DocScribe.Proofs.Generation.Provision`: one provider for all requests

A generator looks for its provider at every request. The first time it
may have to create one; from then on it finds what it has, or fails to
create one as it did before (`provide_provided`). So a generator and
what became of it after any number of requests give the same answers:
`Follows` relates the two, and each step of the generation of a file
is shown not to tell them apart (`Follows.ask`, `Follows.beginFile`,
`Follows.generateFile`). What a file comes to is therefore a matter of
the file and of the number of the call that is made for it, whatever was
generated before it.
-/

set_option autoImplicit false

namespace DocScribe.Generator

open Generation

variable {connect : Connect}

/-! ### Looking for a provider again -/

/-- Whoever has looked for its provider finds the same one, or the same
cause, when looking again. -/
theorem provide_provided (connect : Connect) (g : Generator) :
    ((g.provide connect).1.provide connect).1 = (g.provide connect).1
      ∧ ((g.provide connect).1.provide connect).2.2 = (g.provide connect).2.2 := by
  obtain ⟨provider, config⟩ := g
  cases provider with
  | some provider => exact ⟨rfl, rfl⟩
  | none =>
      cases config with
      | none => exact ⟨rfl, rfl⟩
      | some config =>
          -- A failed creation leaves the generator as it was, so it fails again in the same way.
          cases hcreate : Backend.create config with
          | mk log created => cases created <;> simp [provide, hcreate]

/-- `g'` is `g`, or `g` after it has looked for its provider. -/
def Follows (connect : Connect) (g g' : Generator) : Prop :=
  g' = g ∨ g' = (g.provide connect).1

/-- A generator that has not looked for its provider is as before. -/
theorem Follows.refl (connect : Connect) (g : Generator) : Follows connect g g := .inl rfl

/-- Looking for a provider is the same before and after it was found. So it
does not matter which of the files has looked first. -/
theorem Follows.provide {g g' : Generator} (h : Follows connect g g') :
    Follows connect g (g'.provide connect).1
      ∧ (g'.provide connect).2.2 = (g.provide connect).2.2 := by
  rcases h with rfl | rfl
  · exact ⟨.inr rfl, rfl⟩
  · exact ⟨.inr (provide_provided connect g).1, (provide_provided connect g).2⟩

/-! ### Asking -/

/-- Asking looks for the provider and does nothing else to the
generator. -/
theorem ask_generator (connect : Connect) (g : Generator) (call : Nat) (code language : Text)
    (options : PromptOptions) :
    (g.ask connect call code language options).1 = (g.provide connect).1 := by
  rw [ask]
  split <;> simp_all

/-- What comes of asking depends on the provider that is found, and what the
provider answers depends on the call and the prompt. -/
theorem ask_result (connect : Connect) (g : Generator) (call : Nat) (code language : Text)
    (options : PromptOptions) :
    (g.ask connect call code language options).2.2
      = match (g.provide connect).2.2 with
        | .error cause => .error ⟨.generating, options.filePath, cause⟩
        | .ok provider =>
          let prompt := Prompt.build code language options
          .ok (prompt, provider.send call prompt) := by
  rw [ask]
  split <;> simp_all

/-- At each call, asking is the same before and after a provider was
found. -/
theorem Follows.ask {g g' : Generator} (h : Follows connect g g') (call : Nat)
    (code language : Text) (options : PromptOptions) :
    Follows connect g (g'.ask connect call code language options).1
      ∧ (g'.ask connect call code language options).2.2
        = (g.ask connect call code language options).2.2 := by
  obtain ⟨hfollows, hfound⟩ := h.provide
  refine ⟨?_, ?_⟩
  · rw [ask_generator]
    exact hfollows
  · rw [ask_result, ask_result, hfound]

/-! ### Files -/

/-- How a file begins, if it was read and its options were accepted:
by asking. -/
theorem beginFile_of_readText {ws : Workspace} {path : Path} {code : Text}
    (hread : ws.readText path = .ok code) {includeExamples : Bool} {options : PromptOptions}
    (hoptions : PromptOptions.forFile includeExamples path.toText = .ok options)
    (connect : Connect) (g : Generator) (call : Nat) :
    let asked := g.ask connect call code (Language.ofPath path) options
    g.beginFile connect ws includeExamples call path
      = (asked.1, asked.2.1,
        match asked.2.2 with
        | .error e => .ended (.settled (.error e))
        | .ok (prompt, answer) => .asked prompt answer) := by
  dsimp only
  rw [beginFile, hread]
  simp only [hoptions]
  split <;> simp_all

/-- A file that does not get as far as asking leaves the generator
alone and ends at once, always in the same way. -/
theorem beginFile_of_not_asking (ws : Workspace) (includeExamples : Bool) (path : Path)
    (h : ∀ code options, ws.readText path = .ok code →
      PromptOptions.forFile includeExamples path.toText ≠ .ok options) :
    ∃ log outcome, ∀ (connect : Connect) (g : Generator) (call : Nat),
      g.beginFile connect ws includeExamples call path = (g, log, .ended outcome) := by
  cases hread : ws.readText path with
  | error fault => cases fault <;> exact ⟨_, _, fun connect g call => by rw [beginFile, hread]⟩
  | ok code =>
      cases hoptions : PromptOptions.forFile includeExamples path.toText with
      | error r =>
          refine ⟨[], .broken (.options r), fun connect g call => ?_⟩
          rw [beginFile, hread]
          simp only [hoptions]
      | ok options => exact absurd hoptions (h code options hread)

/-- At each call, a file begins in the same way before and after a
provider was found. -/
theorem Follows.beginFile {g g' : Generator} (h : Follows connect g g') (ws : Workspace)
    (includeExamples : Bool) (call : Nat) (path : Path) :
    Follows connect g (g'.beginFile connect ws includeExamples call path).1
      ∧ (g'.beginFile connect ws includeExamples call path).2.2
        = (g.beginFile connect ws includeExamples call path).2.2 := by
  by_cases hasking : ∃ code options, ws.readText path = .ok code
      ∧ PromptOptions.forFile includeExamples path.toText = .ok options
  · obtain ⟨code, options, hread, hoptions⟩ := hasking
    obtain ⟨hfollows, hresult⟩ := h.ask call code (Language.ofPath path) options
    rw [beginFile_of_readText hread hoptions, beginFile_of_readText hread hoptions]
    exact ⟨hfollows, by simp only [hresult]⟩
  · obtain ⟨log, outcome, hends⟩ := beginFile_of_not_asking ws includeExamples path
      fun code options hread hoptions => hasking ⟨code, options, hread, hoptions⟩
    rw [hends, hends]
    exact ⟨h, rfl⟩

/-- What a file comes to from where it began. -/
def Begun.outcome (path : Path) : Begun → Outcome
  | .asked _ answer => (concludeFile path answer).2
  | .ended outcome => outcome

/-- Generating a file is beginning it and hearing its answer. A batch does
the one at a start and the other at a reply. -/
theorem generateFile_eq (connect : Connect) (ws : Workspace) (includeExamples : Bool)
    (g : Generator) (call : Nat) (path : Path) :
    (g.generateFile connect ws includeExamples call path).1
        = (g.beginFile connect ws includeExamples call path).1
      ∧ (g.generateFile connect ws includeExamples call path).2.2
        = (g.beginFile connect ws includeExamples call path).2.2.outcome path := by
  rw [generateFile]
  split <;> simp_all [Begun.outcome]

/-- At each call, a file comes to the same before and after a provider
was found. -/
theorem Follows.generateFile {g g' : Generator} (h : Follows connect g g') (ws : Workspace)
    (includeExamples : Bool) (call : Nat) (path : Path) :
    Follows connect g (g'.generateFile connect ws includeExamples call path).1
      ∧ (g'.generateFile connect ws includeExamples call path).2.2
        = (g.generateFile connect ws includeExamples call path).2.2 := by
  obtain ⟨hfollows, hbegun⟩ := h.beginFile ws includeExamples call path
  obtain ⟨hgenerator, houtcome⟩ := generateFile_eq connect ws includeExamples g' call path
  refine ⟨hgenerator ▸ hfollows, ?_⟩
  rw [houtcome, hbegun, (generateFile_eq connect ws includeExamples g call path).2]

end DocScribe.Generator
