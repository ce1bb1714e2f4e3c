import DocScribe.Proofs.Generation.Provision

/-!
# `DocScribe.Proofs.Generation.Overlap`: calls that share a generator

A call for documentation has two parts with a wait in between: it asks,
for which it looks for the provider, and it hears the answer. Calls on
one generator may overlap in any way: an `Overlap` is what they have
come to, and `Overlap.step` lets one of them do its next part.

A provider may be created at any look for it, by whichever call comes
first. So that providers created at different calls can be told apart,
each call has its own way to make a provider from a backend.

`Sole` is the invariant: the providers that were created are the one
that the generator has, if it has one, and all answers are from it.
-/

set_option autoImplicit false

namespace DocScribe

open Generation

namespace Generator

/-- What looking for the provider of a generator creates, if it has
none yet and has settings to create one from. -/
def created? (connect : Connect) (g : Generator) : Option (Except Backend.BackendError Provider) :=
  match g.provider, g.config with
  | none, some config => some ((Backend.create config).2.map connect)
  | _, _ => none

variable {g : Generator}

/-- A provider that is there is found. Nothing is created then, and the
generator stays as it is. -/
theorem provide_of_provider (connect : Connect) {provider : Provider}
    (h : g.provider = some provider) :
    g.created? connect = none ∧ g.provide connect = (g, [], .ok provider) := by
  obtain ⟨_, config⟩ := g
  subst h
  exact ⟨rfl, rfl⟩

/-- A provider that is created is kept and found; a failure leaves the
generator as it was. -/
theorem provide_of_config (connect : Connect) {config : Backend.Config}
    (hnone : g.provider = none) (hconfig : g.config = some config) :
    (∃ provider, g.created? connect = some (.ok provider)
        ∧ (g.provide connect).1 = { g with provider := some provider }
        ∧ (g.provide connect).2.2 = .ok provider)
      ∨ ∃ e, g.created? connect = some (.error e) ∧ (g.provide connect).1 = g
        ∧ (g.provide connect).2.2 = .error (.completion (.backend e)) := by
  obtain ⟨_, _⟩ := g
  subst hnone hconfig
  cases hcreate : Backend.create config with
  | mk log created =>
      cases created with
      | ok backend =>
          exact .inl ⟨connect backend, by simp [created?, provide, hcreate, Except.map]⟩
      | error e => exact .inr ⟨e, by simp [created?, provide, hcreate, Except.map]⟩

end Generator

/-- What a call for documentation is made with, and how a backend would
become a provider if this call came to create one. -/
structure Inquiry where
  connect : Generator.Connect
  code : Text
  language : Text
  options : PromptOptions

/-- What a call comes to with an answer. -/
abbrev Inquiry.Result : Type := Option (Except GenerationError FileDoc)

def Inquiry.prompt (q : Inquiry) : Text :=
  Prompt.build q.code q.language q.options

/-- How far a call has come. -/
inductive Inquiry.Phase where
  | coming
  | pending (answer : Answer)
  | done (result : Inquiry.Result)

/-- What overlapping calls have come to: their generator, the phase of
each, and what looking for the provider has created, in that order. -/
structure Overlap where
  generator : Generator
  phases : List Inquiry.Phase
  creations : List (Except Backend.BackendError Provider)

namespace Overlap

open Generator Inquiry

/-- All calls are still to come, and the generator has nothing but its
settings. -/
def start (config : Backend.Config) (inquiries : List Inquiry) : Overlap :=
  { generator := ⟨none, some config⟩
    phases := inquiries.map fun _ => .coming
    creations := [] }

/-- What a call does next. -/
inductive Move where
  | ask (i : Nat)
  | hear (i : Nat)

/-- The overlap after a call has asked. -/
def ask (o : Overlap) (i : Nat) (q : Inquiry) : Overlap :=
  let asked := o.generator.ask q.connect i q.code q.language q.options
  { generator := asked.1
    phases := o.phases.set i (match asked.2.2 with
      | .error e => .done (some (.error e))
      | .ok (_, answer) => .pending answer)
    creations := o.creations ++ (o.generator.created? q.connect).toList }

/-- The overlap after a call has heard its answer. -/
def hear (o : Overlap) (i : Nat) (q : Inquiry) (answer : Answer) : Overlap :=
  { o with phases := o.phases.set i (.done (conclude q.options.filePath answer).2) }

/-- What a move leads to, if it is possible. -/
def step (inquiries : List Inquiry) (o : Overlap) : Move → Option Overlap
  | .ask i =>
    match inquiries[i]?, o.phases[i]? with
    | some q, some .coming => some (o.ask i q)
    | _, _ => none
  | .hear i =>
    match inquiries[i]?, o.phases[i]? with
    | some q, some (.pending answer) => some (o.hear i q answer)
    | _, _ => none

/-- A sequence of possible moves, and what it leads to. -/
inductive Runs (config : Backend.Config) (inquiries : List Inquiry) :
    List Move → Overlap → Prop where
  | start : Runs config inquiries [] (start config inquiries)
  | step {moves : List Move} {move : Move} {o o' : Overlap} :
      Runs config inquiries moves o → o.step inquiries move = some o' →
        Runs config inquiries (moves ++ [move]) o'

variable {config : Backend.Config} {inquiries : List Inquiry} {moves : List Move}
  {o o' : Overlap} {i : Nat} {q : Inquiry}

/-- What can come of asking: the answer of the provider that is there,
that of one which is created now, or a failure to create one. -/
theorem ask_cases (hconfig : o.generator.config = some config) (i : Nat) (q : Inquiry) :
    (∃ p, o.generator.provider = some p
        ∧ o.ask i q = { o with phases := o.phases.set i (.pending (p.send i q.prompt)) })
      ∨ (o.generator.provider = none ∧ ∃ p, o.ask i q =
        { generator := { o.generator with provider := some p }
          phases := o.phases.set i (.pending (p.send i q.prompt))
          creations := o.creations ++ [.ok p] })
      ∨ (o.generator.provider = none ∧ ∃ e, o.ask i q =
        { generator := o.generator
          phases := o.phases.set i
            (.done (some (.error ⟨.generating, q.options.filePath, .completion (.backend e)⟩)))
          creations := o.creations ++ [.error e] }) := by
  have hgenerator := ask_generator q.connect o.generator i q.code q.language q.options
  have hresult := ask_result q.connect o.generator i q.code q.language q.options
  cases hprovider : o.generator.provider with
  | some p =>
      obtain ⟨hcreated, hprovide⟩ := provide_of_provider q.connect hprovider
      rw [hprovide] at hgenerator hresult
      refine .inl ⟨p, rfl, ?_⟩
      simp [ask, hgenerator, hresult, hcreated, prompt]
  | none =>
      refine .inr ?_
      rcases provide_of_config q.connect hprovider hconfig with
        ⟨p, hcreated, hkept, hfound⟩ | ⟨e, hcreated, hkept, hfound⟩
      · rw [hkept] at hgenerator
        rw [hfound] at hresult
        exact .inl ⟨rfl, p, by simp [ask, hgenerator, hresult, hcreated, prompt]⟩
      · rw [hkept] at hgenerator
        rw [hfound] at hresult
        exact .inr ⟨rfl, e, by simp [ask, hgenerator, hresult, hcreated]⟩

/-! ### One provider for all calls -/

/-- What the phase of a call says about a provider that answers and
about creations that have failed. -/
def Answered (provider : Option Provider) (creations : List (Except Backend.BackendError Provider))
    (i : Nat) (q : Inquiry) : Phase → Prop
  | .coming => True
  | .pending answer => ∃ p, provider = some p ∧ answer = p.send i q.prompt
  | .done result =>
    (∃ p, provider = some p ∧ result = (conclude q.options.filePath (p.send i q.prompt)).2)
      ∨ ∃ e, .error e ∈ creations
        ∧ result = some (.error ⟨.generating, q.options.filePath, .completion (.backend e)⟩)

/-- What was said of a call stays true when more is created, as long as
a provider that is there is kept. -/
theorem Answered.mono {provider provider' : Option Provider}
    {creations : List (Except Backend.BackendError Provider)} {phase : Phase}
    (h : Answered provider creations i q phase)
    (hkept : ∀ p, provider = some p → provider' = some p)
    (more : List (Except Backend.BackendError Provider)) :
    Answered provider' (creations ++ more) i q phase := by
  cases phase with
  | coming => trivial
  | pending answer =>
      obtain ⟨p, hp, hanswer⟩ := h
      exact ⟨p, hkept p hp, hanswer⟩
  | done result =>
      rcases h with ⟨p, hp, hresult⟩ | ⟨e, hmem, hresult⟩
      · exact .inl ⟨p, hkept p hp, hresult⟩
      · exact .inr ⟨e, List.mem_append_left _ hmem, hresult⟩

/-- The providers that were created are the one that the generator has,
if it has one; each call was answered by it, unless no provider could be
created for the call. -/
structure Sole (config : Backend.Config) (inquiries : List Inquiry) (o : Overlap) : Prop where
  config : o.generator.config = some config
  created : o.creations.filterMap Except.toOption = o.generator.provider.toList
  answered : ∀ (i : Nat) (q : Inquiry) (phase : Phase), inquiries[i]? = some q →
    o.phases[i]? = some phase → Answered o.generator.provider o.creations i q phase

/-- In the beginning nothing has been created and nobody has been
answered. -/
theorem sole_start (config : Backend.Config) (inquiries : List Inquiry) :
    Sole config inquiries (start config inquiries) where
  config := rfl
  created := rfl
  answered i q phase _ hphase := by
    simp only [start, List.getElem?_map, Option.map_eq_some_iff] at hphase
    obtain ⟨_, _, rfl⟩ := hphase
    trivial

/-- A move that takes one call to its next phase, and may create
something for it. -/
theorem Sole.of_move (h : Sole config inquiries o) (hq : inquiries[i]? = some q) {old : Phase}
    (hold : o.phases[i]? = some old) {new : Phase}
    {more : List (Except Backend.BackendError Provider)} {provider : Option Provider}
    (hkept : ∀ p, o.generator.provider = some p → provider = some p)
    (hcreated : (o.creations ++ more).filterMap Except.toOption = provider.toList)
    (hnew : Answered provider (o.creations ++ more) i q new) :
    Sole config inquiries
      ⟨{ o.generator with provider := provider }, o.phases.set i new, o.creations ++ more⟩ where
  config := h.config
  created := hcreated
  answered j q' phase hq' hphase := by
    obtain ⟨hi, -⟩ := List.getElem?_eq_some_iff.mp hold
    by_cases hij : i = j
    · subst hij
      rw [List.getElem?_set_self hi, Option.some.injEq] at hphase
      obtain rfl := Option.some.inj (hq.symm.trans hq')
      exact hphase ▸ hnew
    · rw [List.getElem?_set_ne hij] at hphase
      exact (h.answered j q' phase hq' hphase).mono hkept more

/-- A call that asks is answered by the provider that is there, or by
the one that is created for it; if none can be created it fails. -/
theorem Sole.ask (h : Sole config inquiries o) (hq : inquiries[i]? = some q)
    (hphase : o.phases[i]? = some .coming) : Sole config inquiries (o.ask i q) := by
  have hcreated := h.created
  rcases ask_cases h.config i q with ⟨p, hp, hask⟩ | ⟨hnone, p, hask⟩ | ⟨hnone, e, hask⟩
  · -- Nothing is created where a provider is there.
    have hmoved := h.of_move hq hphase (fun _ hp => hp)
      ((congrArg _ (List.append_nil _)).trans hcreated)
      (show Answered _ _ i q (.pending (p.send i q.prompt)) from ⟨p, hp, rfl⟩)
    rw [List.append_nil] at hmoved
    exact hask ▸ hmoved
  · rw [hnone] at hcreated
    rw [hask]
    refine h.of_move hq hphase (fun _ hp => nomatch hnone.symm.trans hp) ?_ ⟨p, rfl, rfl⟩
    rw [List.filterMap_append, hcreated]
    rfl
  · rw [hask]
    refine h.of_move hq hphase (fun _ hp => hp) ?_
      (.inr ⟨e, List.mem_append_right _ (List.mem_singleton.mpr rfl), rfl⟩)
    rw [List.filterMap_append, hcreated]
    exact List.append_nil _

/-- A call that hears its answer ends with what is in it, which comes from
the provider that answered. -/
theorem Sole.hear (h : Sole config inquiries o) (hq : inquiries[i]? = some q) {answer : Answer}
    (hphase : o.phases[i]? = some (.pending answer)) :
    Sole config inquiries (o.hear i q answer) := by
  obtain ⟨p, hp, rfl⟩ := h.answered i q _ hq hphase
  have hmoved := h.of_move hq hphase (fun _ hp => hp)
    ((congrArg _ (List.append_nil _)).trans h.created)
    (show Answered _ _ i q (.done _) from .inl ⟨p, hp, rfl⟩)
  rw [List.append_nil] at hmoved
  exact hmoved

/-- The two kinds of possible moves: a call that is still to come asks, and
one that was answered hears. -/
theorem step_eq_some {move : Move} (hstep : o.step inquiries move = some o') :
    (∃ i q, move = .ask i ∧ inquiries[i]? = some q ∧ o.phases[i]? = some .coming ∧ o' = o.ask i q)
      ∨ ∃ i q answer, move = .hear i ∧ inquiries[i]? = some q
        ∧ o.phases[i]? = some (.pending answer) ∧ o' = o.hear i q answer := by
  cases move with
  | ask i =>
      rw [step] at hstep
      split at hstep
      · next q hq hphase => exact .inl ⟨i, q, rfl, hq, hphase, (Option.some.inj hstep).symm⟩
      · exact nomatch hstep
  | hear i =>
      rw [step] at hstep
      split at hstep
      · next q answer hq hphase =>
        exact .inr ⟨i, q, answer, rfl, hq, hphase, (Option.some.inj hstep).symm⟩
      · exact nomatch hstep

/-- Every part of every call preserves the invariant: asking looks for the
provider, which is created now or is there already, and hearing an answer
changes nothing about providers. -/
theorem Sole.step (h : Sole config inquiries o) {move : Move}
    (hstep : o.step inquiries move = some o') : Sole config inquiries o' := by
  rcases step_eq_some hstep with ⟨i, q, -, hq, hphase, rfl⟩ | ⟨i, q, answer, -, hq, hphase, rfl⟩
  · exact h.ask hq hphase
  · exact h.hear hq hphase

/-- So it holds whatever the calls have come to, by induction on the
moves. -/
theorem Runs.sole (h : Runs config inquiries moves o) : Sole config inquiries o := by
  induction h with
  | start => exact sole_start config inquiries
  | step _ hstep ih => exact ih.step hstep

/-- A creation that fails leaves the generator without a provider, so the
next call tries again. -/
theorem Sole.provider_of_failed (h : Sole config inquiries o) {move : Move}
    (hstep : o.step inquiries move = some o') {e : Backend.BackendError}
    (hfailed : o'.creations = o.creations ++ [.error e]) : o'.generator.provider = none := by
  rcases step_eq_some hstep with ⟨i, q, -, -, -, rfl⟩ | ⟨i, q, answer, -, -, -, rfl⟩
  · rcases ask_cases h.config i q with ⟨p, -, hask⟩ | ⟨-, p, hask⟩ | ⟨hnone, e', hask⟩
    · rw [hask] at hfailed
      exact absurd hfailed (by simp)
    · rw [hask] at hfailed
      exact nomatch List.append_cancel_left hfailed
    · rw [hask]
      exact hnone
  · exact absurd hfailed (by simp [Overlap.hear])

end Overlap

end DocScribe
