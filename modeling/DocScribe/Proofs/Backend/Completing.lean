import DocScribe.Proofs.Backend.Answers

/-!
# `DocScribe.Proofs.Backend.Completing`: how completions fail

Whatever fails in the client of a service is turned into an error of the
backend, under the name of the service (`Hosted.reported_ofFault`,
`Local.reported_ofFault`), and so is a key that is missing. What the client
returns is not guarded in the same way. A completion comes to a result or
such an error exactly if the client fails or returns what the service
should answer (`Served`), and all other answers leave the backend as
errors of another kind (`settled_iff_served`).

The parameters of a call are no answers, but a parameter that is given
twice is an error of that other kind as well. An interruption is no failure
of the client: nothing comes of it.
-/

set_option autoImplicit false

namespace DocScribe.Backend

variable {α β : Type} {service : Service}

/-- The client fails, or returns a value of a kind. -/
def Delivery.Meets (kind : α → Prop) : Delivery α → Prop
  | .answered answer => kind answer
  | .failed _ => True
  | .interrupted => False

/-- There is no client to ask, or it fails, or it returns what the service
should answer. -/
def Served (b : Backend) (transport : Transport) (prompt : Text) (extra : Json.Members) : Prop :=
  match b.service with
  | .hosted => Hosted.hasClient b.config = true →
    (transport.chat (Hosted.request b.config prompt extra)).Meets (Hosted.IsReadable ·.value)
  | .local => (transport.generate (Local.request b.config prompt extra)).Meets Local.IsReadable

namespace Exchange

/-- An exchange comes to a result, or to an error that the backend
reports. -/
def Settled (service : Service) (e : Exchange α) : Prop :=
  ∃ result, e.outcome = some result ∧ Settles service result

/-- Whatever is made of the result, an exchange is settled as before: only
errors count for that, and these are handed on as they are. So it is enough
to look at the exchange below a completion, not at what is read of its
answer. -/
theorem settled_map_iff (f : α → β) (e : Exchange α) :
    (e.map f).Settled service ↔ e.Settled service := by
  obtain ⟨before, request, after, outcome⟩ := e
  cases outcome with
  | none => exact iff_of_false (fun ⟨_, h, _⟩ => nomatch h) fun ⟨_, h, _⟩ => nomatch h
  | some result =>
      have hmap : Settles service (result.map f) ↔ Settles service result := by
        cases result <;> exact Iff.rfl
      constructor
      · rintro ⟨_, ⟨⟩, h⟩
        exact ⟨result, rfl, hmap.mp h⟩
      · rintro ⟨_, ⟨⟩, h⟩
        exact ⟨_, rfl, hmap.mpr h⟩

/-- A request settles what its faults and its answers settle: faults always,
and answers if they are of the right kind. An interruption settles
nothing. -/
theorem settled_ofDelivery_iff {before : List Log.Entry} {request : Request}
    {ofFault : Fault → List Log.Entry × CompletionError}
    {ofAnswer : α → List Log.Entry × Except CompletionError β} {kind : α → Prop}
    (hfault : ∀ fault, Reported service (ofFault fault).2)
    (hanswer : ∀ answer, Settles service (ofAnswer answer).2 ↔ kind answer)
    (delivery : Delivery α) :
    (Exchange.ofDelivery before request ofFault ofAnswer delivery).Settled service
      ↔ delivery.Meets kind := by
  cases delivery with
  | answered answer =>
      refine Iff.trans ⟨?_, fun h => ⟨_, rfl, h⟩⟩ (hanswer answer)
      rintro ⟨_, ⟨⟩, h⟩
      exact h
  | failed fault => exact iff_of_true ⟨_, rfl, hfault fault⟩ trivial
  | interrupted => exact iff_of_false (fun ⟨_, h, _⟩ => nomatch h) id

end Exchange

/-! ### Faults -/

/-- Every fault of a request to the hosted service is reported under its
name. -/
theorem Hosted.reported_ofFault (fault : Fault) : Reported .hosted (Hosted.ofFault fault).2 := by
  obtain ⟨kind, message, hfault⟩ := exists_ofFault_eq fault
  exact ⟨_, hfault, rfl⟩

/-- Every fault of a request to the local service is reported under its
name, also that it does not have the model. -/
theorem Local.reported_ofFault (config : Config) (fault : Fault) :
    Reported .local (Local.ofFault config fault).2 := by
  rw [Local.ofFault.eq_def]
  split
  case h_3 =>
    -- A model that is not there has a message of its own.
    split <;> exact ⟨_, rfl, rfl⟩
  all_goals exact ⟨_, rfl, rfl⟩

/-! ### Completions -/

/-- A prompt is settled exactly if the backend is served: the hosted client
without a key settles everything, since it does not even ask. -/
theorem settled_ask_iff (b : Backend) (transport : Transport) (prompt : Text)
    (extra : Json.Members) :
    (b.ask transport prompt extra).Settled b.service ↔ Served b transport prompt extra := by
  obtain ⟨service, config⟩ := b
  cases service with
  | hosted =>
      rw [ask, Served]
      dsimp only
      split
      · next hclient =>
        rw [Exchange.settled_ofDelivery_iff Hosted.reported_ofFault Hosted.settles_ofAnswer_iff]
        exact ⟨fun h _ => h, fun h => h hclient⟩
      · next hclient => exact iff_of_true ⟨_, rfl, _, rfl, rfl⟩ fun h => absurd h hclient
  | «local» =>
      exact Exchange.settled_ofDelivery_iff (Local.reported_ofFault config)
        (Local.settles_ofAnswer_iff config) _

/-- A completion is settled exactly if none of its options is given twice,
since this is found out before anything is asked, and the backend is
served. -/
theorem settled_complete_iff (b : Backend) (transport : Transport) (prompt : Text)
    (extra : Json.Members) :
    (b.complete transport prompt extra).Settled b.service
      ↔ givenTwice? extra = none ∧ Served b transport prompt extra := by
  rw [complete]
  cases hgiven : givenTwice? extra with
  | none => exact (settled_ask_iff b transport prompt extra).trans (and_iff_right rfl).symm
  | some name =>
      refine iff_of_false ?_ fun ⟨h, _⟩ => nomatch h
      rintro ⟨_, ⟨⟩, _, h, -⟩
      exact nomatch h

/-- What the callers of a backend see: a result or an error of the backend
with the name of its service, exactly as long as the backend is served. -/
structure SeenFrom (b : Backend) (transport : Transport) : Prop where
  complete : ∀ prompt extra, (b.complete transport prompt extra).Settled b.service
    ↔ givenTwice? extra = none ∧ Served b transport prompt extra
  send : ∀ prompt, (b.send transport prompt).Settled b.service ↔ Served b transport prompt []
  /-- The local service is only asked which models it has. -/
  test : (b.testConnection transport).Settled b.service ↔
    match b.service with
    | .hosted => Served b transport trialPrompt []
    | .local => transport.list.Meets fun _ => True

/-- **Completions are made or fail as documented, as long as answers are what
they should be.** Whatever the client of a service raises, and whatever it
returns: a prompt comes to a completion, or to an error of the backend with
the name of its service, if and only if no parameter is given twice and the
client, where there is one, fails or returns what the service should answer.
For any other answer the error is one that no backend reports. The replies
that documentation is read from and the test of a connection inherit
this. -/
theorem settled_iff_served (b : Backend) (transport : Transport) : SeenFrom b transport where
  complete := settled_complete_iff b transport
  send prompt := by
    rw [Backend.send, Exchange.settled_map_iff, settled_complete_iff]
    exact and_iff_right rfl
  test := by
    obtain ⟨service, config⟩ := b
    cases service with
    | hosted =>
        rw [testConnection]
        dsimp only
        rw [Exchange.settled_map_iff]
        exact (settled_complete_iff ⟨.hosted, config⟩ transport _ _).trans (and_iff_right rfl)
    | «local» =>
        exact Exchange.settled_ofDelivery_iff (Local.reported_ofFault config)
          (fun _ => Iff.rfl) transport.list

/-- A client whose answer holds a number in the place of a text. -/
def numbering : Transport :=
  { chat := fun _ => .interrupted
    generate := fun _ => .answered (.obj [("response", .int 5)])
    list := .answered () }

/-- The local service with its usual settings. -/
def usualLocal : Backend :=
  { service := .local
    config :=
      { provider := "ollama", model := none, apiKey := none, baseUrl := none
        temperature := Config.defaultTemperature, maxTokens := Config.defaultMaxTokens
        timeout := none, parameters := [] } }

/-- The completion of any prompt fails, and no backend reports that: the
server answers with a number where its text should be. -/
theorem numbering_unreported :
    (usualLocal.complete numbering "p" []).outcome
        = some (.error (.unfit ⟨"LLMResponse", [⟨.notText, [.key "content"]⟩]⟩))
      ∧ ¬ (usualLocal.complete numbering "p" []).Settled .local := by
  have houtcome : (usualLocal.complete numbering "p" []).outcome
      = some (.error (.unfit ⟨"LLMResponse", [⟨.notText, [.key "content"]⟩]⟩)) := rfl
  refine ⟨houtcome, ?_⟩
  rintro ⟨result, hresult, hsettles⟩
  obtain rfl := Option.some.inj (houtcome.symm.trans hresult)
  obtain ⟨_, h, -⟩ := hsettles
  exact nomatch h

end DocScribe.Backend
