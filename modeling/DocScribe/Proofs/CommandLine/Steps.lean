import DocScribe.CommandLine.Run
import DocScribe.Proofs.Terminal.Showing

/-!
# `DocScribe.Proofs.CommandLine.Steps`: what the steps of a run leave alone

Most steps of a run only show and log: they leave the files alone, ask
no service anything and bring out no document (`Keeps`). Where one step
follows another, the first one ends and the second goes on from there
(`Procedure.on_bind_of_ok`), or the run stops with the first
(`Procedure.on_bind_of_error`).

To show something stops a run if the standard output refuses it. What was
shown before that stays (`Procedure.putAll_cases`), and nothing else has
changed (`Procedure.tell_cases`). A message is refused only for a surrogate
in it (`Outlet.Refuses.not_isWhole_message`).
-/

set_option autoImplicit false

namespace DocScribe.CommandLine

/-- The document that an emission is. -/
def Emission.document? : Emission → Option Text
  | .document content => some content
  | _ => none

/-- The documents that a run has brought out. -/
def Run.documents (run : Run) : List Text := run.emissions.filterMap Emission.document?

/-- A document that is brought out comes last. -/
theorem Run.documents_emit_document (run : Run) (content : Text) :
    (run.emit [.document content]).documents = run.documents ++ [content] :=
  List.filterMap_append

/-- Nothing more is brought out. -/
theorem Run.emit_nil (run : Run) : run.emit [] = run := by
  rw [emit, List.append_nil]

/-- Emissions behind emissions. -/
theorem Run.emit_emit (run : Run) (emissions more : List Emission) :
    (run.emit emissions).emit more = run.emit (emissions ++ more) := by
  rw [emit, emit, emit, List.append_assoc]

/-- Of some displays that go to it, a standard output refuses one. -/
def Outlet.Refuses (outlet : Outlet) (displays : List Display) (message : Text) : Prop :=
  ∃ display ∈ displays, outlet.refusal? (.shown .output display) = some message

/-- Displays that have bytes are not refused, none of them. This is all that
is known of a standard output. -/
theorem Outlet.not_refuses {outlet : Outlet} {displays : List Display}
    (h : ∀ display ∈ displays, ∀ t ∈ display.toLines, Utf8.encodeError? t = none)
    (message : Text) : ¬ outlet.Refuses displays message := by
  rintro ⟨display, hdisplay, hrefused⟩
  exact nomatch (outlet.takes (.shown .output display) (h display hdisplay)).symm.trans hrefused

/-- A message that is refused has a surrogate: the marker in front of it
has none, and showing it brings in none. -/
theorem Outlet.Refuses.not_isWhole_message {outlet : Outlet} {marker message refusal : Text}
    (h : outlet.Refuses [Terminal.status marker message] refusal) (hmarker : Json.IsWhole marker) :
    ¬ Json.IsWhole message := by
  intro hmessage
  have hline := Terminal.encodeError?_status hmarker hmessage
  exact outlet.not_refuses (List.forall_mem_singleton.mpr hline) refusal h

/-- The files, the inquiries and the documents of a run are those of
another, and so is what its standard output takes. -/
structure Keeps (run run' : Run) : Prop where
  workspace : run'.workspace = run.workspace
  inquiries : run'.inquiries = run.inquiries
  documents : run'.documents = run.documents
  outlet : run'.outlet = run.outlet

namespace Keeps

variable {run run' run'' : Run}

/-- A run keeps what it has. -/
theorem refl (run : Run) : Keeps run run := ⟨rfl, rfl, rfl, rfl⟩

/-- What is kept by one step and by the next is kept by both. -/
theorem trans (h : Keeps run run') (h' : Keeps run' run'') : Keeps run run'' :=
  ⟨h'.workspace.trans h.workspace, h'.inquiries.trans h.inquiries,
    h'.documents.trans h.documents, h'.outlet.trans h.outlet⟩

/-- Emissions that are no documents. -/
theorem emit {emissions : List Emission} (h : emissions.filterMap Emission.document? = [])
    (run : Run) : Keeps run (run.emit emissions) := by
  refine ⟨rfl, rfl, ?_, rfl⟩
  rw [Run.documents, Run.emit, List.filterMap_append, h, List.append_nil]
  rfl

/-- Displays are no documents. -/
theorem display (displays : List Display) (run : Run) : Keeps run (run.display displays) := by
  refine emit ?_ run
  rw [List.filterMap_map]
  exact List.filterMap_eq_nil_iff.mpr fun _ _ => rfl

/-- Log lines are no documents either. -/
theorem log (entries : List Log.Entry) (run : Run) : Keeps run (run.log entries) := by
  refine emit ?_ run
  rw [List.filterMap_map]
  exact List.filterMap_eq_nil_iff.mpr fun _ _ => rfl

/-- The backends that were made, and how things are shown, are no part of
it. -/
theorem backends (backends : List Backend) (run : Run) :
    Keeps run { run with backends := backends } :=
  ⟨rfl, rfl, rfl, rfl⟩

/-- Displays may be directed to the error stream. -/
theorem redirected (run : Run) : Keeps run { run with stream := .errors } :=
  ⟨rfl, rfl, rfl, rfl⟩

/-- Settings decide how much is shown, but not where. -/
theorem settle (front : Choices) (settings : Settings) (run : Run) :
    Keeps run (run.settle front settings) :=
  ⟨rfl, rfl, rfl, rfl⟩

end Keeps

/-- A result that no part of the program has foreseen. -/
def Uncaught {α : Type} (result : Except Stop α) : Prop :=
  (∃ message, result = .error (.unexpected message)) ∨ result = .error .interrupted

namespace Procedure

variable {α β : Type} {p : Procedure α} {f : α → Procedure β} {run run' : Run}
  {result : Except Stop β}

/-- Where the first step has ended, the second goes on. -/
theorem on_bind_of_ok {a : α} {between : Run} (hfirst : p.on run = (.ok a, between)) :
    (p >>= f).on run = (f a).on between := by
  rw [on_bind, hfirst]

/-- A run that the first step stops is over. -/
theorem on_bind_of_error {stop : Stop} {between : Run}
    (hfirst : p.on run = (.error stop, between)) : (p >>= f).on run = (.error stop, between) := by
  rw [on_bind, hfirst]

/-- What follows on a step that stops is not done: the run is over, as that
step has left it. -/
theorem eq_of_stopped {stop : Stop} {between : Run} (hfirst : p.on run = (.error stop, between))
    (h : (p >>= f).on run = (result, run')) : result = .error stop ∧ run' = between := by
  rw [on_bind_of_error hfirst] at h
  obtain ⟨rfl, rfl⟩ := Prod.mk.inj h
  exact ⟨rfl, rfl⟩

/-- What was not foreseen in the first step stops the run there, and the run
is as that step has left it. -/
theorem on_bind_of_uncaught {first : Except Stop α} {between : Run}
    (hfirst : p.on run = (first, between)) (hstop : Uncaught first)
    (h : (p >>= f).on run = (result, run')) : Uncaught result ∧ run' = between := by
  rcases hstop with ⟨message, rfl⟩ | rfl
  · obtain ⟨rfl, rfl⟩ := eq_of_stopped hfirst h
    exact ⟨.inl ⟨message, rfl⟩, rfl⟩
  · obtain ⟨rfl, rfl⟩ := eq_of_stopped hfirst h
    exact ⟨.inr rfl, rfl⟩

/-! ### Emissions that are refused -/

/-- Emissions are brought out one after the other, up to the first that is
refused: what was brought out is a first part of them, and it is all of
them or ends in front of one that was refused. Taking an emission changes
nothing about what is taken next, so the induction needs no invariant. -/
theorem putAll_cases {emissions : List Emission} {result : Except Stop Unit}
    (h : (putAll emissions).on run = (result, run')) :
    (result = .ok () ∧ run' = run.emit emissions)
      ∨ ∃ out e rest message, emissions = out ++ e :: rest ∧ run' = run.emit out
        ∧ run.refusal? e = some message ∧ result = .error (.unexpected message) := by
  induction emissions generalizing run with
  | nil =>
      obtain ⟨rfl, rfl⟩ := Prod.mk.inj h
      exact .inl ⟨rfl, run.emit_nil.symm⟩
  | cons e emissions ih =>
      cases hrefusal : run.refusal? e with
      | some message =>
          have hput : (put e).on run = (.error (.unexpected message), run) := by
            rw [on_put, hrefusal]
          rw [putAll] at h
          obtain ⟨rfl, hrun⟩ := eq_of_stopped hput h
          exact .inr ⟨[], e, emissions, message, rfl, hrun.trans run.emit_nil.symm, hrefusal, rfl⟩
      | none =>
          have hput : (put e).on run = (.ok (), run.emit [e]) := by rw [on_put, hrefusal]
          rw [putAll, on_bind_of_ok hput] at h
          rcases ih h with ⟨rfl, rfl⟩ | ⟨out, e', rest, message, rfl, rfl, hrefused, rfl⟩
          · exact .inl ⟨rfl, run.emit_emit [e] emissions⟩
          · exact .inr ⟨e :: out, e', rest, message, rfl, run.emit_emit [e] out, hrefused, rfl⟩

/-- Emissions that are all taken are brought out, in their order. It is
enough that each of them would be taken now, since to bring out one changes
nothing about the others. -/
theorem on_putAll_of_taken {emissions : List Emission}
    (h : ∀ e ∈ emissions, run.refusal? e = none) :
    (putAll emissions).on run = (.ok (), run.emit emissions) := by
  rcases hrun : (putAll emissions).on run with ⟨result, run'⟩
  rcases putAll_cases hrun with ⟨rfl, rfl⟩ | ⟨out, e, rest, message, rfl, -, hrefused, -⟩
  · rfl
  · have htaken := h e (List.mem_append_right out List.mem_cons_self)
    exact nomatch htaken.symm.trans hrefused

/-- Whatever the emissions are that are brought out, nothing changes but
what has been brought out. -/
theorem keeps_putAll {emissions : List Emission} {result : Except Stop Unit}
    (hnone : emissions.filterMap Emission.document? = [])
    (h : (putAll emissions).on run = (result, run')) : Keeps run run' := by
  rcases putAll_cases h with ⟨-, rfl⟩ | ⟨out, e, rest, message, rfl, rfl, -, -⟩
  · exact .emit hnone run
  · rw [List.filterMap_append] at hnone
    exact .emit (List.append_eq_nil_iff.mp hnone).1 run

/-- Displays are shown, and go on being shown until one is refused. Then
they go to the standard output, and that has refused it. -/
theorem tell_cases {shown : Terminal → List Display} {result : Except Stop Unit}
    (h : (tell shown).on run = (result, run')) :
    Keeps run run' ∧ ((result = .ok () ∧ run' = run.display (shown run.terminal))
      ∨ ∃ message, result = .error (.unexpected message) ∧ run.stream = .output
        ∧ run.outlet.Refuses (shown run.terminal) message) := by
  rw [tell, on_bind_of_ok (on_get run)] at h
  have hnone : ((shown run.terminal).map (Emission.shown run.stream)).filterMap
      Emission.document? = [] := by
    rw [List.filterMap_map]
    exact List.filterMap_eq_nil_iff.mpr fun _ _ => rfl
  refine ⟨keeps_putAll hnone h, ?_⟩
  rcases putAll_cases h with ⟨rfl, rfl⟩ | ⟨out, e, rest, message, heq, -, hrefused, rfl⟩
  · exact .inl ⟨rfl, rfl⟩
  · have hmem : e ∈ (shown run.terminal).map (Emission.shown run.stream) :=
      heq ▸ List.mem_append_right out List.mem_cons_self
    obtain ⟨display, hdisplay, rfl⟩ := List.mem_map.mp hmem
    -- The error stream takes everything.
    cases hstream : run.stream with
    | errors =>
        rw [hstream] at hrefused
        cases hrefused
    | output =>
        rw [hstream] at hrefused
        exact .inr ⟨message, rfl, rfl, display, hdisplay, hrefused⟩

/-- Displays whose texts have bytes are shown, wherever they go: only a
surrogate could be refused. -/
theorem on_tell_of_spelled {shown : Terminal → List Display}
    (h : ∀ display ∈ shown run.terminal, ∀ t ∈ display.toLines, Utf8.encodeError? t = none) :
    (tell shown).on run = (.ok (), run.display (shown run.terminal)) := by
  rw [tell, on_bind_of_ok (on_get run)]
  refine on_putAll_of_taken fun e he => ?_
  obtain ⟨display, hdisplay, rfl⟩ := List.mem_map.mp he
  rw [Run.refusal?]
  split
  · exact run.outlet.takes _ (h display hdisplay)
  · rfl

/-- What a terminal shows unless it is quiet is shown if its texts have
bytes. -/
theorem on_tell_unlessQuiet {displays : List Display}
    (h : ∀ display ∈ displays, ∀ t ∈ display.toLines, Utf8.encodeError? t = none) (run : Run) :
    (tell (·.unlessQuiet displays)).on run
      = (.ok (), run.display (run.terminal.unlessQuiet displays)) := by
  refine on_tell_of_spelled fun display hdisplay => ?_
  rw [Terminal.unlessQuiet] at hdisplay
  split at hdisplay
  · exact absurd hdisplay List.not_mem_nil
  · exact h display hdisplay

/-- A message without surrogates is shown unless the terminal is quiet. In
either case the step ends well, and the run goes on. -/
theorem on_tell_status {marker message : Text} (hmarker : Json.IsWhole marker)
    (hmessage : Json.IsWhole message) (run : Run) :
    (tell (·.unlessQuiet [Terminal.status marker message])).on run
      = (.ok (), run.display (run.terminal.unlessQuiet [Terminal.status marker message])) :=
  on_tell_unlessQuiet
    (List.forall_mem_singleton.mpr (Terminal.encodeError?_status hmarker hmessage)) run

/-- The bar is shown, unless the terminal is quiet, or the standard output
refuses it. Nothing else changes. -/
theorem countTo_cases {total : Nat} {description : Text} {result : Except Stop Unit}
    (h : (countTo total description).on run = (result, run')) :
    Keeps run run' ∧ (result = .ok ()
      ∨ ∃ message, result = .error (.unexpected message) ∧ run.stream = .output
        ∧ run.terminal.quiet = false
        ∧ run.outlet.refusal? (.progress .output total description) = some message) := by
  rw [countTo, on_bind_of_ok (on_get run)] at h
  cases hquiet : run.terminal.quiet with
  | true =>
      obtain ⟨rfl, rfl⟩ := Prod.mk.inj (hquiet ▸ h)
      exact ⟨.refl run, .inl rfl⟩
  | false =>
      rw [hquiet, if_neg Bool.false_ne_true] at h
      refine ⟨keeps_putAll rfl h, ?_⟩
      rcases putAll_cases h with ⟨rfl, -⟩ | ⟨out, e, rest, message, heq, -, hrefused, rfl⟩
      · exact .inl rfl
      · obtain rfl : e = .progress run.stream total description :=
          List.mem_singleton.mp (heq ▸ List.mem_append_right out List.mem_cons_self)
        -- The error stream takes everything.
        cases hstream : run.stream with
        | errors =>
            rw [hstream] at hrefused
            cases hrefused
        | output =>
            rw [hstream] at hrefused
            exact .inr ⟨message, rfl, rfl, rfl, hrefused⟩

/-- A document is brought out without control sequences, or refused, and
the run goes on only in the first case. -/
theorem bringOut_cases {content : Text} {result : Except Stop Unit}
    (h : (bringOut content).on run = (result, run')) :
    (result = .ok () ∧ run' = run.emit [.document (Control.dropSequences content)])
      ∨ ∃ message, result = .error (.unexpected message) ∧ run' = run
        ∧ run.outlet.refusal? (.document (Control.dropSequences content)) = some message := by
  rw [bringOut, on_put] at h
  cases hrefusal : run.refusal? (.document (Control.dropSequences content)) with
  | none =>
      rw [hrefusal] at h
      obtain ⟨rfl, rfl⟩ := Prod.mk.inj h
      exact .inl ⟨rfl, rfl⟩
  | some message =>
      rw [hrefusal] at h
      obtain ⟨rfl, rfl⟩ := Prod.mk.inj h
      exact .inr ⟨message, rfl, rfl, hrefusal⟩

/-- To stop with an error ends the run with 1 if the error is shown. If it
is refused, for a surrogate in it, the run stops with the refusal. -/
theorem fail_cases {message : Text} {result : Except Stop α}
    (h : (fail message : Procedure α).on run = (result, run')) :
    Keeps run run'
      ∧ ((result = .error (.exit 1) ∧ run' = run.display (run.terminal.error message))
        ∨ ∃ refusal, result = .error (.unexpected refusal) ∧ run.stream = .output
          ∧ ¬ Json.IsWhole message
          ∧ run.outlet.Refuses (run.terminal.error message) refusal) := by
  rw [fail] at h
  cases htell : (tell (·.error message)).on run with | mk told between =>
  obtain ⟨hkept, ⟨rfl, rfl⟩ | ⟨refusal, rfl, hstream, hrefused⟩⟩ := tell_cases htell
  · rw [on_bind_of_ok htell, on_throw] at h
    obtain ⟨rfl, rfl⟩ := Prod.mk.inj h
    exact ⟨hkept, .inl ⟨rfl, rfl⟩⟩
  · obtain ⟨rfl, rfl⟩ := eq_of_stopped htell h
    exact ⟨hkept, .inr ⟨refusal, rfl, hstream, hrefused.not_isWhole_message (by decide),
      hrefused⟩⟩

end Procedure

end DocScribe.CommandLine
