import DocScribe.Proofs.Backend.Answers
import DocScribe.Proofs.CommandLine.Outcome
import DocScribe.Proofs.Generation.Breakdowns
import DocScribe.Proofs.Text.Trimming

/-!
# `DocScribe.Proofs.CommandLine.Credentials`: runs without a key

Whether there is a key is asked twice. The command asks before anything
is generated and stops where the key is empty; the hosted service makes
no client where the key is nothing but blanks. The two agree on every key
that comes out of the settings but one: a key that is the name of a
variable is replaced by what the variable holds, blanks and all
(`Settings.namesBlanks_iff`). So a run stops for want of a key exactly if
there would be no client, unless the key names a variable of blanks
(`key_checked`). In that case every file that can be read fails for want
of a key, and the service is not asked about any of them.
-/

set_option autoImplicit false

namespace DocScribe

/-! ### Keys -/

namespace Settings

/-- The key is the name of a variable that holds blanks and nothing
else. -/
def NamesBlanks (environment : List (Text × Text)) (apiKey : Option Text) : Prop :=
  ∃ value, (apiKey.getD []).trim ≠ []
    ∧ environment.lookup (apiKey.getD []).trim = some value ∧ value ≠ [] ∧ value.trim = []

variable {environment : List (Text × Text)} {apiKey variableName : Option Text} {key : Text}

/-- What a variable holds is what stands in the environment. The name may be
one that cannot be a name; then there is no result at all. -/
theorem eq_lookup_of_ofVariable {name : Text} {found : Option Text}
    (h : ofVariable environment name = .ok found) : found = environment.lookup name := by
  rw [ofVariable] at h
  split at h
  · exact nomatch h
  · exact (Except.ok.inj h).symm

/-- A setting that is all blanks names nothing. -/
theorem not_namesBlanks (h : (apiKey.getD []).trim = []) : ¬ NamesBlanks environment apiKey := by
  rintro ⟨_, hsome, -⟩
  exact hsome h

/-- A key that is blank and not empty has come out of a variable that it was
the name of. Keys from other places are trimmed, and a setting that is taken
as the key itself has been seen to say something. -/
theorem namesBlanks_iff (h : resolveKey environment apiKey variableName = .ok key) :
    NamesBlanks environment apiKey ↔ key ≠ [] ∧ key.trim = [] := by
  rw [resolveKey.eq_def] at h
  split at h
  · next hnone =>
    refine iff_of_false (not_namesBlanks hnone) fun hblank => ?_
    split at h
    · next c rest =>
      -- What another variable holds is trimmed, so it is empty if it is blank.
      cases hvalue : ofVariable environment (c :: rest) with
      | error e => exact nomatch hvalue ▸ h
      | ok value =>
          rw [hvalue] at h
          obtain rfl : (value.getD []).trim = key := Except.ok.inj h
          exact hblank.1 (Text.trim_trim_eq_nil_iff.mp hblank.2)
    · obtain rfl : [] = key := Except.ok.inj h
      exact hblank.1 rfl
  · next hsome =>
    rw [NamesBlanks]
    -- The setting as it stands would be a key that is not blank.
    have htrimmed : (apiKey.getD []).trim.trim ≠ [] := mt Text.trim_trim_eq_nil_iff.mp hsome
    generalize (apiKey.getD []).trim = value at *
    cases hfound : ofVariable environment value with
    | error e => exact nomatch hfound ▸ h
    | ok found =>
        rw [hfound] at h
        rw [← eq_lookup_of_ofVariable hfound]
        cases found with
        | none =>
            obtain rfl : value = key := Except.ok.inj h
            refine iff_of_false ?_ fun hblank => htrimmed hblank.2
            rintro ⟨_, -, hnone, -⟩
            exact nomatch hnone
        | some content =>
            cases content with
            | nil =>
                obtain rfl : value = key := Except.ok.inj h
                refine iff_of_false ?_ fun hblank => htrimmed hblank.2
                rintro ⟨_, -, hcontent, hfilled, -⟩
                exact hfilled (Option.some.inj hcontent).symm
            | cons c rest =>
                obtain rfl : c :: rest = key := Except.ok.inj h
                constructor
                · rintro ⟨_, -, hcontent, hfilled, hblank⟩
                  obtain rfl := Option.some.inj hcontent
                  exact ⟨hfilled, hblank⟩
                · rintro ⟨hfilled, hblank⟩
                  exact ⟨c :: rest, hsome, rfl, hfilled, hblank⟩

end Settings
/-! ### The client of the hosted service -/

open Backend

/-- The settings of a backend for the hosted service hold the key that the
settings of the run lead to. -/
theorem Settings.exists_key {settings : Settings} {environment : List (Text × Text)}
    {config : Backend.Config} (hhosted : settings.provider = Service.hosted.word)
    (h : settings.backendConfig environment = .ok config) :
    config.provider = Service.hosted.word ∧ ∃ key, config.apiKey = some key
      ∧ resolveKey environment settings.apiKey (some settings.apiKeyVariable) = .ok key := by
  have hother : ¬ settings.provider = Service.local.word := by
    rw [hhosted]
    decide
  rw [backendConfig, if_neg hother] at h
  cases hkey : resolveKey environment settings.apiKey (some settings.apiKeyVariable) with
  | error e => exact nomatch hkey ▸ h
  | ok key =>
      rw [hkey] at h
      obtain rfl := Except.ok.inj h
      exact ⟨hhosted, key, rfl, rfl⟩

/-- The command finds the key missing exactly if there is no client,
unless the key is the name of a variable of blanks; and then there is no
client either. -/
theorem lacksKey_iff {settings : Settings} {environment : List (Text × Text)}
    {config : Backend.Config} (hhosted : settings.provider = Service.hosted.word)
    (h : settings.backendConfig environment = .ok config) :
    (CommandLine.Generate.lacksKey config = true ↔ Hosted.hasClient config = false
        ∧ ¬ Settings.NamesBlanks environment settings.apiKey)
      ∧ (Settings.NamesBlanks environment settings.apiKey → Hosted.hasClient config = false) := by
  obtain ⟨hprovider, key, hkey, hresolved⟩ := Settings.exists_key hhosted h
  have hlacks : CommandLine.Generate.lacksKey config = true ↔ key = [] := by
    simp [CommandLine.Generate.lacksKey, hprovider, hkey]
  have hclient : Hosted.hasClient config = false ↔ key.trim = [] := by
    simp [Hosted.hasClient, Hosted.keyOf, hkey]
  rw [hlacks, hclient, Settings.namesBlanks_iff hresolved]
  refine ⟨⟨?_, ?_⟩, fun hblank => hblank.2⟩
  · rintro rfl
    exact ⟨rfl, fun hblank => hblank.1 rfl⟩
  · rintro ⟨hblank, hnone⟩
    by_contra hfilled
    exact hnone ⟨hfilled, hblank⟩

section Sending

variable {config : Backend.Config} {transport : Transport}

/-- With a client the hosted service is asked, once and with the prompt, and
what comes of the delivery is the result. -/
theorem send_of_client (hclient : Hosted.hasClient config = true) (prompt : Text) :
    Backend.send ⟨.hosted, config⟩ transport prompt
      = (Exchange.ofDelivery [Log.debug "api_request"]
          (.completion (Hosted.request config prompt [])) Hosted.ofFault Hosted.ofAnswer
          (transport.chat (Hosted.request config prompt []))).map (·.content) := by
  rw [Backend.send, complete]
  simp only [givenTwice?, List.map_nil, List.find?_nil, ask, hclient, if_true]

/-- Without a client it is not. The error is made on the spot, so nothing of
the transport counts. -/
theorem send_of_no_client (hclient : Hosted.hasClient config = false) (prompt : Text) :
    Backend.send ⟨.hosted, config⟩ transport prompt
      = ⟨[Log.error "missing_credentials"], none, [], some (.error Hosted.missingKey)⟩ := by
  rw [Backend.send, complete]
  simp only [givenTwice?, List.map_nil, List.find?_nil, ask, hclient, Bool.false_eq_true, if_false]
  rfl

/-- A client is never told that the key is missing: faults of the service
carry the fault, and an answer without choices has a message of its own. -/
theorem send_ne_missingKey (hclient : Hosted.hasClient config = true) (prompt : Text) :
    (Backend.send ⟨.hosted, config⟩ transport prompt).outcome
      ≠ some (.error Hosted.missingKey) := by
  rw [send_of_client hclient]
  intro h
  cases hdelivery : transport.chat (Hosted.request config prompt []) with
  | interrupted => exact nomatch hdelivery ▸ h
  | failed fault =>
      rw [hdelivery] at h
      obtain ⟨kind, message, hfault⟩ := Hosted.exists_ofFault_eq fault
      have hsame := hfault.symm.trans (Except.error.inj (Option.some.inj h))
      exact nomatch (BackendError.mk.inj (CompletionError.backend.inj hsame)).2.2.2
  | answered answer =>
      rw [hdelivery] at h
      -- The only error that is reported of an answer is another one.
      have hanswer : (Hosted.ofAnswer answer).2.map (·.content) = .error Hosted.missingKey :=
        Option.some.inj h
      cases hread : (Hosted.ofAnswer answer).2 with
      | ok completion => exact nomatch hread ▸ hanswer
      | error e =>
          rw [hread] at hanswer
          have hmissing : e = Hosted.missingKey := Except.error.inj hanswer
          have hchoices := Hosted.eq_of_ofAnswer_reported (hmissing ▸ hread)
          exact nomatch (BackendError.mk.inj (CompletionError.backend.inj hchoices)).1

end Sending

/-! ### Files without a key -/

section Files

open Generation Generator

variable {config : Backend.Config} {transport : Nat → Transport}

/-- Documenting a file has failed for want of a key. -/
def FailsUnkeyed (outcome : Outcome) : Prop :=
  ∃ failure, outcome = .settled (.error failure) ∧ failure.cause = .completion Hosted.missingKey

variable {b : Batch}

/-- A file fails for want of a key exactly if this is what its completion
was answered, and not through anything that its own text or the reply
says. -/
theorem concludeFile_failsUnkeyed_iff (path : Path) (answer : Answer) :
    FailsUnkeyed (concludeFile path answer).2
      ↔ answer.reply = some (.error (.completion Hosted.missingKey)) := by
  rw [concludeFile, conclude]
  cases answer.reply with
  | none => exact iff_of_false (by rintro ⟨_, ⟨⟩, _⟩) (by rintro ⟨⟩)
  | some reply =>
      cases reply with
      | error cause =>
          constructor
          · rintro ⟨failure, h, hcause⟩
            obtain rfl := Except.error.inj (Outcome.settled.inj h)
            exact congrArg some (congrArg Except.error hcause)
          · rintro ⟨⟩
            exact ⟨_, rfl, rfl⟩
      | ok reply =>
          refine iff_of_false ?_ (by rintro ⟨⟩)
          rintro ⟨failure, h, hcause⟩
          have hread := Outcome.settled.inj h
          rw [Generator.read] at hread
          split at hread
          · cases hread
          · obtain rfl := Except.error.inj hread
            cases hcause

/-- A file that cannot be read fails for that reason, or breaks down, since
some faults of a path are no errors of the file system. -/
theorem outcome_of_fault {g : Generator} {i : Nat} {path : Path} {fault : FileFault}
    (hread : b.workspace.readText path = .error fault) :
    (∃ breakdown, b.outcome g i path = .broken breakdown)
      ∨ b.outcome g i path = .settled (.error ⟨.reading, path.toText, .file fault⟩) := by
  rw [Batch.outcome_eq, Batch.begun, beginFile, hread]
  cases fault with
  | refused refusal path => exact .inr rfl
  | nullCharacter => exact .inl ⟨_, rfl⟩
  | unspellable e => exact .inl ⟨_, rfl⟩
  | unreadable e => exact .inr rfl

/-- A file fails for want of a key exactly if the hosted service has no
client and the file can be read at a path that says something. The path
comes in since one that is blank breaks the batch before its result is
looked at. -/
theorem outcome_failsUnkeyed_iff (i : Nat) (path : Path) :
    FailsUnkeyed (b.outcome ⟨some (.ofBackend transport ⟨.hosted, config⟩), none⟩ i path)
      ↔ Hosted.hasClient config = false ∧ (∃ code, b.workspace.readText path = .ok code)
        ∧ path.toText.isBlank = false := by
  cases hread : b.workspace.readText path with
  | error fault =>
      refine iff_of_false ?_ (by rintro ⟨_, ⟨_, ⟨⟩⟩, _⟩)
      rintro ⟨failure, h, hcause⟩
      rcases outcome_of_fault hread with ⟨breakdown, hbroken⟩ | hunread
      · cases hbroken.symm.trans h
      · obtain rfl := Except.error.inj (Outcome.settled.inj (hunread.symm.trans h))
        cases hcause
  | ok code =>
      cases hblank : path.toText.isBlank with
      | true =>
          rw [Batch.outcome_of_blank hread hblank]
          exact iff_of_false (by rintro ⟨_, ⟨⟩, _⟩) (by rintro ⟨_, _, ⟨⟩⟩)
      | false =>
          rw [Batch.outcome_eq, Batch.begun_of_readText hread hblank rfl, Begun.outcome,
            concludeFile_failsUnkeyed_iff]
          cases hclient : Hosted.hasClient config with
          | false =>
              rw [Provider.ofBackend]
              dsimp only
              rw [send_of_no_client hclient]
              exact iff_of_true rfl ⟨rfl, ⟨code, rfl⟩, rfl⟩
          | true =>
              refine iff_of_false (fun h => ?_) (by rintro ⟨⟨⟩, _⟩)
              -- The cause is the error that the backend reports.
              obtain ⟨result, hresult, herror⟩ := Option.map_eq_some_iff.mp h
              cases result with
              | ok content => cases herror
              | error e =>
                  obtain rfl := Cause.completion.inj (Except.error.inj herror)
                  exact send_ne_missingKey hclient _ hresult

end Files

/-! ### The command -/

namespace CommandLine.Generate

open Procedure

variable {around : Surroundings} {front choices : Choices} {settings : Settings}
  {backend : Backend} {config : Backend.Config} {toOutput : Bool} {terminal : Terminal}
  {files : List Path} {run run' : Run} {result : Except Stop Unit}

/-- The last thing that a run has shown is an error. -/
def EndsWithError (run : Run) (message : Text) : Prop :=
  ∃ emissions,
    run.emissions = emissions ++ (run.terminal.error message).map (.shown run.stream)

/-- A run with the hosted service is stopped before it gets its backend, or
gets it, or stops and says that the key is missing. That the key is missing
is decided by `lacksKey` alone, and so before any request. -/
theorem createBackend_hosted (files : List Path) (hhosted : settings.provider = Service.hosted.word)
    (hconfig : settings.backendConfig run.workspace.environment = .ok config)
    (hfaces : Faces toOutput terminal run.stream run.terminal) :
    ∃ run', Keeps run run' ∧ ((∃ message,
        (createBackend settings).on run = (.error (.unexpected message), run')
          ∧ Unprepared settings toOutput terminal files run message)
      ∨ (createBackend settings).on run
          = (if lacksKey config then .error (.exit 1) else .ok ⟨.hosted, config⟩, run')
        ∧ (lacksKey config = true → EndsWithError run' (noKeyMessage settings))) := by
  obtain ⟨hprovider, -⟩ := Settings.exists_key hhosted hconfig
  have hservice : Service.ofWord? config.provider.trim.toSmall = some .hosted := by
    rw [hprovider]
    decide
  have hcreated : (Backend.create config).2 = .ok ⟨.hosted, config⟩ := by
    rw [Backend.create, hservice]
  obtain ⟨prepared, hprepared, hstream, hterminal, hon⟩ := createBackend_on hconfig
  rw [← hstream, ← hterminal] at hfaces
  cases htell : (tell (backendNotice · settings config)).on prepared with | mk told run' =>
  obtain ⟨htold, hcases⟩ := tell_cases htell
  refine ⟨run', hprepared.trans htold, ?_⟩
  rw [hon]
  rcases hcases with ⟨rfl, rfl⟩ | ⟨message, rfl, houtput, hrefused⟩
  · refine .inr ⟨?_, fun hkey => ⟨prepared.emissions, ?_⟩⟩
    · rw [on_bind_of_ok htell, on_ofExcept, backendOrStop, hcreated]
    · rw [backendNotice, hcreated]
      dsimp only
      rw [if_pos hkey]
      rfl
  · rw [on_bind_of_error htell]
    exact .inl ⟨message, rfl, .unnamed hconfig
      ⟨hfaces.toOutput_eq_false houtput, hprepared.outlet ▸ hfaces.1 ▸ hrefused⟩⟩

/-- What the service was asked after documenting files: what it was asked
before, and the prompts of the batch. The bar asks nothing. -/
theorem documentFiles_inquiries (around : Surroundings) (settings : Settings) (backend : Backend)
    (files : List Path) (run : Run) :
    ((documentFiles around settings backend files).on run).2.inquiries
      = run.inquiries
        ++ (conclusionFor around settings backend files run.workspace).prompts.map .prompt := by
  obtain ⟨asked, hasked, hon⟩ := documentFiles_on around settings backend files run
  rw [hon, ← hasked.inquiries]
  cases hcount : (countTo files.length
    (barText files (conclusionFor around settings backend files run.workspace))).on asked with
  | mk counted between =>
  obtain ⟨hkept, rfl | ⟨message, rfl, -⟩⟩ := countTo_cases hcount
  · rw [on_bind_of_ok hcount, on_ofExcept]
    exact hkept.inquiries
  · rw [on_bind_of_error hcount]
    exact hkept.inquiries

/-- With its files listed and its backend made, a run asks the service what
documenting the files takes, and nothing else: messages ask nobody anything,
and what follows on the report does not either. -/
theorem process_inquiries (around : Surroundings) {listed chosen : Run} (hfiles : files.Nodup)
    (hfaces : Faces toOutput terminal run.stream run.terminal)
    (hlist : (tell (·.fileList files)).on run = (.ok (), listed))
    (hcreate : (createBackend settings).on listed = (.ok backend, chosen)) :
    ((process around settings toOutput files).on run).2.inquiries
      = chosen.inquiries
        ++ (conclusionFor around settings backend files chosen.workspace).prompts.map .prompt := by
  rw [process, on_bind_of_ok hlist, on_bind_of_ok hcreate,
    ← documentFiles_inquiries around settings backend files chosen]
  have hready := (tell_faces hfaces hlist).2.1.of_emits
    (emits_createBackend (admits_all _) settings) hcreate
  cases hdocument : (documentFiles around settings backend files).on chosen with
  | mk reported asked =>
  cases reported with
  | error stop => rw [on_bind_of_error hdocument]
  | ok report =>
      have hasked := hready.of_emits (emits_documentFiles (admits_all _) _ _ _ _) hdocument
      obtain ⟨-, -, -, -, hreported⟩ := documentFiles_cases hfiles hready hdocument
      rcases hreported with ⟨-, ⟨_, hstop⟩ | hstop⟩ | ⟨results, -, hreport | ⟨_, hstop, -⟩⟩
      · cases hstop
      · cases hstop
      swap
      · cases hstop
      obtain rfl := Except.ok.inj hreport
      -- What follows on the report asks nothing.
      rw [on_bind_of_ok hdocument]
      exact (afterReport_cases hasked (Prod.eta _).symm).1

/-- How a run that knows its files treats the key of its settings, up to
its `result`. -/
structure KeyChecked (around : Surroundings) (settings : Settings) (config : Backend.Config)
    (files : List Path) (run : Run) (result : Except Stop Unit) (run' : Run) : Prop where
  /-- The command stops before it asks anybody exactly if there is no
  client, unless the key names a variable of blanks. -/
  stops_iff : ((createBackend settings).on (run.display (run.terminal.fileList files))).1
      = .error (.exit 1)
    ↔ Hosted.hasClient config = false
      ∧ ¬ Settings.NamesBlanks run.workspace.environment settings.apiKey
  /-- Otherwise it goes on with the hosted service. -/
  goes_on_iff : ((createBackend settings).on (run.display (run.terminal.fileList files))).1
      = .ok ⟨.hosted, config⟩
    ↔ Hosted.hasClient config = true
      ∨ Settings.NamesBlanks run.workspace.environment settings.apiKey
  /-- Where it stops it says that the key is missing, and that is all. -/
  said : ((createBackend settings).on (run.display (run.terminal.fileList files))).1
      = .error (.exit 1) →
    result = .error (.exit 1) ∧ Keeps run run' ∧ EndsWithError run' (noKeyMessage settings)
  /-- Where it goes on, a file fails for want of a key exactly if the key
  names a variable of blanks and the file can be read at a path that says
  something. -/
  fails_iff : ((createBackend settings).on (run.display (run.terminal.fileList files))).1
      = .ok ⟨.hosted, config⟩ →
    ∀ i path, FailsUnkeyed ((batchFor around run.workspace settings files).outcome
        (generatorFor around ⟨.hosted, config⟩) i path)
      ↔ Settings.NamesBlanks run.workspace.environment settings.apiKey
        ∧ (∃ code, run.workspace.readText path = .ok code) ∧ path.toText.isBlank = false
  /-- Without a client nobody is asked anything. -/
  unasked : Hosted.hasClient config = false → run'.inquiries = run.inquiries

/-- Where the command stops for want of a key, there is no client, and the
key is no variable of blanks. Nothing is said of the files then. -/
theorem keyChecked_of_stopped {listed : Run}
    (hlisted : listed = run.display (run.terminal.fileList files))
    (hcreate : (createBackend settings).on listed = (.error (.exit 1), run'))
    (hkept : Keeps run run') (hclient : Hosted.hasClient config = false)
    (hnamed : ¬ Settings.NamesBlanks run.workspace.environment settings.apiKey)
    (hmessage : EndsWithError run' (noKeyMessage settings)) :
    KeyChecked around settings config files run (.error (.exit 1)) run' := by
  subst hlisted
  refine ⟨?_, ?_, fun _ => ⟨rfl, hkept, hmessage⟩, ?_, fun _ => hkept.inquiries⟩
  · rw [hcreate]
    exact iff_of_true rfl ⟨hclient, hnamed⟩
  · rw [hcreate, hclient]
    exact iff_of_false (by rintro ⟨⟩) fun h => h.elim (by rintro ⟨⟩) hnamed
  · rw [hcreate]
    rintro ⟨⟩

/-- Where the command goes on, there is no client exactly if the key is a
variable of blanks. So this decides what the files fail for, and a service
without a client is not asked anything. -/
theorem keyChecked_of_goes_on {listed chosen : Run}
    (hlisted : listed = run.display (run.terminal.fileList files))
    (hcreate : (createBackend settings).on listed = (.ok ⟨.hosted, config⟩, chosen))
    (hagree : Hosted.hasClient config = false
      ↔ Settings.NamesBlanks run.workspace.environment settings.apiKey)
    (hinquiries : Hosted.hasClient config = false → run'.inquiries = run.inquiries) :
    KeyChecked around settings config files run result run' := by
  subst hlisted
  refine ⟨?_, ?_, ?_, fun _ i path => ?_, hinquiries⟩
  · rw [hcreate, hagree]
    exact iff_of_false (by rintro ⟨⟩) fun h => h.2 h.1
  · rw [hcreate, ← hagree]
    refine iff_of_true rfl ?_
    cases Hosted.hasClient config with
    | true => exact .inl rfl
    | false => exact .inr rfl
  · rw [hcreate]
    rintro ⟨⟩
  · rw [← hagree]
    exact outcome_failsUnkeyed_iff i path

/-- A backend without a client answers by itself, so its batch has no
prompts, and documenting files with it asks nobody anything. -/
theorem process_unasked (hclient : Hosted.hasClient config = false) {listed chosen : Run}
    (hfiles : files.Nodup) (hfaces : Faces toOutput terminal run.stream run.terminal)
    (hlist : (tell (·.fileList files)).on run = (.ok (), listed))
    (hcreate : (createBackend settings).on listed = (.ok ⟨.hosted, config⟩, chosen))
    (h : (process around settings toOutput files).on run = (result, run')) :
    run'.inquiries = chosen.inquiries := by
  have hinquiries := process_inquiries around hfiles hfaces hlist hcreate
  rw [h, conclusionFor, Batch.prompts_run_eq_nil rfl fun i prompt => ?_] at hinquiries
  · rw [hinquiries, List.map_nil, List.append_nil]
  · rw [Generation.Provider.ofBackend]
    dsimp only
    rw [send_of_no_client hclient]
    rfl

/-- A run that knows its files is stopped before it has its backend, as the
standard output refuses to show the files or what there is to say of the
backend, or it treats the key of its settings as it should. -/
theorem keyChecked_of_process (hfiles : files.Nodup)
    (hhosted : settings.provider = Service.hosted.word)
    (hconfig : settings.backendConfig run.workspace.environment = .ok config)
    (hfaces : Faces toOutput terminal run.stream run.terminal)
    (h : (process around settings toOutput files).on run = (result, run')) :
    (∃ message, result = .error (.unexpected message)
        ∧ Unprepared settings toOutput terminal files run message ∧ Keeps run run')
      ∨ KeyChecked around settings config files run result run' := by
  obtain ⟨hlacks, hblank⟩ := lacksKey_iff hhosted hconfig
  have hprocess := h
  rw [process] at h
  -- The list of the files.
  cases hlist : (tell (·.fileList files)).on run with | mk told listed =>
  obtain ⟨hlisted, ⟨rfl, hshown⟩ | ⟨message, rfl, hstream, hrefused⟩⟩ := tell_cases hlist
  swap
  · obtain ⟨rfl, rfl⟩ := eq_of_stopped hlist h
    exact .inl ⟨message, rfl,
      .unlisted ⟨hfaces.toOutput_eq_false hstream, hfaces.1 ▸ hrefused⟩, hlisted⟩
  rw [on_bind_of_ok hlist] at h
  -- The backend.
  obtain ⟨-, hfaces', -⟩ := tell_faces hfaces hlist
  obtain ⟨chosen, hchosen, ⟨message, hcreate, hstop⟩ | ⟨hcreate, hmessage⟩⟩ :=
    createBackend_hosted files hhosted (hlisted.workspace ▸ hconfig) hfaces'
  · obtain ⟨rfl, rfl⟩ := eq_of_stopped hcreate h
    exact .inl ⟨message, rfl, hstop.of_keeps hlisted, hlisted.trans hchosen⟩
  refine .inr ?_
  replace hchosen := hlisted.trans hchosen
  cases hkey : lacksKey config with
  | true =>
      rw [hkey, if_pos rfl] at hcreate
      obtain ⟨hclient, hnamed⟩ := hlacks.mp hkey
      obtain ⟨rfl, rfl⟩ := eq_of_stopped hcreate h
      exact keyChecked_of_stopped hshown hcreate hchosen hclient hnamed (hmessage hkey)
  | false =>
      rw [hkey, if_neg Bool.false_ne_true] at hcreate
      have hagree : Hosted.hasClient config = false
          ↔ Settings.NamesBlanks run.workspace.environment settings.apiKey := by
        refine ⟨fun hclient => ?_, hblank⟩
        by_contra hnamed
        cases hkey.symm.trans (hlacks.mpr ⟨hclient, hnamed⟩)
      refine keyChecked_of_goes_on hshown hcreate hagree fun hclient => ?_
      exact (process_unasked hclient hfiles hfaces hlist hcreate hprocess).trans hchosen.inquiries

/-- **The key is checked in two places that agree but for variables of
blanks.** A run of the command with settings that name the hosted service
and lead to a key or to none is stopped before it knows its files, because
its settings cannot be shown or a path cannot be searched; finds no files;
is stopped when it knows them, because the standard output refuses to show
them or to show what there is to say of the backend; or treats its key as it
should: it stops for want of a key exactly if the service would have no
client, and then asks nobody, unless the key is the name of a variable that
holds nothing but blanks. In that case it goes on without a client, still
asks nobody, and every file that can be read fails for want of a key; in no
other case does any file. -/
theorem key_checked (around : Surroundings) (paths : List Path)
    (hloaded : Settings.load run.workspace front.configFile choices.overrides = .ok settings)
    (hhosted : settings.provider = Service.hosted.word)
    (hconfig : settings.backendConfig run.workspace.environment = .ok config)
    (h : (generate around front choices paths).on run = (result, run')) :
    (∃ message, result = .error (.unexpected message)
        ∧ StopsEarly settings choices.toOutput (settledTerminal run settings) paths run message
        ∧ Keeps run run')
      ∨ (Discovered run.workspace settings.excludePatterns paths [] ∧ result = .ok ()
        ∧ Keeps run run')
      ∨ ∃ files found, Discovered run.workspace settings.excludePatterns paths files
        ∧ files ≠ [] ∧ Keeps run found
        ∧ (process around settings choices.toOutput files).on found = (result, run')
        ∧ ((∃ message, result = .error (.unexpected message)
            ∧ Unprepared settings choices.toOutput (settledTerminal run settings) files run message
            ∧ Keeps run run')
          ∨ KeyChecked around settings config files found result run') := by
  rcases generate_cases around paths hloaded h with
    hstopped | hnone | ⟨files, found, hfound, hsome, hkept, hfaces, hprocess⟩
  · exact .inl hstopped
  · exact .inr (.inl hnone)
  · refine .inr (.inr ⟨files, found, hfound, hsome, hkept, hprocess, ?_⟩)
    have hfiles : files.Nodup := hfound.places.of_map Path.segments
    rcases keyChecked_of_process hfiles hhosted (hkept.workspace ▸ hconfig) hfaces hprocess with
      ⟨message, hresult, hstop, hsame⟩ | hchecked
    · exact .inl ⟨message, hresult, hstop.of_keeps hkept, hkept.trans hsame⟩
    · exact .inr hchecked

/-- A folder with one source file, and a variable of blanks. -/
def blankKey : Workspace :=
  ⟨.folder [("a.py", .file [0x78])], [], [("MY_KEY", "  ")]⟩

/-- The choice of that variable as the key. -/
def namingKey : Choices := { Choices.none with apiKey := some "MY_KEY" }

/-- The settings with that key. -/
def namingSettings : Settings := { usualSettings with apiKey := some ("MY_KEY" : Text) }

/-- What the backend is told. -/
def blankConfig : Backend.Config :=
  { provider := "openai", model := none, apiKey := some ("  " : Text), baseUrl := none
    temperature := Backend.Config.defaultTemperature, maxTokens := Backend.Config.defaultMaxTokens
    timeout := none, parameters := [] }

/-- The file is to be documented with that key. -/
def blankRun : Except Stop Unit × Run :=
  (generate reddening .none namingKey [Path.ofText "a.py"]).on (Run.start blankKey)

/-- In an environment where the named variable holds blanks, the settings
load, files are found and the key is not seen to be missing: nobody stops
the run before its files are gone through. -/
theorem blankRun_checked :
    Settings.load (Run.start blankKey).workspace Choices.none.configFile namingKey.overrides
        = .ok namingSettings
      ∧ namingSettings.provider = Service.hosted.word
      ∧ namingSettings.backendConfig (Run.start blankKey).workspace.environment = .ok blankConfig
      ∧ ∃ files found, files ≠ [] ∧ Keeps (Run.start blankKey) found
        ∧ KeyChecked reddening namingSettings blankConfig files found blankRun.1 blankRun.2 := by
  have hstatus : blankRun.1 = .error (.exit 1) := by decide +kernel
  refine ⟨rfl, rfl, rfl, ?_⟩
  have hrun : (generate reddening .none namingKey [Path.ofText "a.py"]).on (Run.start blankKey)
      = (blankRun.1, blankRun.2) := (Prod.eta blankRun).symm
  rcases key_checked reddening [Path.ofText "a.py"] rfl rfl rfl hrun with
    ⟨message, hstop, -⟩ | ⟨-, hnone, -⟩ |
    ⟨files, found, -, hsome, hkept, -, ⟨message, hstop, -⟩ | hchecked⟩
  · exact nomatch hstatus.symm.trans hstop
  · exact nomatch hstatus.symm.trans hnone
  · exact nomatch hstatus.symm.trans hstop
  · exact ⟨files, found, hsome, hkept, hchecked⟩

/-- There is no client, but the run does not say that the key is missing:
it goes on, and what it says is that the file failed for want of a
key. -/
theorem blankRun_goes_on :
    Hosted.hasClient blankConfig = false
      ∧ (∀ shown ∈ blankRun.2.terminal.error (noKeyMessage namingSettings),
        .shown .output shown ∉ blankRun.2.emissions)
      ∧ (∀ shown ∈ blankRun.2.terminal.error ("/a.py: " ++ Hosted.missingKey.message),
        .shown .output shown ∈ blankRun.2.emissions) := by
  decide +kernel

end CommandLine.Generate

end DocScribe
