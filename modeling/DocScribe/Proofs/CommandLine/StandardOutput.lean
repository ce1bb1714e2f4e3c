import DocScribe.Proofs.CommandLine.Emitting
import DocScribe.Proofs.CommandLine.Outcome
import DocScribe.Proofs.CommandLine.Reporting

/-!
# `DocScribe.Proofs.CommandLine.StandardOutput`: what is left for other programs

With its document on the standard output, the command that documents
source files brings out nothing else there, however it ends
(`output_holds_the_document`): one document if a file has succeeded, and
nothing otherwise. Where its displays go is decided before the first of
them, so all of its steps show and log on the error stream
(`exists_emitted`). Which files succeed is settled before they are
documented (`Succeed.unique`); how many documents there are follows from
the ways in which a run ends (`documents_cases`).

The document is not always the one that was rendered. Control sequences in
it are dropped (`redPiped_altered`).

Left out are runs that stop for a reason that was not foreseen. Left out
are also settings that hold words which ask for help, because the text of
that help, on the standard output, is no part of a run here.
-/

set_option autoImplicit false

namespace DocScribe.CommandLine

/-- What a run has brought out on its standard output. -/
def Run.standardOutput (run : Run) : List Emission :=
  run.emissions.filter (·.stream == .output)

/-- Beside documents nothing has been added to the standard output, if
everything else went to the errors. So what stands there is what stood there
before, with the documents behind. The induction is on what was added. -/
theorem Run.standardOutput_eq {run run' : Run} {more : List Emission} {contents : List Text}
    (hmore : run'.emissions = run.emissions ++ more)
    (hallowed : ∀ e ∈ more, e.stream = .errors ∨ ∃ content, e = .document content)
    (hdocuments : run'.documents = run.documents ++ contents) :
    run'.standardOutput = run.standardOutput ++ contents.map .document := by
  have hcontents : more.filterMap Emission.document? = contents := by
    rw [Run.documents, hmore, List.filterMap_append] at hdocuments
    exact List.append_cancel_left hdocuments
  rw [standardOutput, standardOutput, hmore, List.filter_append, ← hcontents]
  congr 1
  -- What was added holds as many documents as it holds of the standard output.
  clear hmore hdocuments hcontents
  induction more with
  | nil => rfl
  | cons e more ih =>
      rw [List.forall_mem_cons] at hallowed
      rw [List.filter_cons, List.filterMap_cons, ih hallowed.2]
      cases e with
      | document content => rfl
      | logged layout entry => rfl
      | shown stream display =>
          have hstream : stream = .errors := hallowed.1.resolve_right (by rintro ⟨content, ⟨⟩⟩)
          rw [hstream]
          rfl
      | progress stream total description =>
          have hstream : stream = .errors := hallowed.1.resolve_right (by rintro ⟨content, ⟨⟩⟩)
          rw [hstream]
          rfl

namespace Generate

open Procedure

variable {around : Surroundings} {front choices : Choices} {settings : Settings}
  {backend : Backend} {paths : List Path} {run run' : Run} {result : Except Stop Unit}

/-! ### Which files succeed -/

/-- What the source files at some paths come to, in the order of their
discovery: there is a backend to ask, and each file has the result that it
comes to alone. -/
structure ComesTo (around : Surroundings) (settings : Settings) (paths : List Path) (run : Run)
    (results : Results) : Prop where
  found : Discovered run.workspace settings.excludePatterns paths (results.map Prod.fst)
  alone : ∃ backend, Chosen run.workspace settings backend
    ∧ ∀ i entry, results[i]? = some entry →
      (batchFor around run.workspace settings (results.map Prod.fst)).outcome
        (generatorFor around backend) i entry.1 = .settled entry.2

/-- The documentation of the files that succeed in a run with certain
choices, and the settings that it loads for that. -/
def Succeed (around : Surroundings) (front choices : Choices) (paths : List Path) (run : Run)
    (settings : Settings) (docs : List FileDoc) : Prop :=
  Settings.load run.workspace front.configFile choices.overrides = .ok settings
    ∧ ∃ results, ComesTo around settings paths run results ∧ docs = docsOf results

/-- One list of files is found at some paths: searching a tree depends on
nothing but the tree and the lines. -/
theorem Discovered.unique {ws : Workspace} {lines : List Text} {files files' : List Path}
    (h : Discovered ws lines paths files) (h' : Discovered ws lines paths files') :
    files = files' := by
  obtain ⟨founds, hfounds, rfl⟩ := h.found
  obtain ⟨founds', hfounds', rfl⟩ := h'.found
  have hsame : founds = founds' := by
    clear h h'
    induction hfounds generalizing founds' with
    | nil =>
        cases hfounds'
        rfl
    | cons hfirst _ ih =>
        cases hfounds' with
        | cons hfirst' hrest' =>
            rw [Except.ok.inj (hfirst.symm.trans hfirst'), ih _ hrest']
  rw [hsame]

/-- There is one backend that is chosen, since the settings and the
environment decide about it. -/
theorem Chosen.unique {ws : Workspace} {backend backend' : Backend}
    (h : Chosen ws settings backend) (h' : Chosen ws settings backend') : backend = backend' := by
  obtain ⟨config, hconfig, hcreate, -⟩ := h.exists_config
  obtain ⟨config', hconfig', hcreate', -⟩ := h'.exists_config
  obtain rfl := Except.ok.inj (hconfig.symm.trans hconfig')
  exact Except.ok.inj (hcreate.symm.trans hcreate')

/-- Settings that are refused lead to no backend that is chosen: it would
have no key. -/
theorem Refused.not_chosen {ws : Workspace} (h : Refused ws settings) :
    ¬ Chosen ws settings backend := by
  intro h'
  obtain ⟨config, hconfig, hrefused⟩ := h.exists_config
  obtain ⟨config', hconfig', hcreate, hkey⟩ := h'.exists_config
  obtain rfl := Except.ok.inj (hconfig.symm.trans hconfig')
  exact nomatch hkey.symm.trans (hrefused backend hcreate)

/-- Files that are the same have the same results, each of them alone at its
turn. What a provider answers may depend on the turn, so the lists are
compared position by position. -/
theorem results_unique {alone : Nat → Path → Generator.Outcome} {results results' : Results}
    (hlisted : results.map Prod.fst = results'.map Prod.fst)
    (h : ∀ i entry, results[i]? = some entry → alone i entry.1 = .settled entry.2)
    (h' : ∀ i entry, results'[i]? = some entry → alone i entry.1 = .settled entry.2) :
    results = results' := by
  refine List.ext_getElem? fun i => ?_
  have hpath := congrArg (·[i]?) hlisted
  simp only [List.getElem?_map] at hpath
  cases hentry : results[i]? with
  | none =>
      rw [hentry, Option.map_none] at hpath
      exact (Option.map_eq_none_iff.mp hpath.symm).symm
  | some entry =>
      rw [hentry, Option.map_some] at hpath
      obtain ⟨entry', hentry', hsame⟩ := Option.map_eq_some_iff.mp hpath.symm
      have hresult : Generator.Outcome.settled entry.2 = .settled entry'.2 := by
        rw [← h i entry hentry, ← h' i entry' hentry', hsame]
      rw [hentry', Prod.ext hsame.symm (Generator.Outcome.settled.inj hresult)]

/-- What the files come to is settled before they are documented, by the
files, the settings and the provider. -/
theorem ComesTo.unique {results results' : Results}
    (h : ComesTo around settings paths run results)
    (h' : ComesTo around settings paths run results') : results = results' := by
  obtain ⟨backend, hchosen, halone⟩ := h.alone
  obtain ⟨backend', hchosen', halone'⟩ := h'.alone
  have hlisted := h.found.unique h'.found
  rw [← hchosen.unique hchosen', ← hlisted] at halone'
  exact results_unique hlisted halone halone'

/-- There is one list of documents that a run can succeed with. The settings
are those that are loaded, and the results are settled file by file,
whatever order the replies come in. -/
theorem Succeed.unique {settings' : Settings} {docs docs' : List FileDoc}
    (h : Succeed around front choices paths run settings docs)
    (h' : Succeed around front choices paths run settings' docs') :
    settings = settings' ∧ docs = docs' := by
  obtain ⟨hload, results, hcomes, rfl⟩ := h
  obtain ⟨hload', results', hcomes', rfl⟩ := h'
  obtain rfl := Except.ok.inj (hload.symm.trans hload')
  exact ⟨rfl, congrArg docsOf (hcomes.unique hcomes')⟩

/-! ### What is brought out -/

/-- Behind the banner every step that shows something has been told where
to, so the standard output is left to the document. -/
theorem keepsToErrors_afterBanner (around : Surroundings) (front choices : Choices)
    (paths : List Path) : KeepsToErrors (afterBanner around front choices paths) :=
  (keepsToErrors_loadSettings _ _).bind fun settings =>
    emits_afterSettings admits_errors around choices paths settings

/-- With its document on the standard output, the command leaves everything
else to the error stream. -/
theorem exists_emitted (houtput : choices.toOutput = true)
    (h : (generate around front choices paths).on run = (result, run')) :
    ∃ more, run'.emissions = run.emissions ++ more
      ∧ ∀ e ∈ more, e.stream = .errors ∨ ∃ content, e = .document content := by
  -- The stream is directed before the banner, so no display comes from `run` itself.
  let redirected : Run := { run with stream := .errors }
  have hkeeps : KeepsToErrors (do tell (·.banner); afterBanner around front choices paths) :=
    (keepsToErrors_tell _).bind fun _ => keepsToErrors_afterBanner around front choices paths
  have hgenerate : (generate around front choices paths).on run
      = (do tell (·.banner); afterBanner around front choices paths).on redirected := by
    simp only [generate, afterBanner, houtput, if_true]
    rw [on_bind_of_ok (on_modify _ _)]
  obtain ⟨-, more, hmore, hallowed⟩ := hkeeps redirected rfl
  rw [← hgenerate, h] at hmore
  exact ⟨more, hmore, hallowed⟩

/-- Settings that cannot be loaded end the run, and nothing was done: the
run stops with something that was not foreseen, or with a status that is not
zero. Only words that ask for help end it with zero. -/
theorem loadSettings_of_fault {overrides : Settings.Values} {fault : Settings.Fault}
    (h : Settings.load run.workspace front.configFile overrides = .error fault)
    (hhelp : fault ≠ .words (.stopped 0)) {loaded : Except Stop Settings}
    (hrun : (loadSettings front overrides).on run = (loaded, run')) :
    Keeps run run' ∧ (Uncaught loaded ∨ ∃ status ≠ 0, loaded = .error (.exit status)) := by
  rcases loadSettings_on_of_fault h with ⟨hinvalid, -⟩ | ⟨status, hwords, hon⟩ | ⟨-, -, hon⟩
  · obtain ⟨result, between, hon, hkept, hcases⟩ := loadSettings_of_invalid h hinvalid
    obtain ⟨rfl, rfl⟩ := Prod.mk.inj (hon.symm.trans hrun)
    rcases hcases with ⟨rfl, -⟩ | ⟨refusal, rfl, -⟩
    · exact ⟨hkept, .inr ⟨1, Nat.one_ne_zero, rfl⟩⟩
    · exact ⟨hkept, .inl (.inl ⟨refusal, rfl⟩)⟩
  · -- The words have ended the run by themselves.
    obtain ⟨rfl, rfl⟩ := Prod.mk.inj (hon.symm.trans hrun)
    exact ⟨.log _ run, .inr ⟨status, fun hzero => hhelp (hzero ▸ hwords), rfl⟩⟩
  · obtain ⟨rfl, rfl⟩ := Prod.mk.inj (hon.symm.trans hrun)
    exact ⟨.log _ run, .inl (.inl ⟨_, rfl⟩)⟩

/-- Without settings no document is brought out, whether their fault is
reported or not. -/
theorem documents_of_fault {fault : Settings.Fault}
    (hload : Settings.load run.workspace front.configFile choices.overrides = .error fault)
    (hhelp : fault ≠ .words (.stopped 0))
    (h : (generate around front choices paths).on run = (result, run')) :
    run'.documents = run.documents := by
  have hbegun := keeps_begun choices run
  rw [generate_on, afterBanner] at h
  cases hloaded : (loadSettings front choices.overrides).on (begun choices run) with
  | mk loaded between =>
  obtain ⟨hkept, hstop | ⟨status, -, rfl⟩⟩ :=
    loadSettings_of_fault (hbegun.workspace ▸ hload) hhelp hloaded
  · obtain ⟨-, rfl⟩ := on_bind_of_uncaught hloaded hstop h
    exact (hbegun.trans hkept).documents
  · rw [on_bind_of_error hloaded] at h
    obtain ⟨-, rfl⟩ := Prod.mk.inj h
    exact (hbegun.trans hkept).documents

/-- What becomes of the documents of a run that ends as foreseen: there is
one more if a file has succeeded, and none otherwise. All the ways in which
the standard output refuses something are uncaught, so they do not come up
here. -/
theorem documents_cases (houtput : choices.toOutput = true)
    (hload : Settings.load run.workspace front.configFile choices.overrides = .ok settings)
    (h : (generate around front choices paths).on run = (result, run'))
    (hforeseen : ¬ Uncaught result) :
    (run'.documents = run.documents
        ∧ ∀ results, ComesTo around settings paths run results → docsOf results = [])
      ∨ ∃ results content, ComesTo around settings paths run results ∧ docsOf results ≠ []
        ∧ Document.renderAt? settings.outputFormat around.moment (docsOf results) = some content
        ∧ run'.documents = run.documents ++ [Control.dropSequences content] := by
  rcases generate_cases around paths hload h with
    ⟨message, rfl, -⟩ | ⟨hnone, -, hkept⟩ | ⟨files, found, hfound, hsome, hkept, hfaces, hprocess⟩
  · exact absurd (.inl ⟨message, rfl⟩) hforeseen
  · refine .inl ⟨hkept.documents, fun results hcomes => ?_⟩
    rw [List.map_eq_nil_iff.mp (hcomes.found.unique hnone)]
    rfl
  have hends := (process_ends (hkept.workspace ▸ hfound) hsome hfaces hprocess).of_keeps hkept
  -- Most of the ends were not foreseen, and one is not that of files that were found.
  cases hends with
  | stopped => exact absurd (.inl ⟨_, rfl⟩) hforeseen
  | unprepared => exact absurd (.inl ⟨_, rfl⟩) hforeseen
  | broken _ _ _ _ hstop => exact absurd hstop hforeseen
  | uncounted => exact absurd (.inl ⟨_, rfl⟩) hforeseen
  | nothingFound hnone => exact absurd (hfound.unique hnone) hsome
  | refused _ _ hrefused hsame =>
      -- Without a backend no file comes to anything.
      refine .inl ⟨hsame.documents, fun results hcomes => ?_⟩
      obtain ⟨backend, hchosen, -⟩ := hcomes.alone
      exact absurd hchosen hrefused.not_chosen
  | @concluded _ backend results _ _ hfound _ hchosen hgenerated hconcludes =>
      obtain rfl := hgenerated.listed
      have hcomes : ComesTo around settings paths run results :=
        ⟨hfound, backend, hchosen, hgenerated.alone⟩
      cases hconcludes with
      | untold => exact absurd (.inl ⟨_, rfl⟩) hforeseen
      | lost => exact absurd (.inl ⟨_, rfl⟩) hforeseen
      | unannounced => exact absurd (.inl ⟨_, rfl⟩) hforeseen
      | delivered hdelivered =>
      rw [houtput] at hdelivered
      cases hdelivered with
      | nothing hnone _ hsame =>
          exact .inl ⟨hsame, fun results' hcomes' => hcomes'.unique hcomes ▸ hnone⟩
      | printed hsome _ hcontent _ hprinted =>
          exact .inr ⟨results, _, hcomes, hsome, hcontent, hprinted⟩
      | written _ hwritten => exact nomatch hwritten

/-- What a run prints for other programs. -/
structure Piped (around : Surroundings) (front choices : Choices) (paths : List Path) (run : Run)
    (printed : List Emission) : Prop where
  /-- Something is printed if and only if a file succeeds. -/
  some_iff : printed ≠ []
    ↔ ∃ settings docs, Succeed around front choices paths run settings docs ∧ docs ≠ []
  /-- It is the document of the files that do, without control sequences. -/
  document : ∀ {settings docs}, Succeed around front choices paths run settings docs → docs ≠ [] →
    ∃ content, Document.renderAt? settings.outputFormat around.moment docs = some content
      ∧ printed = [.document (Control.dropSequences content)]
      ∧ (Control.escape ∉ content → printed = [.document content])

/-- **The standard output holds the document and nothing else.** Whatever
the paths, the configuration and the answers of the service are, and however
the run ends, as long as that was foreseen: with the choice of the standard
output, what the command brings out there is one document if a file has
succeeded, and nothing otherwise. Banner, messages, tables and log lines are
on the error stream.

The document is the one that is rendered from the files that have succeeded,
in the order of their discovery, if it has no escapes. Otherwise the control
sequences in it are missing. -/
theorem output_holds_the_document (houtput : choices.toOutput = true)
    (hhelp : Settings.load run.workspace front.configFile choices.overrides
      ≠ .error (.words (.stopped 0)))
    (h : (generate around front choices paths).on run = (result, run'))
    (hforeseen : ¬ Uncaught result) :
    ∃ printed, run'.standardOutput = run.standardOutput ++ printed
      ∧ Piped around front choices paths run printed := by
  obtain ⟨more, hmore, hallowed⟩ := exists_emitted houtput h
  -- Without documentation nothing was printed.
  have hnothing : run'.documents = run.documents →
      (∀ settings docs, Succeed around front choices paths run settings docs → docs = []) →
      ∃ printed, run'.standardOutput = run.standardOutput ++ printed
        ∧ Piped around front choices paths run printed := by
    refine fun hsame hnone => ⟨[], ?_, ?_, fun hsucceed hsome => absurd (hnone _ _ hsucceed) hsome⟩
    · exact Run.standardOutput_eq hmore hallowed (hsame.trans (List.append_nil _).symm)
    · exact iff_of_false (fun h => h rfl) fun ⟨_, _, hsucceed, hsome⟩ => hsome (hnone _ _ hsucceed)
  cases hload : Settings.load run.workspace front.configFile choices.overrides with
  | error fault =>
      refine hnothing (documents_of_fault hload (fun heq => hhelp (heq ▸ hload)) h)
        fun settings docs hsucceed => nomatch hload.symm.trans hsucceed.1
  | ok settings =>
      rcases documents_cases houtput hload h hforeseen with
        ⟨hsame, hnone⟩ | ⟨results, content, hcomes, hsome, hcontent, hprinted⟩
      · refine hnothing hsame fun settings' docs ⟨hload', results, hcomes, hdocs⟩ => ?_
        obtain rfl := Except.ok.inj (hload.symm.trans hload')
        exact hdocs.trans (hnone results hcomes)
      have hdocs : Succeed around front choices paths run settings (docsOf results) :=
        ⟨hload, results, hcomes, rfl⟩
      refine ⟨_, Run.standardOutput_eq hmore hallowed hprinted,
        iff_of_true (List.cons_ne_nil _ _) ⟨settings, _, hdocs, hsome⟩, fun hdocs' _ => ?_⟩
      obtain ⟨rfl, rfl⟩ := hdocs.unique hdocs'
      refine ⟨content, hcontent, rfl, fun hescape => ?_⟩
      rw [Control.dropSequences_of_not_mem content hescape]
      rfl

/-- The file is documented on the standard output. -/
def redPiped : Except Stop Unit × Run :=
  (generate reddening .none printing [Path.ofText "a.py"]).on (Run.start oneFile)

/-- Nothing is said of any setting. -/
theorem load_printing :
    Settings.load (Run.start oneFile).workspace Choices.none.configFile printing.overrides
      = .ok usualSettings := by
  rfl

/-- The file has succeeded, and its document is printed without control
sequences. -/
theorem redPiped_standardOutput :
    redPiped.1.toBool = true
      ∧ redPiped.2.standardOutput
        = ((Document.renderAt? .markdown reddening.moment [redDoc]).map
          fun content => .document (Control.dropSequences content)).toList := by
  decide +kernel

/-- One document, and nothing beside it. Without its control sequences it is
not the document that was made. -/
theorem redPiped_prints :
    printing.toOutput = true
      ∧ Settings.load (Run.start oneFile).workspace Choices.none.configFile printing.overrides
        ≠ .error (.words (.stopped 0))
      ∧ ¬ Uncaught redPiped.1
      ∧ redPiped.2.standardOutput.length = 1
      ∧ ∃ printed, redPiped.2.standardOutput = (Run.start oneFile).standardOutput ++ printed
        ∧ Piped reddening .none printing [Path.ofText "a.py"] (Run.start oneFile) printed := by
  obtain ⟨hdone, hprinted⟩ := redPiped_standardOutput
  have hhelp : Settings.load (Run.start oneFile).workspace Choices.none.configFile
      printing.overrides ≠ .error (.words (.stopped 0)) :=
    fun heq => nomatch load_printing.symm.trans heq
  have hforeseen : ¬ Uncaught redPiped.1 := by
    rintro (⟨message, heq⟩ | heq) <;> rw [heq] at hdone <;> exact nomatch hdone
  have hone : redPiped.2.standardOutput.length = 1 := by
    rw [hprinted]
    decide +kernel
  have hrun : redPiped = (redPiped.1, redPiped.2) := (Prod.eta redPiped).symm
  exact ⟨rfl, hhelp, hforeseen, hone, output_holds_the_document rfl hhelp hrun hforeseen⟩

/-- The backend that a run with a key and no other settings asks. -/
def usualBackend : Backend :=
  { service := .hosted
    config :=
      { provider := "openai", model := none, apiKey := some "k", baseUrl := none
        temperature := Backend.Config.defaultTemperature
        maxTokens := Backend.Config.defaultMaxTokens, timeout := none, parameters := [] } }

/-- Whether a file comes to a documentation. -/
def comesTo (doc : FileDoc) : Generator.Outcome → Bool
  | .settled (.ok found) => decide (found = doc)
  | _ => false

/-- An outcome that passes the test is this document. The test is there to
be run; outcomes as such cannot be compared. -/
theorem eq_of_comesTo {doc : FileDoc} {outcome : Generator.Outcome}
    (h : comesTo doc outcome = true) : outcome = .settled (.ok doc) := by
  rw [comesTo.eq_def] at h
  split at h
  · rw [of_decide_eq_true h]
  · cases h

/-- The file comes to the document in red: its overview has a control
sequence for a colour. -/
theorem outcome_redDoc :
    (batchFor reddening oneFile usualSettings [Path.ofText "/a.py"]).outcome
      (generatorFor reddening usualBackend) 0 (Path.ofText "/a.py") = .settled (.ok redDoc) := by
  have hdoc : comesTo redDoc
      ((batchFor reddening oneFile usualSettings [Path.ofText "/a.py"]).outcome
        (generatorFor reddening usualBackend) 0 (Path.ofText "/a.py")) = true := by
    decide +kernel
  exact eq_of_comesTo hdoc

/-- The run that is told to print its document succeeds: its one file comes
to a document whose overview has a control sequence in it. -/
theorem redDoc_succeeds :
    Succeed reddening .none printing [Path.ofText "a.py"] (Run.start oneFile) usualSettings
      [redDoc] := by
  have hfind : (Discovery.find oneFile (Path.ofText "a.py") []).2
      = .ok [Path.ofText "/a.py"] := by decide +kernel
  have hchosen : Chosen oneFile usualSettings usualBackend :=
    ⟨usualBackend.config, rfl, rfl, by decide +kernel⟩
  refine ⟨load_printing, [(Path.ofText "/a.py", .ok redDoc)],
    ⟨⟨⟨[[Path.ofText "/a.py"]], ?_, rfl⟩, ?_⟩,
      usualBackend, hchosen, ?_⟩, rfl⟩
  · exact .cons hfind .nil
  · exact List.nodup_singleton _
  · rintro (_ | i) entry hentry
    · obtain rfl := Option.some.inj hentry
      exact outcome_redDoc
    · cases hentry

/-- The file has succeeded, and what is on the standard output is not its
document. -/
theorem redPiped_altered :
    Succeed reddening .none printing [Path.ofText "a.py"] (Run.start oneFile) usualSettings
        [redDoc]
      ∧ redPiped.1.toBool = true
      ∧ (Document.renderAt? .markdown reddening.moment [redDoc]).isSome = true
      ∧ redPiped.2.standardOutput
        ≠ ((Document.renderAt? .markdown reddening.moment [redDoc]).map .document).toList := by
  obtain ⟨hdone, hprinted⟩ := redPiped_standardOutput
  rw [hprinted]
  exact ⟨redDoc_succeeds, hdone, by decide +kernel, by decide +kernel⟩

end Generate

end DocScribe.CommandLine
