import DocScribe.Proofs.CommandLine.Emitting
import DocScribe.Proofs.Generation.Prompts
import DocScribe.Proofs.Workspace.Writing

/-!
# `DocScribe.Proofs.CommandLine.Delivering`: how documentation leaves a run

Where there is documentation, its document is rendered at the moment of
the run and either brought out or written (`publish_cases`). What is
written is the document, byte for byte. What is brought out is the document
without control sequences, even if nobody has asked for that. The ways in
which a document is lost have names of their own (`Lost`): its moment has no
text, the standard output does not take it, or it cannot be written.

A document that was written is there also if the standard output does not
take the message about it. The run stops then, as if something had gone
wrong.
-/

set_option autoImplicit false

namespace DocScribe.CommandLine.Generate

open Procedure

variable {around : Surroundings} {settings : Settings} {toOutput : Bool} {terminal : Terminal}
  {docs : List FileDoc} {run run' : Run}

/-- How documentation leaves a run: not at all if there is none, on the
standard output, where a reader gets no control sequences, or as the file
that is named for its format. -/
inductive Delivered (around : Surroundings) (settings : Settings) (toOutput : Bool)
    (docs : List FileDoc) (run run' : Run) : Prop
  | nothing : docs = [] → run'.workspace = run.workspace → run'.documents = run.documents →
      Delivered around settings toOutput docs run run'
  | printed {content : Text} : docs ≠ [] → toOutput = true →
      Document.renderAt? settings.outputFormat around.moment docs = some content →
      run'.workspace = run.workspace →
      run'.documents = run.documents ++ [Control.dropSequences content] →
      Delivered around settings toOutput docs run run'
  | written {content : Text} {bytes : List UInt8} : docs ≠ [] → toOutput = false →
      Document.renderAt? settings.outputFormat around.moment docs = some content →
      Utf8.encode content = .ok bytes →
      run'.workspace.readBytes
        (Document.target settings.outputFolder settings.outputFormat.word) = .ok bytes →
      run'.documents = run.documents →
      Delivered around settings toOutput docs run run'

/-- Why documentation could not leave a run, with what is said of it: the
moment has no text, the standard output refuses the document, or the
document cannot be written. -/
inductive Lost (around : Surroundings) (settings : Settings) (toOutput : Bool)
    (docs : List FileDoc) (run : Run) : Text → Prop
  | undated : docs ≠ [] → Document.renderAt? settings.outputFormat around.moment docs = none →
      Lost around settings toOutput docs run noSuchMoment
  | unprinted {content message : Text} : docs ≠ [] → toOutput = true →
      Document.renderAt? settings.outputFormat around.moment docs = some content →
      run.outlet.refusal? (.document (Control.dropSequences content)) = some message →
      Lost around settings toOutput docs run message
  | unwritten {content : Text} {fault : FileFault} : docs ≠ [] → toOutput = false →
      Document.renderAt? settings.outputFormat around.moment docs = some content →
      (Document.publish run.workspace content settings.outputFolder settings.outputFormat.word
        false).2.2 = .error fault →
      Lost around settings toOutput docs run fault.message

/-- Only the files and the documents count for whether documentation was
delivered. So messages before and behind make no difference. -/
theorem Delivered.of_eq {between between' : Run}
    (h : Delivered around settings toOutput docs between between')
    (hworkspace : between.workspace = run.workspace)
    (hdocuments : between.documents = run.documents)
    (hworkspace' : run'.workspace = between'.workspace)
    (hdocuments' : run'.documents = between'.documents) :
    Delivered around settings toOutput docs run run' := by
  cases h with
  | nothing hnone hkept hsame =>
      exact .nothing hnone (hworkspace'.trans (hkept.trans hworkspace))
        (hdocuments'.trans (hsame.trans hdocuments))
  | printed hsome houtput hcontent hkept hprinted =>
      refine .printed hsome houtput hcontent (hworkspace'.trans (hkept.trans hworkspace)) ?_
      rw [hdocuments', hprinted, hdocuments]
  | written hsome houtput hcontent hbytes hread hsame =>
      exact .written hsome houtput hcontent hbytes (hworkspace' ▸ hread)
        (hdocuments'.trans (hsame.trans hdocuments))

/-- Of a document that is lost, only the files and the standard output
count. -/
theorem Lost.of_eq {between : Run} {message : Text}
    (h : Lost around settings toOutput docs between message)
    (hworkspace : between.workspace = run.workspace) (houtlet : between.outlet = run.outlet) :
    Lost around settings toOutput docs run message := by
  cases h with
  | undated hsome hnone => exact .undated hsome hnone
  | unprinted hsome houtput hcontent hrefused =>
      exact .unprinted hsome houtput hcontent (houtlet ▸ hrefused)
  | unwritten hsome houtput hcontent hpublish =>
      exact .unwritten hsome houtput hcontent (hworkspace ▸ hpublish)

/-- The file that the document is written to. -/
def targetOf (settings : Settings) : Path :=
  Document.target settings.outputFolder settings.outputFormat.word

/-- What is shown of a document that was written. -/
def writtenNotice (terminal : Terminal) (settings : Settings) : List Display :=
  terminal.success ("Documentation written to " ++ (targetOf settings).toText)

/-- A document is written, or the run stops with the fault of writing it.
What was written stays, also if the standard output refuses the message
about it. -/
theorem writeDocument_cases {content : Text} {result : Except Stop Path}
    (hfaces : Faces toOutput terminal run.stream run.terminal)
    (h : (writeDocument settings content).on run = (result, run')) :
    run'.inquiries = run.inquiries ∧ run'.documents = run.documents ∧ run'.outlet = run.outlet
      ∧ ((∃ bytes, Utf8.encode content = .ok bytes
          ∧ run'.workspace.readBytes (targetOf settings) = .ok bytes
          ∧ (result = .ok (targetOf settings) ∨ ∃ message, result = .error (.unexpected message)
            ∧ Unshown run.outlet toOutput (writtenNotice terminal settings) message))
        ∨ ∃ fault, result = .error (.unexpected fault.message)
          ∧ (Document.publish run.workspace content settings.outputFolder
            settings.outputFormat.word false).2.2 = .error fault) := by
  cases hpublish : Document.publish run.workspace content settings.outputFolder
    settings.outputFormat.word false with
  | mk ws published =>
      obtain ⟨logged, outcome⟩ := published
      rw [writeDocument_on hpublish] at h
      unfold afterPublishing at h
      rw [on_bind_of_ok (on_log _ _)] at h
      -- Whatever was written is there already; what follows keeps it.
      have hlogged := Keeps.log logged { run with workspace := ws }
      cases outcome with
      | error fault =>
          obtain ⟨rfl, rfl⟩ := Prod.mk.inj h
          exact ⟨hlogged.inquiries, hlogged.documents, hlogged.outlet, .inr ⟨fault, rfl, rfl⟩⟩
      | ok path =>
          obtain ⟨rfl, bytes, hbytes, hread⟩ := Document.readBytes_publish hpublish
          cases htell : (tell (·.success ("Documentation written to "
            ++ (Document.target settings.outputFolder settings.outputFormat.word).toText))).on
              (Run.log { run with workspace := ws } logged) with | mk told between =>
          have hready : Faces toOutput terminal (Run.log { run with workspace := ws } logged).stream
            (Run.log { run with workspace := ws } logged).terminal := hfaces
          obtain ⟨htold, -, rfl | ⟨message, rfl, hunshown⟩⟩ := tell_faces hready htell
          · rw [on_bind_of_ok htell] at h
            obtain ⟨rfl, rfl⟩ := Prod.mk.inj h
            replace htold := hlogged.trans htold
            exact ⟨htold.inquiries, htold.documents, htold.outlet,
              .inl ⟨bytes, hbytes, htold.workspace ▸ hread, .inl rfl⟩⟩
          · obtain ⟨rfl, rfl⟩ := eq_of_stopped htell h
            replace htold := hlogged.trans htold
            exact ⟨htold.inquiries, htold.documents, htold.outlet,
              .inl ⟨bytes, hbytes, htold.workspace ▸ hread, .inr ⟨message, rfl, hunshown⟩⟩⟩

/-- What the summary of a run says of where its document went, if that is a
file. -/
def writtenTo (settings : Settings) (docs : List FileDoc) : Option Text :=
  if docs.isEmpty then none else some (targetOf settings).toText

/-- What the step that publishes documentation comes to. -/
inductive Published (around : Surroundings) (settings : Settings) (toOutput : Bool)
    (terminal : Terminal) (docs : List FileDoc) (run : Run) :
    Except Stop (Option Path) → Run → Prop
  /-- It is delivered, and the path is that of the file that was written, if
  there is one. -/
  | delivered {path : Option Path} {run' : Run} :
      Delivered around settings toOutput docs run run' →
      (toOutput = false → path.map Path.toText = writtenTo settings docs) →
      Published around settings toOutput terminal docs run (.ok path) run'
  /-- It is delivered, but the standard output refuses the message about
  that. -/
  | unannounced {message : Text} {run' : Run} : docs ≠ [] →
      Delivered around settings toOutput docs run run' →
      Unshown run.outlet toOutput (writtenNotice terminal settings) message →
      Published around settings toOutput terminal docs run (.error (.unexpected message)) run'
  /-- It is lost, and nothing was brought out. -/
  | lost {message : Text} {run' : Run} : Lost around settings toOutput docs run message →
      run'.documents = run.documents →
      Published around settings toOutput terminal docs run (.error (.unexpected message)) run'

variable {content : Text} {result : Except Stop (Option Path)}

/-- A document that goes to the standard output is brought out there or
refused. No file has a part in this. -/
theorem published_of_bringOut (terminal : Terminal) (hsome : docs ≠ [])
    (hcontent : Document.renderAt? settings.outputFormat around.moment docs = some content)
    (h : (do bringOut content; pure none : Procedure (Option Path)).on run = (result, run')) :
    run'.inquiries = run.inquiries ∧ run'.outlet = run.outlet
      ∧ Published around settings true terminal docs run result run' := by
  cases hout : (bringOut content).on run with | mk brought between =>
  rcases bringOut_cases hout with ⟨rfl, rfl⟩ | ⟨message, rfl, rfl, hrefused⟩
  · rw [on_bind_of_ok hout] at h
    obtain ⟨rfl, rfl⟩ := Prod.mk.inj h
    have hprinted := run.documents_emit_document (Control.dropSequences content)
    exact ⟨rfl, rfl, .delivered (.printed hsome rfl hcontent rfl hprinted) (by rintro ⟨⟩)⟩
  · obtain ⟨rfl, rfl⟩ := eq_of_stopped hout h
    exact ⟨rfl, rfl, .lost (.unprinted hsome rfl hcontent hrefused) rfl⟩

/-- A document that goes to a file is written, and the run may stop at the
message about it, or it cannot be written. -/
theorem published_of_writeDocument (hsome : docs ≠ [])
    (hcontent : Document.renderAt? settings.outputFormat around.moment docs = some content)
    (hfaces : Faces false terminal run.stream run.terminal)
    (h : (do pure (some (← writeDocument settings content)) : Procedure (Option Path)).on run
      = (result, run')) :
    run'.inquiries = run.inquiries ∧ run'.outlet = run.outlet
      ∧ Published around settings false terminal docs run result run' := by
  cases hwrite : (writeDocument settings content).on run with | mk written between =>
  obtain ⟨hinquiries, hdocuments, houtlet, hwritten⟩ := writeDocument_cases hfaces hwrite
  rcases hwritten with ⟨bytes, hbytes, hread, hshown⟩ | ⟨fault, rfl, hpublish⟩
  swap
  · obtain ⟨rfl, rfl⟩ := eq_of_stopped hwrite h
    exact ⟨hinquiries, houtlet, .lost (.unwritten hsome rfl hcontent hpublish) hdocuments⟩
  have hdelivered : Delivered around settings false docs run between :=
    .written hsome rfl hcontent hbytes hread hdocuments
  rcases hshown with rfl | ⟨message, rfl, hunshown⟩
  · rw [on_bind_of_ok hwrite] at h
    obtain ⟨rfl, rfl⟩ := Prod.mk.inj h
    refine ⟨hinquiries, houtlet, .delivered hdelivered fun _ => ?_⟩
    rw [writtenTo, if_neg (mt List.isEmpty_iff.mp hsome)]
    rfl
  · obtain ⟨rfl, rfl⟩ := eq_of_stopped hwrite h
    exact ⟨hinquiries, houtlet, .unannounced hsome hdelivered hunshown⟩

/-- Documentation is delivered or lost, or delivered without a message about
it. The cases follow the command: nothing to deliver, a moment without a
date, and then the two ways that a document can go. -/
theorem publish_cases (hfaces : Faces toOutput terminal run.stream run.terminal)
    (h : (publish around settings toOutput docs).on run = (result, run')) :
    run'.inquiries = run.inquiries ∧ run'.outlet = run.outlet
      ∧ Published around settings toOutput terminal docs run result run' := by
  rw [publish] at h
  split at h
  · next hempty =>
    have hnone : docs = [] := List.isEmpty_iff.mp hempty
    have hwarned : (tell (·.warning "No documentation was generated")).on run
        = (.ok (), run.display (run.terminal.warning "No documentation was generated")) :=
      on_tell_status (by decide) (by decide) run
    rw [on_bind_of_ok hwarned] at h
    obtain ⟨rfl, rfl⟩ := Prod.mk.inj h
    have hshown := Keeps.display (run.terminal.warning "No documentation was generated") run
    refine ⟨hshown.inquiries, hshown.outlet,
      .delivered (.nothing hnone hshown.workspace hshown.documents) fun _ => ?_⟩
    rw [writtenTo, if_pos hempty]
    rfl
  next hempty =>
  have hsome : docs ≠ [] := mt List.isEmpty_iff.mpr hempty
  rw [documentOf] at h
  cases hcontent : Document.renderAt? settings.outputFormat around.moment docs with
  | none =>
      rw [hcontent] at h
      obtain ⟨rfl, rfl⟩ := eq_of_stopped (on_throw _ _) h
      exact ⟨rfl, rfl, .lost (.undated hsome hcontent) rfl⟩
  | some content =>
      rw [hcontent, on_bind_of_ok (on_pure _ _)] at h
      cases toOutput with
      | true => exact published_of_bringOut terminal hsome hcontent h
      | false => exact published_of_writeDocument hsome hcontent hfaces h

/-! ### Behind the results -/

/-- Files with what they have come to. -/
abbrev Results := List (Path × Except GenerationError FileDoc)

/-- The documentation of the files that succeeded. -/
def docsOf (results : Results) : List FileDoc :=
  results.filterMap fun entry => entry.2.toOption

/-- The end of a run whose files have come to results. -/
def statusOf (results : Results) : Except Stop Unit :=
  if results.all (·.2.toBool) then .ok () else .error (.exit 1)

/-- The report on some results. -/
def reportOf (results : Results) : Batch.Report :=
  ⟨docsOf results, results.filterMap Batch.failure?⟩

/-- Whether files failed is seen from the report, and nothing else decides
on the status of a run that delivers. -/
theorem statusOf_eq (results : Results) :
    statusOf results = if (reportOf results).hasFailures then .error (.exit 1) else .ok () := by
  rw [statusOf, Batch.Report.hasFailures, reportOf]
  induction results with
  | nil => rfl
  | cons entry results ih =>
      obtain ⟨path, result⟩ := entry
      cases result with
      | ok doc => exact ih
      | error e => rfl

/-- What is left to do once there is a report: to show it, to deliver the
documentation, to sum up, and to say by the status whether files failed. -/
def afterReport (around : Surroundings) (settings : Settings) (toOutput : Bool)
    (report : Batch.Report) : Procedure Unit := do
  showResults report
  let path ← publish around settings toOutput report.docs
  log [Log.info "processing_complete"]
  tell fun t => t.statistics report.docs report.failures.length around.seconds
    (path.map Path.toText)
  if report.hasFailures then throw (.exit 1)

/-- What is shown of a report: the failures, and to whoever wants details
what became of each file. -/
def resultNotice (terminal : Terminal) (report : Batch.Report) : List Display :=
  report.failures.flatMap (fun failure => terminal.error (failureLine failure))
    ++ if terminal.verbose then
        report.docs.flatMap terminal.fileSummary
          ++ terminal.failures (report.failures.map shownFailure)
      else []

/-- What is shown of a run that is through. -/
def summaryNotice (around : Surroundings) (settings : Settings) (terminal : Terminal)
    (report : Batch.Report) : List Display :=
  terminal.statistics report.docs report.failures.length around.seconds
    (writtenTo settings report.docs)

/-- How a run with results goes on. -/
inductive Concludes (around : Surroundings) (settings : Settings) (toOutput : Bool)
    (terminal : Terminal) (results : Results) (run : Run) : Except Stop Unit → Run → Prop
  /-- The documentation of the files that succeeded is delivered, and the
  status tells whether any failed. -/
  | delivered {run' : Run} : Delivered around settings toOutput (docsOf results) run run' →
      Concludes around settings toOutput terminal results run (statusOf results) run'
  /-- The standard output refuses something that is shown of the results. -/
  | untold {message : Text} {run' : Run} :
      Unshown run.outlet toOutput (resultNotice terminal (reportOf results)) message →
      run'.workspace = run.workspace → run'.documents = run.documents →
      Concludes around settings toOutput terminal results run (.error (.unexpected message)) run'
  /-- The document cannot be made, brought out or written. -/
  | lost {message : Text} {run' : Run} :
      Lost around settings toOutput (docsOf results) run message →
      run'.documents = run.documents →
      Concludes around settings toOutput terminal results run (.error (.unexpected message)) run'
  /-- The documentation is delivered, but the standard output refuses the
  message about that, or the summary. -/
  | unannounced {message : Text} {run' : Run} :
      Delivered around settings toOutput (docsOf results) run run' →
      (docsOf results ≠ [] ∧ Unshown run.outlet toOutput (writtenNotice terminal settings) message
        ∨ Unshown run.outlet toOutput
          (summaryNotice around settings terminal (reportOf results)) message) →
      Concludes around settings toOutput terminal results run (.error (.unexpected message)) run'

/-- Of a run with results, only the files, the documents and the standard
output count. -/
theorem Concludes.of_eq {results : Results} {result : Except Stop Unit} {between : Run}
    (h : Concludes around settings toOutput terminal results between result run')
    (hworkspace : between.workspace = run.workspace)
    (hdocuments : between.documents = run.documents) (houtlet : between.outlet = run.outlet) :
    Concludes around settings toOutput terminal results run result run' := by
  cases h with
  | delivered hdelivered => exact .delivered (hdelivered.of_eq hworkspace hdocuments rfl rfl)
  | untold hrefused hkept hsame =>
      exact .untold (houtlet ▸ hrefused) (hkept.trans hworkspace) (hsame.trans hdocuments)
  | lost hlost hsame => exact .lost (hlost.of_eq hworkspace houtlet) (hsame.trans hdocuments)
  | unannounced hdelivered hrefused =>
      exact .unannounced (hdelivered.of_eq hworkspace hdocuments rfl rfl) (houtlet ▸ hrefused)

variable {report : Batch.Report} {results : Results}

/-- The failures are shown, or the standard output refuses them. A line for
a file that failed may hold any text, which is how a document can be lost to
what is said about another file. -/
theorem showResults_cases {result : Except Stop Unit}
    (hfaces : Faces toOutput terminal run.stream run.terminal)
    (h : (showResults report).on run = (result, run')) :
    Keeps run run' ∧ Faces toOutput terminal run'.stream run'.terminal
      ∧ (result = .ok () ∨ ∃ message, result = .error (.unexpected message)
        ∧ Unshown run.outlet toOutput (resultNotice terminal report) message) := by
  rw [showResults] at h
  cases hfailures : (tell fun t => report.failures.flatMap fun failure =>
    t.error (failureLine failure)).on run with | mk listed between =>
  obtain ⟨hkept, hfaces', rfl | ⟨message, rfl, houtput, display, hdisplay, hrefused⟩⟩ :=
    tell_faces hfaces hfailures
  · rw [on_bind_of_ok hfailures] at h
    obtain ⟨hkept', hfaces'', hshown⟩ := tell_faces hfaces' h
    refine ⟨hkept.trans hkept', hfaces'', hshown.imp_right ?_⟩
    rintro ⟨message, rfl, houtput, display, hdisplay, hrefused⟩
    exact ⟨message, rfl, houtput, display, List.mem_append_right _ hdisplay,
      hkept.outlet ▸ hrefused⟩
  · obtain ⟨rfl, rfl⟩ := eq_of_stopped hfailures h
    exact ⟨hkept, hfaces', .inr ⟨message, rfl, houtput, display,
      List.mem_append_left _ hdisplay, hrefused⟩⟩

/-- The last steps of a run with a report: what was logged and shown of the
files is summed up, and the status says whether any failed. -/
def sumUp (around : Surroundings) (report : Batch.Report) (path : Option Path) :
    Procedure Unit := do
  log [Log.info "processing_complete"]
  tell fun t => t.statistics report.docs report.failures.length around.seconds
    (path.map Path.toText)
  if report.hasFailures then throw (.exit 1)

/-- Where documentation is delivered a run ends with the status of its files,
unless the standard output refuses the summary. -/
theorem sumUp_cases {path : Option Path} {result : Except Stop Unit} {delivered : Run}
    (hdelivered : Delivered around settings toOutput (docsOf results) run delivered)
    (hpath : toOutput = false → path.map Path.toText = writtenTo settings (docsOf results))
    (houtlet : delivered.outlet = run.outlet)
    (hfaces : Faces toOutput terminal delivered.stream delivered.terminal)
    (h : (sumUp around (reportOf results) path).on delivered = (result, run')) :
    run'.inquiries = delivered.inquiries
      ∧ Concludes around settings toOutput terminal results run result run' := by
  rw [sumUp, on_bind_of_ok (on_log _ _)] at h
  have hlogged := Keeps.log [Log.info "processing_complete"] delivered
  have hready := hfaces.log [Log.info "processing_complete"]
  generalize delivered.log [Log.info "processing_complete"] = logged at h hlogged hready
  cases hsum : (tell fun t => t.statistics (reportOf results).docs
    (reportOf results).failures.length around.seconds (path.map Path.toText)).on logged with
  | mk summed finished =>
  obtain ⟨hfinished, -, hsummed⟩ := tell_faces hready hsum
  replace hfinished := hlogged.trans hfinished
  replace hdelivered := hdelivered.of_eq rfl rfl hfinished.workspace hfinished.documents
  rcases hsummed with rfl | ⟨message, rfl, houtput, hrefused⟩
  · rw [on_bind_of_ok hsum] at h
    have hend : (result, run') = (statusOf results, finished) := by
      rw [← h, statusOf_eq]
      split <;> rfl
    obtain ⟨rfl, rfl⟩ := Prod.mk.inj hend
    exact ⟨hfinished.inquiries, .delivered hdelivered⟩
  · obtain ⟨rfl, rfl⟩ := eq_of_stopped hsum h
    rw [hpath houtput, hlogged.outlet, houtlet] at hrefused
    exact ⟨hfinished.inquiries, .unannounced hdelivered (.inr ⟨houtput, hrefused⟩)⟩

/-- What follows on a report asks nobody anything, and it ends in one of the
ways that `Concludes` has: each message on the way may be refused by the
standard output, and then the run stops where it is. What was delivered
before stays. -/
theorem afterReport_cases {result : Except Stop Unit}
    (hfaces : Faces toOutput terminal run.stream run.terminal)
    (h : (afterReport around settings toOutput (reportOf results)).on run = (result, run')) :
    run'.inquiries = run.inquiries
      ∧ Concludes around settings toOutput terminal results run result run' := by
  rw [afterReport] at h
  cases hshow : (showResults (reportOf results)).on run with | mk told shown =>
  obtain ⟨hshown, hfaces', htold⟩ := showResults_cases hfaces hshow
  rcases htold.symm with ⟨message, rfl, hunshown⟩ | rfl
  · obtain ⟨rfl, rfl⟩ := eq_of_stopped hshow h
    exact ⟨hshown.inquiries, .untold hunshown hshown.workspace hshown.documents⟩
  rw [on_bind_of_ok hshow] at h
  cases hpublish : (publish around settings toOutput (reportOf results).docs).on shown with
  | mk published delivered =>
  obtain ⟨hinquiries, houtlet, hpublished⟩ := publish_cases hfaces' hpublish
  suffices hconcludes : run'.inquiries = delivered.inquiries
      ∧ Concludes around settings toOutput terminal results shown result run' from
    ⟨hconcludes.1.trans (hinquiries.trans hshown.inquiries),
      hconcludes.2.of_eq hshown.workspace hshown.documents hshown.outlet⟩
  cases hpublished with
  | delivered hdelivered hpath =>
      rw [on_bind_of_ok hpublish] at h
      exact sumUp_cases hdelivered hpath houtlet
        (hfaces'.of_emits (emits_publish (admits_all _) _ _ _ _) hpublish) h
  | unannounced hsome hdelivered hunsaid =>
      obtain ⟨rfl, rfl⟩ := eq_of_stopped hpublish h
      exact ⟨rfl, .unannounced hdelivered (.inl ⟨hsome, hunsaid⟩)⟩
  | lost hlost hsame =>
      obtain ⟨rfl, rfl⟩ := eq_of_stopped hpublish h
      exact ⟨rfl, .lost hlost hsame⟩

end DocScribe.CommandLine.Generate
