import DocScribe.CommandLine.Commands
import DocScribe.Proofs.CommandLine.Reporting
import DocScribe.Proofs.Document.Loading
import DocScribe.Proofs.Document.Wholeness
import DocScribe.Proofs.Text.Utf8
import DocScribe.Proofs.Workspace.Writing

/-!
# `DocScribe.Proofs.CommandLine.Rerendering`: what becomes of an archive

A file is rendered again, whatever bytes it holds, and there are three
ways for it to end (`archive_rerendered`). Bytes that are UTF-8 and hold
an archive are rendered, and the document is brought out or written.
Bytes that are UTF-8 and hold none are reported, the run ends with 1, and
nothing has changed. Bytes that are no UTF-8 end the run as something
that was not foreseen: there is no report about the file then
(`undecodable_unreported`).

Once an archive is loaded nothing can go wrong with its document any more.
What is rendered of it has no surrogates (`Archive.isWhole_of_load`), so every
standard output takes it, and it can be written to any file that is within
reach. What is said of it may still be refused, but only for a surrogate in the
name of the file.
-/

set_option autoImplicit false

namespace DocScribe

/-- A file can be written at a path, once the folders above it are made. -/
structure Workspace.Admits (ws : Workspace) (path : Path) (made : Workspace)
    (place : List Text) : Prop where
  folders : ws.makeFolders path.parent = (made, .ok ())
  writable : made.writable path = .ok place

/-- A text is not made longer by dropping its control sequences, and what is
left of it stands in its order. So a text without surrogates has none
afterwards. -/
theorem Control.dropSequences_sublist (t : Text) : (dropSequences t).Sublist t := by
  have hdrop : ∀ skipped, (dropFrom skipped t).Sublist t := by
    induction t with
    | nil =>
        intro skipped
        rw [dropFrom]
    | cons c rest ih =>
        intro skipped
        cases skipped with
        | succ skipped =>
            rw [dropFrom]
            exact (ih skipped).cons c
        | zero =>
            rw [dropFrom]
            split
            · next length _ => exact (ih length).cons c
            · exact (ih 0).cons_cons c
  exact hdrop 0

/-- A text without surrogates is written where a file can be: there is
nothing else that could go wrong once the folders are there. -/
theorem Document.writeBelow_of_isWhole {ws made : Workspace} {path : Path} {place : List Text}
    {content : Text} (h : ws.Admits path made place) (hcontent : Json.IsWhole content) :
    ∃ bytes, Utf8.encode content = .ok bytes
      ∧ writeBelow ws path content = (made.putFile place bytes, .ok ()) := by
  have hencode := Utf8.encode_eq_ok_iff.mpr ⟨hcontent, rfl⟩
  refine ⟨_, hencode, ?_⟩
  simp only [writeBelow, h.folders, Workspace.writeText, h.writable, hencode]

/-- Documentation without surrogates has labels without them. -/
theorem FileDoc.IsWhole.hasWholeLabels {doc : FileDoc} (h : doc.IsWhole) : doc.HasWholeLabels :=
  ⟨h.fileName, h.filePath⟩

/-- A moment that has a text can be shown in a document of any format. An
archive does not show it, so for this the condition is not even needed. -/
theorem Document.exists_renderAt? {moment : Moment} {timestamp : Text}
    (h : moment.toText? = some timestamp) (format : Format) (docs : List FileDoc) :
    ∃ content, renderAt? format moment docs = some content := by
  rw [renderAt?, h]
  split
  · exact ⟨_, rfl⟩
  · exact ⟨_, rfl⟩

namespace CommandLine.Render

open Procedure Generate

variable {around : Surroundings} {choices : Choices} {input : Path} {run : Run}
  {bytes : List UInt8} {text : Text}

/-- What is shown of a document that was written. -/
def renderedNotice (terminal : Terminal) (path : Path) (count : Nat) : List Display :=
  terminal.success ("Rendered " ++ Text.ofNat count ++ " file(s) to " ++ path.toText)

/-- A run with its document written is through, unless there is a surrogate
in the name of the file and the standard output refuses to show it. -/
def Announced (run : Run) (path : Path) (count : Nat) (result : Except Stop Unit) : Prop :=
  result = .ok () ∨ ∃ refusal, result = .error (.unexpected refusal) ∧ run.stream = .output
    ∧ ¬ Json.IsWhole path.toText
    ∧ run.outlet.Refuses (renderedNotice run.terminal path count) refusal


/-- The ways in which a file that holds some bytes is rendered again. -/
inductive Rerendered (around : Surroundings) (choices : Choices) (input : Path) (run : Run)
    (bytes : List UInt8) : Except Stop Unit → Run → Prop where
  /-- The bytes are no UTF-8: the run stops there. -/
  | undecodable (e : Utf8.DecodeError) (hdecode : Utf8.decode bytes = .error e) :
      Rerendered around choices input run bytes (.error (.unexpected e.message)) run
  /-- The text is no archive: that is reported, and nothing else is done. The
  run ends with 1, unless the standard output refuses the name of the file. -/
  | refused (text : Text) (rejection : Rejection) (result : Except Stop Unit) (run' : Run)
      (hdecode : Utf8.decode bytes = .ok text)
      (hload : Archive.load text.unifyNewlines = .error rejection) (hkeeps : Keeps run run')
      (hreported : Reported run run'
        ("Cannot read documentation from " ++ input.toText ++ ": " ++ rejection.message) result)
      (hwhole : Json.IsWhole input.toText → result = .error (.exit 1)) :
      Rerendered around choices input run bytes result run'
  /-- The document is brought out, and no file has changed. -/
  | printed (text : Text) (docs : List FileDoc) (content : Text) (run' : Run)
      (hdecode : Utf8.decode bytes = .ok text)
      (hload : Archive.load text.unifyNewlines = .ok docs)
      (hcontent : Document.renderAt? (choices.format.getD .markdown) around.moment docs
        = some content)
      (houtput : choices.outputFile = none) (hworkspace : run'.workspace = run.workspace)
      (hdocuments : run'.documents = run.documents ++ [Control.dropSequences content]) :
      Rerendered around choices input run bytes (.ok ()) run'
  /-- The document is written and can be read, and no other file has
  changed. Then that is said. -/
  | written (text : Text) (docs : List FileDoc) (content : Text) (path : Path)
      (made : Workspace) (place : List Text) (written : List UInt8)
      (result : Except Stop Unit) (run' : Run)
      (hdecode : Utf8.decode bytes = .ok text)
      (hload : Archive.load text.unifyNewlines = .ok docs)
      (hcontent : Document.renderAt? (choices.format.getD .markdown) around.moment docs
        = some content)
      (houtput : choices.outputFile = some path) (hadmits : run.workspace.Admits path made place)
      (hencode : Utf8.encode content = .ok written)
      (hworkspace : run'.workspace = made.putFile place written)
      (hread : run'.workspace.readBytes path = .ok written)
      (hdocuments : run'.documents = run.documents)
      (hannounced : Announced run path docs.length result) :
      Rerendered around choices input run bytes result run'

/-! ### Reading the file -/

/-- Bytes that are no UTF-8 are a fault that the command does not catch: it
catches those of the file system and of archives. -/
theorem readArchive_of_undecodable {e : Utf8.DecodeError}
    (hinput : run.workspace.readBytes input = .ok bytes) (hdecode : Utf8.decode bytes = .error e) :
    readArchive run.workspace input = .error (.unexpected e.message) := by
  have htext : run.workspace.readText input = .error (.unreadable e) := by
    simp only [Workspace.readText, hinput, hdecode, bind, Except.bind, Workspace.mapError_error]
  rw [readArchive, htext]
  rfl

/-- Bytes that are UTF-8 hold an archive or not. In the second case what is
wrong is kept for the report, and nothing stops the run here. -/
theorem readArchive_of_decode (hinput : run.workspace.readBytes input = .ok bytes)
    (hdecode : Utf8.decode bytes = .ok text) :
    readArchive run.workspace input
      = .ok ((Archive.load text.unifyNewlines).mapError Rejection.message) := by
  have htext : run.workspace.readText input = .ok text.unifyNewlines := by
    simp only [Workspace.readText, hinput, hdecode, bind, Except.bind, Workspace.mapError_ok]
    rfl
  rw [readArchive, htext]

/-! ### The ways to end -/

/-- Bytes that are no UTF-8 stop the run with the fault of the decoder,
since only faults of files and of values are foreseen. -/
theorem render_of_undecodable {e : Utf8.DecodeError}
    (hinput : run.workspace.readBytes input = .ok bytes) (hdecode : Utf8.decode bytes = .error e) :
    (render around choices input).on run = (.error (.unexpected e.message), run) := by
  simp only [render, on_bind, on_get, readArchive_of_undecodable hinput hdecode, on_ofExcept]

/-- What is said of a text that is no archive counts its issues and names what
was expected. So if there is a surrogate in the report on it, then in the name
of the file. -/
theorem isWhole_complaint {rejection : Rejection} (hload : Archive.load text = .error rejection)
    (hinput : Json.IsWhole input.toText) :
    Json.IsWhole ("Cannot read documentation from " ++ input.toText ++ ": "
      ++ rejection.message) := by
  have htitle : rejection.title = Archive.title := by
    rw [Archive.load] at hload
    split at hload
    · exact congrArg Rejection.title (Except.error.inj hload).symm
    · next value _ =>
      rw [Checked.toExcept.eq_def] at hload
      split at hload
      · cases hload
      · exact congrArg Rejection.title (Except.error.inj hload).symm
  rw [Rejection.message, htitle]
  exact Json.isWhole_append
    (Json.isWhole_append (Json.isWhole_append (by decide) hinput) (by decide))
    (Json.isWhole_append (Json.isWhole_append (Json.isWhole_ofNat _) (Text.isWhole_ofString _))
      (by decide))

/-- A text that is no archive leaves nothing to do but to report it: the run
ends with 1, and no file was touched. -/
theorem render_of_refused {rejection : Rejection}
    (hinput : run.workspace.readBytes input = .ok bytes) (hdecode : Utf8.decode bytes = .ok text)
    (hload : Archive.load text.unifyNewlines = .error rejection) :
    ∃ result run', (render around choices input).on run = (result, run') ∧ Keeps run run'
      ∧ Reported run run' ("Cannot read documentation from " ++ input.toText ++ ": "
        ++ rejection.message) result
      ∧ (Json.IsWhole input.toText → result = .error (.exit 1)) := by
  let message := "Cannot read documentation from " ++ input.toText ++ ": " ++ rejection.message
  let logged : Run := run.log [Log.error "render_input_invalid"]
  have hlogged : Keeps run logged := .log _ run
  have hrender : (render around choices input).on run = (fail message).on logged := by
    simp only [render, on_bind, on_get, readArchive_of_decode hinput hdecode, hload,
      Workspace.mapError_error, on_ofExcept, on_log]
    rfl
  rw [hrender]
  rcases hfail : (fail message : Procedure Unit).on logged with ⟨result, run'⟩
  obtain ⟨hkept, ⟨rfl, rfl⟩ | ⟨refusal, rfl, hstream, hmessage, hrefused⟩⟩ := fail_cases hfail
  · refine ⟨_, _, rfl, hlogged.trans hkept, .inl ⟨rfl, fun shown hshown => ?_⟩, fun _ => rfl⟩
    exact List.mem_append_right _ (List.mem_map_of_mem hshown)
  · exact ⟨_, _, rfl, hlogged.trans hkept, .inr ⟨refusal, rfl, hstream, hmessage, hrefused⟩,
      fun hpath => absurd (isWhole_complaint hload hpath) hmessage⟩

/-- An archive is rendered, and what is left to do depends on where the
document is to go. -/
theorem render_of_load {docs : List FileDoc} {content : Text}
    (hinput : run.workspace.readBytes input = .ok bytes) (hdecode : Utf8.decode bytes = .ok text)
    (hload : Archive.load text.unifyNewlines = .ok docs)
    (hcontent : Document.renderAt? (choices.format.getD .markdown) around.moment docs
      = some content) :
    (render around choices input).on run
      = (match choices.outputFile with
        | none => bringOut content
        | some path => writeTo path content docs.length).on run := by
  cases houtput : choices.outputFile <;>
    simp only [render, on_bind, on_get, readArchive_of_decode hinput hdecode, hload,
      Workspace.mapError_ok, on_ofExcept, documentOf, hcontent, on_pure, houtput]

/-- A document without surrogates is taken by every standard output, so
printing it does not fail. -/
theorem bringOut_of_isWhole {content : Text} (h : Json.IsWhole content) :
    (bringOut content).on run
      = (.ok (), run.emit [.document (Control.dropSequences content)]) := by
  have htaken : run.outlet.refusal? (.document (Control.dropSequences content)) = none := by
    refine run.outlet.takes _ (List.forall_mem_singleton.mpr ?_)
    refine Utf8.encodeError?_eq_none_iff.mpr fun c hc => h c ?_
    exact (Control.dropSequences_sublist content).subset hc
  rcases hout : (bringOut content).on run with ⟨result, run'⟩
  rcases bringOut_cases hout with ⟨rfl, rfl⟩ | ⟨message, -, -, hrefused⟩
  · rfl
  · exact nomatch htaken.symm.trans hrefused

/-- The message about a document that was written is refused only for a
surrogate in the name of the file: what else it says is a number and words. -/
theorem not_isWhole_of_refused {terminal : Terminal} {outlet : Outlet} {path : Path} {count : Nat}
    {refusal : Text} (h : outlet.Refuses (renderedNotice terminal path count) refusal) :
    ¬ Json.IsWhole path.toText := by
  intro hpath
  have hmessage : Json.IsWhole
      ("Rendered " ++ Text.ofNat count ++ " file(s) to " ++ path.toText) :=
    Json.isWhole_append
      (Json.isWhole_append (Json.isWhole_append (by decide) (Json.isWhole_ofNat count)) (by decide))
      hpath
  rw [renderedNotice, Terminal.success, Terminal.unlessQuiet] at h
  split at h
  · obtain ⟨display, hdisplay, -⟩ := h
    exact absurd hdisplay List.not_mem_nil
  · exact h.not_isWhole_message (by decide) hmessage

/-- A document without surrogates is written where a file can be, and then
that is said. -/
theorem writeTo_of_isWhole {path : Path} {made : Workspace} {place : List Text} {content : Text}
    (hadmits : run.workspace.Admits path made place) (hcontent : Json.IsWhole content)
    (count : Nat) :
    ∃ written result run', Utf8.encode content = .ok written
      ∧ (writeTo path content count).on run = (result, run')
      ∧ run'.workspace = made.putFile place written ∧ run'.documents = run.documents
      ∧ Announced run path count result := by
  obtain ⟨written, hencode, hbelow⟩ := Document.writeBelow_of_isWhole hadmits hcontent
  let stored : Run := { run with workspace := made.putFile place written }
  let logged : Run := stored.log [Log.info "documentation_rendered"]
  have hlogged : Keeps stored logged := .log _ stored
  have hwrite : (writeTo path content count).on run
      = (tell (renderedNotice · path count)).on logged := by
    simp only [writeTo, on_bind, on_get, on_set, hbelow, on_log]
    rfl
  rw [hwrite]
  rcases htell : (tell (renderedNotice · path count)).on logged with ⟨result, run'⟩
  obtain ⟨htold, hcases⟩ := tell_cases htell
  replace htold := hlogged.trans htold
  refine ⟨written, result, run', hencode, rfl, htold.workspace, htold.documents, ?_⟩
  rcases hcases with ⟨rfl, -⟩ | ⟨refusal, rfl, hstream, hrefused⟩
  · exact .inl rfl
  · exact .inr ⟨refusal, rfl, hstream, not_isWhole_of_refused hrefused, hrefused⟩

/-- **What becomes of an archive.** Whatever bytes a file holds, and
whatever format is asked for: if they are UTF-8 and hold an archive, its
document is brought out or written where that can be done; if they are
UTF-8 and hold none, that is reported, the run ends with 1 and no file
has changed; and if they are no UTF-8, the run stops with an error that
was not foreseen, and no file has changed either. The run takes place at
a moment that has a text. What the standard output refuses is never the
document. It may refuse the message about it, or the report, but not for
anything that the file holds: only for a surrogate in the name of a
file. -/
theorem archive_rerendered (around : Surroundings) (choices : Choices) (input : Path) (run : Run)
    (bytes : List UInt8) (hinput : run.workspace.readBytes input = .ok bytes)
    (hmoment : ∃ timestamp, around.moment.toText? = some timestamp)
    (houtput : ∀ path, choices.outputFile = some path →
      ∃ made place, run.workspace.Admits path made place) :
    ∃ result run', (render around choices input).on run = (result, run')
      ∧ Rerendered around choices input run bytes result run' := by
  obtain ⟨timestamp, htimestamp⟩ := hmoment
  cases hdecode : Utf8.decode bytes with
  | error e => exact ⟨_, _, render_of_undecodable hinput hdecode, .undecodable e hdecode⟩
  | ok text =>
      cases hload : Archive.load text.unifyNewlines with
      | error rejection =>
          obtain ⟨result, run', hrun, hkeeps, hreported, hwhole⟩ :=
            render_of_refused hinput hdecode hload
          exact ⟨result, run', hrun,
            .refused text rejection result run' hdecode hload hkeeps hreported hwhole⟩
      | ok docs =>
          have hwhole := Archive.isWhole_of_load hload
          obtain ⟨content, hcontent⟩ :=
            Document.exists_renderAt? htimestamp (choices.format.getD .markdown) docs
          have hrender := render_of_load hinput hdecode hload hcontent
          have hlabels : ∀ doc ∈ docs, doc.HasWholeLabels :=
            fun doc hdoc => (hwhole doc hdoc).hasWholeLabels
          have hcontentWhole := (Document.isWhole_iff_of_renderAt? hlabels hcontent).mpr hwhole
          cases hchoice : choices.outputFile with
          | none =>
              rw [hchoice] at hrender
              exact ⟨_, _, hrender.trans (bringOut_of_isWhole hcontentWhole), .printed text docs
                content _ hdecode hload hcontent hchoice rfl (run.documents_emit_document _)⟩
          | some path =>
              rw [hchoice] at hrender
              obtain ⟨made, place, hadmits⟩ := houtput path hchoice
              obtain ⟨written, result, run', hencode, hwrite, hworkspace, hdocuments, hannounced⟩ :=
                writeTo_of_isWhole hadmits hcontentWhole docs.length
              have hread : run'.workspace.readBytes path = .ok written := by
                rw [hworkspace]
                exact Workspace.readBytes_putFile hadmits.writable written
              exact ⟨result, run', hrender.trans hwrite, .written text docs content path made place
                written result run' hdecode hload hcontent hchoice hadmits hencode hworkspace hread
                hdocuments hannounced⟩

/-- Surroundings in which nobody is asked. -/
def silent : Surroundings :=
  { transport := fun _ => ⟨fun _ => .interrupted, fun _ => .interrupted, .interrupted⟩
    outlet := .unlimited
    patience := fun _ => 0, moment := ⟨63000000000, 0⟩, seconds := .nan }

/-- A folder with one file. -/
def holding (bytes : List UInt8) : Workspace :=
  ⟨.folder [("x.json", .file bytes)], [], []⟩

/-- An archive of one file, as it is kept. -/
def keptArchive : Text := "[\x7b\"overview\": \"Sums.\"\x7d]"

/-- A folder with one file of ASCII. -/
def holdingText (t : Text) : Workspace := holding (t.map fun c => UInt8.ofNat c.val)

/-- The choice of a file in a folder that is not there yet. -/
def intoFolder : Choices :=
  { Choices.none with format := some .html, outputFile := some (Path.ofText "out/api.html") }

/-- The archive is rendered into that file, which was not there before: the
folder is made on the way. -/
theorem archive_written :
    ∃ bytes run' written,
      (holdingText keptArchive).readBytes (Path.ofText "x.json") = .ok bytes
        ∧ (render silent intoFolder (Path.ofText "x.json")).on (Run.start (holdingText keptArchive))
          = (.ok (), run')
        ∧ run'.workspace.readBytes (Path.ofText "out/api.html") = .ok written := by
  let bytes : List UInt8 := keptArchive.map fun c => UInt8.ofNat c.val
  have hinput : (holdingText keptArchive).readBytes (Path.ofText "x.json") = .ok bytes := by
    decide +kernel
  have hdecode : Utf8.decode bytes = .ok keptArchive := by decide +kernel
  have hload : (Archive.load keptArchive.unifyNewlines).toBool = true := by decide +kernel
  have hmoment : ∃ timestamp, silent.moment.toText? = some timestamp :=
    Option.isSome_iff_exists.mp (by decide +kernel)
  have houtput : ∀ path, intoFolder.outputFile = some path → ∃ made place,
      (Run.start (holdingText keptArchive)).workspace.Admits path made place := by
    intro path hpath
    obtain rfl := Option.some.inj hpath
    exact ⟨_, _, rfl, rfl⟩
  obtain ⟨result, run', hrun, hend⟩ := archive_rerendered silent intoFolder (Path.ofText "x.json")
    (Run.start (holdingText keptArchive)) bytes hinput hmoment houtput
  cases hend with
  | undecodable e hfails => exact nomatch hdecode.symm.trans hfails
  | refused text rejection result run' hdecode' hrefused =>
      obtain rfl := Except.ok.inj (hdecode.symm.trans hdecode')
      rw [hrefused] at hload
      exact nomatch hload
  | printed text docs content run' hdecode' hload' hcontent hnone => exact nomatch hnone
  | written text docs content path made place written result run' _ _ _ hchoice _ _ _ hread _
      hannounced =>
      obtain rfl := Option.some.inj hchoice
      rcases hannounced with rfl | ⟨refusal, rfl, -, -, display, -, hrefused⟩
      · exact ⟨bytes, run', written, hinput, hrun, hread⟩
      · exact nomatch hrefused

/-- A file with one byte, which begins no UTF-8: it is not rendered, and
there is no report about it either. -/
theorem undecodable_unreported :
    (holding [0xFF]).readBytes (Path.ofText "x.json") = .ok [0xFF]
      ∧ ∃ run', (render silent .none (Path.ofText "x.json")).on (Run.start (holding [0xFF]))
          = (.error (.unexpected ("'utf-8' codec can't decode byte 0xff in position 0: "
            ++ "invalid start byte")), run')
        ∧ ∀ message, ¬ Says (Run.start (holding [0xFF])) run' message := by
  have hinput : (holding [0xFF]).readBytes (Path.ofText "x.json") = .ok [0xFF] := by
    decide +kernel
  have hstart : (Run.start (holding [0xFF])).workspace.readBytes (Path.ofText "x.json")
      = .ok [0xFF] := hinput
  let e : Utf8.DecodeError := ⟨.badStart, 0, 1, 0xFF⟩
  have hdecode : Utf8.decode [0xFF] = .error e := by decide +kernel
  have hmessage : e.message
      = "'utf-8' codec can't decode byte 0xff in position 0: " ++ "invalid start byte" := by
    decide +kernel
  refine ⟨hinput, Run.start (holding [0xFF]), ?_, fun message hreported => ?_⟩
  · rw [render_of_undecodable hstart hdecode, hmessage]
  · exact absurd (hreported _ List.mem_cons_self) List.not_mem_nil

end CommandLine.Render

end DocScribe
