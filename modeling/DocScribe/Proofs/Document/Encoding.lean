import DocScribe.Document.Publication
import DocScribe.Proofs.Document.Wholeness
import DocScribe.Proofs.Search
import DocScribe.Proofs.Text.Utf8
import DocScribe.Proofs.Workspace.Writing

/-!
# `DocScribe.Proofs.Document.Encoding`: replies that make a document impossible to write

A file is emptied before it is written, and a text with a surrogate cannot
be written. An escape in a reply can name a surrogate, nothing between the
reply and the document takes it away, and so a single reply is enough for
the documents of all files to be lost (`Document.written_or_emptied`). A
reply whose payload has no such strings does no harm.
-/

set_option autoImplicit false

namespace DocScribe

open Json

/-! ### Replies -/

namespace Reply

/-- Bringing a payload into shape adds empty lists and an empty text, and
replaces only what is no list or text already. So no surrogate comes in. -/
theorem hasWholeStrings_shape {payload : Members} (h : (Json.obj payload).HasWholeStrings) :
    (Json.obj (shape payload)).HasWholeStrings := by
  have hput {members : Members} (hmembers : (Json.obj members).HasWholeStrings) {key : Text}
      (hkey : IsWhole key) {value : Json} (hvalue : value.HasWholeStrings) :
      (Json.obj (members.put key value)).HasWholeStrings :=
    hasWholeStrings_obj.mpr
      (Members.forall_put (hasWholeStrings_obj.mp hmembers) hkey hvalue)
  have hkeys : ∀ l ∈ Labels.sections, IsWhole l.key := by decide
  exact shape_of_put (P := fun members => (Json.obj members).HasWholeStrings)
    (fun l hl _ hmembers =>
      hput hmembers (hkeys l hl) (hasWholeStrings_arr.mpr (List.forall_mem_nil _)))
    (fun _ hmembers => hput hmembers (by decide) (hasWholeStrings_str.mpr isWhole_nil)) h

/-- A reply whose payload has whole strings gives whole documentation,
whatever else is coerced on the way. -/
theorem isWhole_of_normalize {reply : Text} {payload : Members} {doc : FileDoc}
    (hpayload : extract reply = .ok payload) (h : (Json.obj payload).HasWholeStrings)
    (hdoc : normalize reply = .ok doc) : doc.IsWhole := by
  have hmembers : (Json.obj (withoutSource (shape payload))).HasWholeStrings := by
    rw [hasWholeStrings_obj]
    exact fun m hm => hasWholeStrings_obj.mp (hasWholeStrings_shape h) m (List.mem_filter.mp hm).1
  obtain ⟨found, hfound, hreads⟩ := FileDoc.keepsWhole _ hmembers
    (isWritable_withoutSource_shape (isWritable_of_extract hpayload))
  have hdocOf : docOf payload = .ok found := hreads.ofJson
  rw [normalize, hpayload] at hdoc
  dsimp only at hdoc
  rw [hdocOf] at hdoc
  exact Except.ok.inj hdoc ▸ hfound

end Reply

/-! ### Documents -/

namespace Document

/-- A path with a reply, and the documentation that the reply holds,
labelled with the path. -/
def Documents (entry : Text × Text) (doc : FileDoc) : Prop :=
  ∃ found, Reply.normalize entry.2 = .ok found ∧ doc = found.withSource entry.1

/-- Every document of a batch is of one of its entries. With this a property
of the documents can be read off the entries, that is, off the paths and the
replies. -/
theorem exists_entry {entries : List (Text × Text)} {docs : List FileDoc}
    (h : List.Forall₂ Documents entries docs) :
    ∀ doc ∈ docs, ∃ entry ∈ entries, Documents entry doc := by
  induction h with
  | nil => exact List.forall_mem_nil _
  | cons hfirst _ ih =>
      refine List.forall_mem_cons.mpr ⟨⟨_, List.mem_cons_self, hfirst⟩, fun doc hdoc => ?_⟩
      obtain ⟨entry, hentry, hdocuments⟩ := ih doc hdoc
      exact ⟨entry, List.mem_cons_of_mem _ hentry, hdocuments⟩

section

variable {ws made : Workspace} {content formatName : Text} {folder : Path} {place : List Text}

/-- What writing a document comes to once its file is within reach: the file
is opened, which empties it, and then the text is encoded. A text that
cannot be encoded leaves the file empty. -/
theorem publish_eq (hfolder : ws.makeFolders (target folder formatName).parent = (made, .ok ()))
    (hplace : made.writable (target folder formatName) = .ok place) :
    publish ws content folder formatName false
      = match Utf8.encode content with
        | .ok bytes =>
          (made.putFile place bytes, [Log.info "documentation_written"],
            .ok (target folder formatName))
        | .error e => (made.putFile place [], [], .error (.unspellable e)) := by
  rw [publish, if_neg Bool.false_ne_true]
  simp only [writeBelow, hfolder, Workspace.writeText, hplace]
  cases Utf8.encode content <;> rfl

end

/-- **What a reply can do to the document that is written.** Files are
documented by replies and labelled with paths without surrogates, and the
file of their document is within reach. In every format the document has
surrogates exactly if the documentation of one of the files has. If none
has, the document is written and the file can be read as the document; if
one has, writing fails and leaves the file empty, whatever was in it. And
documentation has none if the payloads of the replies have none. -/
theorem written_or_emptied {entries : List (Text × Text)} {docs : List FileDoc}
    (hdocs : List.Forall₂ Documents entries docs) (hpaths : ∀ entry ∈ entries, IsWhole entry.1)
    {format : Format} {moment : Moment} {content : Text}
    (hcontent : renderAt? format moment docs = some content) {ws made : Workspace} {folder : Path}
    {place : List Text}
    (hfolder : ws.makeFolders (target folder format.word).parent = (made, .ok ()))
    (hplace : made.writable (target folder format.word) = .ok place) :
    (IsWhole content ↔ ∀ doc ∈ docs, doc.IsWhole)
      ∧ ((∀ doc ∈ docs, doc.IsWhole) →
        ∃ written logged bytes, publish ws content folder format.word false
            = (written, logged, .ok (target folder format.word))
          ∧ written.readBytes (target folder format.word) = .ok bytes
          ∧ Utf8.encode content = .ok bytes ∧ Utf8.decode bytes = .ok content)
      ∧ ((∃ doc ∈ docs, ¬ doc.IsWhole) →
        ∃ written e, publish ws content folder format.word false
            = (written, [], .error (.unspellable e))
          ∧ written.readBytes (target folder format.word) = .ok [])
      ∧ ((∀ entry ∈ entries, ∀ payload, Reply.extract entry.2 = .ok payload →
          (Json.obj payload).HasWholeStrings) →
        ∀ doc ∈ docs, doc.IsWhole) := by
  have hlabels : ∀ doc ∈ docs, doc.HasWholeLabels := by
    intro doc hdoc
    obtain ⟨entry, hentry, found, -, rfl⟩ := exists_entry hdocs doc hdoc
    exact found.hasWholeLabels_withSource (hpaths entry hentry)
  have hwhole := isWhole_iff_of_renderAt? hlabels hcontent
  refine ⟨hwhole, fun hall => ?_, fun ⟨doc, hdoc, hbad⟩ => ?_, fun hpayloads doc hdoc => ?_⟩
  · have hencode := Utf8.encode_eq_ok_iff.mpr ⟨hwhole.mpr hall, rfl⟩
    refine ⟨made.putFile place _, [Log.info "documentation_written"], _, ?_,
      Workspace.readBytes_putFile hplace _, hencode, Utf8.decode_encode hencode⟩
    rw [publish_eq hfolder hplace, hencode]
  · obtain ⟨e, he⟩ := Utf8.exists_error_of_not_isWhole fun h => hbad (hwhole.mp h doc hdoc)
    refine ⟨_, e, ?_, Workspace.readBytes_putFile hplace []⟩
    rw [publish_eq hfolder hplace, he]
  · obtain ⟨entry, hentry, found, hfound, rfl⟩ := exists_entry hdocs doc hdoc
    obtain ⟨payload, hpayload, -⟩ := Reply.normalize_eq_ok_iff.mp hfound
    exact (Reply.isWhole_of_normalize hpayload (hpayloads entry hentry payload hpayload)
      hfound).withSource (hpaths entry hentry)

/-- A folder with a document from before. -/
def olderWorkspace : Workspace where
  tree := .folder [("docs", .folder [("api-documentation.md", .file [0x6F, 0x6C, 0x64])])]
  current := []
  environment := []

/-- The file of the document in it. -/
def olderTarget : Path := target (Path.ofText "docs") Format.markdown.word

/-- A reply with an overview, and what it documents. -/
def overviewReply (overview : Text) : Text := "\x7b\"overview\": \"" ++ overview ++ "\"\x7d"

@[inherit_doc overviewReply]
def overviewDoc (overview : Text) : FileDoc :=
  ⟨overview, [], [], [], [], [], some "a.py", some "a.py"⟩

/-- A file that has nothing but an overview has no labels, so none with a
surrogate. -/
theorem hasWholeLabels_overviewDoc (overview : Text) : (overviewDoc overview).HasWholeLabels :=
  FileDoc.hasWholeLabels_withSource ⟨overview, [], [], [], [], [], none, none⟩
    (by decide : IsWhole "a.py")

/-- It is free of surrogates if its overview is, as it holds nothing
else. -/
theorem overviewDoc_isWhole {overview : Text} (h : IsWhole overview) :
    (overviewDoc overview).IsWhole := by
  obtain ⟨hname, hpath⟩ := hasWholeLabels_overviewDoc overview
  exact ⟨h, List.forall_mem_nil _, List.forall_mem_nil _, List.forall_mem_nil _,
    List.forall_mem_nil _, List.forall_mem_nil _, hname, hpath⟩

/-- The folder of the older document is there already, so nothing has to be
made. -/
theorem makeFolders_olderWorkspace :
    olderWorkspace.makeFolders olderTarget.parent = (olderWorkspace, .ok ()) := by
  rfl

/-- The older document is a file and can be written over. -/
theorem writable_olderWorkspace :
    olderWorkspace.writable olderTarget = .ok ["docs", "api-documentation.md"] := by
  rfl

/-- A reply without surrogates: the document takes the place of the older
one. -/
theorem written_sums :
    ∃ content written logged bytes,
      renderAt? .markdown ⟨0, 0⟩ [overviewDoc "Sums."] = some content
        ∧ publish olderWorkspace content (Path.ofText "docs") Format.markdown.word false
          = (written, logged, .ok olderTarget)
        ∧ written.readBytes olderTarget = .ok bytes ∧ Utf8.decode bytes = .ok content := by
  have hdocuments : Documents ("a.py", overviewReply "Sums.") (overviewDoc "Sums.") :=
    ⟨⟨"Sums.", [], [], [], [], [], none, none⟩, by decide +kernel, by decide +kernel⟩
  have hwhole : ∀ doc ∈ [overviewDoc "Sums."], doc.IsWhole :=
    List.forall_mem_singleton.mpr (overviewDoc_isWhole (by decide))
  obtain ⟨content, hcontent⟩ :
      ∃ content, renderAt? .markdown ⟨0, 0⟩ [overviewDoc "Sums."] = some content := ⟨_, rfl⟩
  obtain ⟨-, hwritten, -⟩ := written_or_emptied (.cons hdocuments .nil) (by decide) hcontent
    makeFolders_olderWorkspace writable_olderWorkspace
  obtain ⟨written, logged, bytes, hpublish, hread, -, hdecode⟩ := hwritten hwhole
  exact ⟨content, written, logged, bytes, hcontent, hpublish, hread, hdecode⟩

/-- A reply that names half of a surrogate pair: it is accepted, and the
document cannot be written and takes the older one with it. -/
theorem emptied_by_surrogate :
    Documents ("a.py", overviewReply "\\ud800") (overviewDoc [⟨0xD800, by decide⟩])
      ∧ IsWhole (Text.ofString "a.py")
      ∧ olderWorkspace.readBytes olderTarget = .ok [0x6F, 0x6C, 0x64]
      ∧ ∃ content written e,
        renderAt? .markdown ⟨0, 0⟩ [overviewDoc [⟨0xD800, by decide⟩]] = some content
          ∧ ¬ IsWhole content
          ∧ publish olderWorkspace content (Path.ofText "docs") Format.markdown.word false
            = (written, [], .error (.unspellable e))
          ∧ written.readBytes olderTarget = .ok [] := by
  have hdocuments : Documents ("a.py", overviewReply "\\ud800")
      (overviewDoc [⟨0xD800, by decide⟩]) :=
    ⟨⟨[⟨0xD800, by decide⟩], [], [], [], [], [], none, none⟩, by decide +kernel,
      by decide +kernel⟩
  obtain ⟨content, hcontent⟩ :
      ∃ content, renderAt? .markdown ⟨0, 0⟩ [overviewDoc [⟨0xD800, by decide⟩]] = some content :=
    ⟨_, rfl⟩
  have hbad : ¬ IsWhole content := by
    intro h
    have hdoc := (isWhole_iff_of_renderAt? (List.forall_mem_singleton.mpr
      (hasWholeLabels_overviewDoc _)) hcontent).mp h _ List.mem_cons_self
    exact absurd hdoc.overview (by decide)
  obtain ⟨e, he⟩ := Utf8.exists_error_of_not_isWhole hbad
  refine ⟨hdocuments, by decide, rfl, content, _, e, hcontent, hbad, ?_,
    Workspace.readBytes_putFile writable_olderWorkspace []⟩
  rw [publish_eq makeFolders_olderWorkspace writable_olderWorkspace, he]

end Document

end DocScribe
