import DocScribe.Document.Rendering
import DocScribe.Proofs.Document.Headings
import DocScribe.Proofs.Generation.Provision
import DocScribe.Proofs.Noise
import DocScribe.Proofs.Paths

/-!
# `DocScribe.Proofs.SourceLabels`: a reply does not say where it is from

The two labels that name a source file are fields of the documentation
like the others, and a reply may set them under two spellings each. What it
sets there is left out before the reply is read, so replies that differ in
nothing else hold the same documentation, without labels
(`Reply.exists_unlabelled_normalize`). The path that was asked about sets
the labels afterwards, and with them the heading of the file and the
language of its code (`FileDoc.labelledBy_withSource`).

In Markdown prose is written as it is, and what it says of headings and
fences is its own affair. The headings and fences here are those that a
document has by its form.
-/

set_option autoImplicit false

namespace DocScribe

/-! ### What fields build -/

section

variable {α β : Type}

/-- A function that is checked gives a value if both it and its argument
do. -/
theorem Checked.app_eq_ok {f : Checked (α → β)} {a : Checked α} {b : β} (h : f.app a = .ok b) :
    ∃ g x, f = .ok g ∧ a = .ok x ∧ g x = b := by
  cases f with
  | ok g =>
      cases a with
      | ok x => exact ⟨g, x, rfl, rfl, Checked.ok.inj h⟩
      | bad issues => exact nomatch h
  | bad issues => cases a <;> exact nomatch h

namespace Fields

/-- Whatever the fields build has a property. -/
def Build (fields : Fields α) (P : α → Prop) : Prop :=
  ∀ place members a, fields.check place members = .ok a → P a

/-- What a function makes of fields has the property that all its values
have. -/
theorem build_map {f : α → β} {P : β → Prop} (h : ∀ a, P (f a)) (fields : Fields α) :
    (f <$> fields).Build P := by
  intro place members b hb
  have hmap : (fields.check place members).map f = .ok b := hb
  cases hcheck : fields.check place members with
  | ok a =>
      rw [hcheck] at hmap
      exact Checked.ok.inj hmap ▸ h a
  | bad issues =>
      rw [hcheck] at hmap
      exact nomatch hmap

/-- A property that does not depend on the last field is one of the fields
before it. -/
theorem Build.seq {fields : Fields (α → β)} {P : β → Prop}
    (h : fields.Build fun f => ∀ a, P (f a)) (more : Fields α) : (fields <*> more).Build P := by
  intro place members b hb
  obtain ⟨f, a, hf, -, rfl⟩ := Checked.app_eq_ok hb
  exact h place members f hf a

end Fields

end

namespace Reply

open Fields FieldType

/-- A label of a source is not found in what is left of a payload, under
none of its spellings: the keys for labels are dropped before anything is
read. -/
theorem locate?_of_settle_prepared {payload settled : Json.Members} {l : Label}
    (hl : l ∈ Labels.source) {coercions : List (Label × Coercion)}
    (hdistinct : (spellingsOf coercions).Nodup) {coercion : Coercion}
    (hfield : (l, coercion) ∈ coercions)
    (hsettle : settle coercions (prepared payload) = .ok settled) : l.locate? settled = none := by
  have hnone : ∀ k ∈ l.spellings, settled.get? k = none := by
    intro k hk
    rw [get?_of_settle hdistinct hsettle hfield hk,
      get?_prepared_source payload (mem_sourceSpellings hl hk)]
    rfl
  refine Option.map_eq_none_iff.mp ((Label.locate?_value l _).trans ?_)
  rw [hnone _ l.key_mem_spellings, hnone _ (Label.mem_spellings_iff.mpr (.inr rfl))]
  rfl

/-- The fields of a file in front of its labels. -/
def contentFields : Fields (Option Text → Option Text → FileDoc) :=
  FileDoc.mk <$> Labels.overview.field text []
    <*> Labels.functions.field (records FunctionDoc.nameLabel FunctionDoc.recordType) []
    <*> Labels.classes.field (records ClassDoc.nameLabel ClassDoc.recordType) []
    <*> Labels.interfaces.field (records InterfaceDoc.nameLabel InterfaceDoc.recordType) []
    <*> Labels.constants.field (records ConstantDoc.nameLabel ConstantDoc.recordType) []
    <*> Labels.types.field (records TypeDoc.nameLabel TypeDoc.recordType) []

/-- What they build takes the labels as they are. So the content of a file
and its labels can be looked at apart. -/
theorem build_contentFields : contentFields.Build fun f =>
    ∀ name path, (f name path).fileName = name ∧ (f name path).filePath = path := by
  refine .seq (.seq (.seq (.seq (.seq (build_map ?_ _) _) _) _) _) _
  intros
  exact ⟨rfl, rfl⟩

/-- The labels are the last two fields of a file. -/
theorem fields_recordType : FileDoc.recordType.fields
    = contentFields <*> Labels.fileName.field text? none <*> Labels.filePath.field text? none :=
  rfl

/-- Documentation that a payload holds came through both stages, coercion
and checks, so whatever it has came from a field. -/
theorem exists_settle_of_docOf {payload : Json.Members} {doc : FileDoc}
    (h : docOf payload = .ok doc) :
    ∃ settled, settle FileDoc.recordType.fields.coercions (prepared payload) = .ok settled
      ∧ FileDoc.recordType.fields.check [] settled = .ok doc := by
  replace h : (FileDoc.recordType.ofMembers [] (prepared payload)).toExcept
      FileDoc.recordType.title = .ok doc := h
  rw [RecordType.ofMembers] at h
  cases hsettle : settle FileDoc.recordType.fields.coercions (prepared payload) with
  | error kind =>
      rw [hsettle] at h
      cases h
  | ok settled =>
      rw [hsettle] at h
      refine ⟨settled, rfl, ?_⟩
      cases hcheck : FileDoc.recordType.fields.check [] settled with
      | bad issues =>
          dsimp only at h
          rw [hcheck] at h
          cases h
      | ok found =>
          dsimp only at h
          rw [hcheck] at h
          exact congrArg _ (Except.ok.inj h)

/-- What a payload holds has no labels, whatever the payload says about
them. -/
theorem unlabelled_of_docOf {payload : Json.Members} {doc : FileDoc}
    (h : docOf payload = .ok doc) : doc.fileName = none ∧ doc.filePath = none := by
  obtain ⟨settled, hsettle, hcheck⟩ := exists_settle_of_docOf h
  -- That the labels are not found is all that counts of the settled members.
  have hgive {l : Label} (hl : l ∈ Labels.source)
      (hfield : (l, text?.coerce) ∈ FileDoc.recordType.fields.coercions) :
      (l.field text? none).Give settled none :=
    give_field_of_none (locate?_of_settle_prepared hl FileDoc.isPlain.1 hfield hsettle)
  rw [fields_recordType] at hcheck hgive
  obtain ⟨f, path, hf, hpath, rfl⟩ := Checked.app_eq_ok hcheck
  obtain ⟨g, name, hg, hname, rfl⟩ := Checked.app_eq_ok hf
  have hnone : name = none := by
    have hfield := List.mem_append_right contentFields.coercions
      (List.mem_singleton_self (Labels.fileName, text?.coerce))
    exact Checked.ok.inj (hname.symm.trans (hgive (by decide) (List.mem_append_left _ hfield) []))
  have hnone' : path = none := by
    have hfield := List.mem_append_right
      (contentFields.coercions ++ [(Labels.fileName, text?.coerce)])
      (List.mem_singleton_self (Labels.filePath, text?.coerce))
    exact Checked.ok.inj (hpath.symm.trans (hgive (by decide) hfield []))
  subst hnone hnone'
  exact build_contentFields _ _ g hg none none

/-- Payloads that differ in the labels alone say the same. A payload is read
without its labels, under whichever spelling they stand. -/
theorem saysSame_of_get? {payload payload' : Json.Members}
    (h : ∀ k, k ∉ sourceSpellings → payload'.get? k = payload.get? k) :
    SaysSame payload payload' := by
  obtain ⟨hoverview, hsections⟩ := key_not_mem_sourceSpellings
  refine ⟨?_, fun l hl _ _ => .inl ?_⟩
  · rw [overviewText, overviewText, h _ hoverview]
  · rw [sectionItems, sectionItems, h _ (hsections l hl)]

/-- Replies that differ in the labels alone hold the same documentation,
and it has no labels. -/
theorem exists_unlabelled_normalize {reply reply' : Text} {payload payload' : Json.Members}
    (hextract : extract reply = .ok payload) (hextract' : extract reply' = .ok payload')
    (h : ∀ k, k ∉ sourceSpellings → payload'.get? k = payload.get? k) :
    ∃ doc, normalize reply = .ok doc ∧ normalize reply' = .ok doc
      ∧ doc.fileName = none ∧ doc.filePath = none := by
  obtain ⟨doc, hdoc, hdoc'⟩ := (saysSame_of_get? h).exists_docOf
    (isWritable_of_extract hextract) (isWritable_of_extract hextract')
  exact ⟨doc, normalize_eq_ok_iff.mpr ⟨payload, hextract, hdoc⟩,
    normalize_eq_ok_iff.mpr ⟨payload', hextract', hdoc'⟩, unlabelled_of_docOf hdoc⟩

end Reply

/-! ### Labels of paths -/

/-- Documentation is labelled by a path: it has the name and the text of
the path as its labels, its heading shows the name, and all code below the
heading is in the language of the path. -/
structure FileDoc.LabelledBy (doc : FileDoc) (path : Path) : Prop where
  fileName : doc.fileName = some path.name
  filePath : doc.filePath = some path.toText
  shown : ∃ below, Block.AllBelow (Language.ofPath path) below
    ∧ (∀ stamp, Document.render .markdown stamp [doc] = Markdown.opening Document.title stamp
      ++ ("## File: " ++ path.name ++ "\n\n") ++ below.flatMap Markdown.block)
    ∧ ∀ stamp, Document.render .html stamp [doc] = Html.opening Document.title stamp
      ++ ("<section class=\"file\">\n<h2>File: " ++ Html.escape path.name ++ "</h2>\n")
      ++ below.flatMap Html.block ++ Html.closing

/-- The front of a file in Markdown. The name of the file is all that it
takes from the labels. -/
theorem Markdown.flatMap_heading (name : Text) :
    [Block.fileStart, .heading 2 [.words "File: ", .text name]].flatMap block
      = "## File: " ++ name ++ "\n\n" := by
  have hmark : List.replicate 2 (CodePoint.ofChar '#') ++ (" " ++ "File: ") = "## File: " := by
    decide
  simp only [List.flatMap_cons, List.flatMap_nil, block, inline, span, List.nil_append,
    List.append_nil, ← hmark, List.append_assoc]

/-- The front of a file in HTML: the section and the heading with its
name. -/
theorem Html.flatMap_heading (name : Text) :
    [Block.fileStart, .heading 2 [.words "File: ", .text name]].flatMap block
      = "<section class=\"file\">\n<h2>File: " ++ escape name ++ "</h2>\n" := by
  have hopen : "<section class=\"file\">\n" ++ ("<h" ++ (Text.ofNat 2 ++ (">" ++ "File: ")))
      = "<section class=\"file\">\n<h2>File: " := by decide +kernel
  have hclose : "</h" ++ (Text.ofNat 2 ++ ">\n") = "</h2>\n" := by decide
  simp only [List.flatMap_cons, List.flatMap_nil, block, inline, span, List.append_nil,
    ← hopen, ← hclose, List.append_assoc]

/-- A label that says something is proper. -/
theorem FileDoc.properLabel?_eq_some {t : Text} (h : t ≠ []) : properLabel? (some t) = some t := by
  cases t with
  | nil => exact absurd rfl h
  | cons c t => rfl

section

variable (doc : FileDoc) (t : Text)

/-- The heading of a file shows the name of its path, even an empty one.
What an empty one falls back on is empty then as well. -/
theorem FileDoc.displayName_withSource :
    (doc.withSource (Path.ofText t).toText).displayName = (Path.ofText t).name := by
  have hpath := Path.ofText_toText_ofText t
  have hproper := properLabel?_eq_some (Path.toText_ofText_ne_nil t)
  rw [withSource, hpath, displayName]
  by_cases hname : (Path.ofText t).name = []
  · have hempty : properLabel? (some (Path.ofText t).name) = none := by
      rw [hname]
      rfl
    simp only [hempty, hproper, hpath]
  · simp only [properLabel?_eq_some hname]

/-- Its code is in the language of the path. The suffix decides, and the
path is the one that the file was labelled with. -/
theorem Block.exampleLanguage_withSource :
    exampleLanguage (doc.withSource (Path.ofText t).toText) = Language.ofPath (Path.ofText t) := by
  have hproper := FileDoc.properLabel?_eq_some (Path.toText_ofText_ne_nil t)
  rw [FileDoc.withSource, exampleLanguage]
  simp only [hproper]
  rw [Path.ofText_toText_ofText]

/-- Whatever is documented, the path labels it: its heading, the language of
its fences in Markdown, and that of its code in HTML. -/
theorem FileDoc.labelledBy_withSource :
    (doc.withSource (Path.ofText t).toText).LabelledBy (Path.ofText t) := by
  obtain ⟨below, hblocks, hbelow⟩ :=
    Block.exists_below_heading (doc.withSource (Path.ofText t).toText)
  rw [doc.displayName_withSource] at hblocks
  rw [Block.exampleLanguage_withSource] at hbelow
  refine ⟨?_, rfl, below, hbelow, fun stamp => ?_, fun stamp => ?_⟩
  · rw [withSource, Path.ofText_toText_ofText]
  · rw [Document.render, Markdown.document, List.flatMap_singleton, hblocks, List.flatMap_append,
      Markdown.flatMap_heading, ← List.append_assoc]
  · rw [Document.render, Html.document, List.flatMap_singleton, hblocks, List.flatMap_append,
      Html.flatMap_heading, ← List.append_assoc]

end

/-! ### Files -/

namespace Generator

open Generation

/-- The request for a file, at a call with a number, is answered by a
reply. -/
def Answered (connect : Connect) (ws : Workspace) (includeExamples : Bool) (g : Generator)
    (call : Nat) (path : Path) (reply : Text) : Prop :=
  ∃ prompt answer, (g.beginFile connect ws includeExamples call path).2.2 = .asked prompt answer
    ∧ answer.reply = some (.ok reply)

/-- An answer comes to documentation if it is a reply that holds some, and
the path is all that is added to it. -/
theorem concludeFile_eq_settled_iff {path : Path} {answer : Answer} {unit : FileDoc} :
    (concludeFile path answer).2 = .settled (.ok unit)
      ↔ ∃ reply doc, answer.reply = some (.ok reply) ∧ Reply.normalize reply = .ok doc
        ∧ doc.withSource path.toText = unit := by
  rw [concludeFile, conclude]
  cases answer.reply with
  | none => simp
  | some result =>
      cases result with
      | error cause => simp [Except.map]
      | ok reply =>
          cases hdoc : Reply.normalize reply with
          | error e => simp [read, hdoc, Except.map]
          | ok doc => simp [read, hdoc, Except.map]

variable {connect : Connect} {ws : Workspace} {includeExamples : Bool} {g : Generator} {call : Nat}
  {path : Path} {unit : FileDoc}

/-- No file comes to documentation before an answer is there. What can end
it earlier are failures. -/
theorem beginFile_ne_settled :
    (g.beginFile connect ws includeExamples call path).2.2 ≠ .ended (.settled (.ok unit)) := by
  rw [beginFile]
  split
  · simp
  · simp
  · simp
  · split
    · simp
    · split <;> simp

/-- A file comes to documentation exactly if a reply to it holds some. That
includes that the file could be read, a provider was there and it did
answer. -/
theorem generateFile_eq_settled_iff :
    (g.generateFile connect ws includeExamples call path).2.2 = .settled (.ok unit)
      ↔ ∃ reply doc, Answered connect ws includeExamples g call path reply
        ∧ Reply.normalize reply = .ok doc ∧ doc.withSource path.toText = unit := by
  rw [(generateFile_eq connect ws includeExamples g call path).2]
  constructor
  · intro hsettled
    cases hbegun : (g.beginFile connect ws includeExamples call path).2.2 with
    | ended outcome =>
        rw [hbegun] at hsettled
        exact absurd (hbegun.trans (congrArg _ hsettled)) beginFile_ne_settled
    | asked prompt answer =>
        rw [hbegun] at hsettled
        obtain ⟨reply, doc, hreply, hdoc⟩ := concludeFile_eq_settled_iff.mp hsettled
        exact ⟨reply, doc, ⟨prompt, answer, hbegun, hreply⟩, hdoc⟩
  · rintro ⟨reply, doc, ⟨prompt, answer, hbegun, hreply⟩, hdoc⟩
    rw [hbegun]
    exact concludeFile_eq_settled_iff.mpr ⟨reply, doc, hreply, hdoc⟩

/-- **A reply sets no source labels.** Replies whose payloads differ in the
labels alone, under whichever spelling, hold the same documentation, and it
has no labels. A file whose reply is accepted comes to what the reply
holds, and whatever a file comes to is labelled by its path. -/
theorem labels_of_path_alone :
    (∀ (reply reply' : Text) (payload payload' : Json.Members),
      Reply.extract reply = .ok payload → Reply.extract reply' = .ok payload' →
      (∀ k, k ∉ Reply.sourceSpellings → payload'.get? k = payload.get? k) →
      ∃ doc, Reply.normalize reply = .ok doc ∧ Reply.normalize reply' = .ok doc
        ∧ doc.fileName = none ∧ doc.filePath = none)
    ∧ ∀ (connect : Connect) (ws : Workspace) (includeExamples : Bool) (g : Generator) (call : Nat)
        (t : Text),
      (∀ reply doc, Answered connect ws includeExamples g call (Path.ofText t) reply →
        Reply.normalize reply = .ok doc →
        (g.generateFile connect ws includeExamples call (Path.ofText t)).2.2
          = .settled (.ok (doc.withSource (Path.ofText t).toText)))
      ∧ ∀ unit, (g.generateFile connect ws includeExamples call (Path.ofText t)).2.2
          = .settled (.ok unit) → unit.LabelledBy (Path.ofText t) := by
  refine ⟨?_, fun connect ws includeExamples g call t => ⟨?_, ?_⟩⟩
  · intro reply reply' payload payload' hextract hextract' hagree
    exact Reply.exists_unlabelled_normalize hextract hextract' hagree
  · intro reply doc hanswered hdoc
    exact generateFile_eq_settled_iff.mpr ⟨reply, doc, hanswered, hdoc, rfl⟩
  · intro unit hunit
    obtain ⟨reply, doc, -, -, rfl⟩ := generateFile_eq_settled_iff.mp hunit
    exact doc.labelledBy_withSource t

/-- These are the keys that are left out. -/
example : Reply.sourceSpellings = ["file_name", "fileName", "file_path", "filePath"] := by decide

/-- A payload with an overview, and with nothing about its source. -/
def modestPayload : Json.Members := [("overview", .str "x")]

/-- The same payload, which also names a file of its own. -/
def impostorPayload : Json.Members :=
  [("fileName", .str "b.js"), ("overview", .str "x"), ("file_path", .int 7)]

/-- A generator whose provider always answers with it. -/
def impostor : Generator :=
  ⟨some (.scripted fun _ => .answered ((Json.obj impostorPayload).write .oneLine)), none⟩

/-- A folder with one Python file. -/
def pythonFolder : Workspace := ⟨.folder [("a.py", .file [0x78])], [], []⟩

/-- The file comes to the overview under its own labels, although the reply
says that it is about another file. -/
theorem labels_of_path_alone_impostor :
    ∃ doc, Reply.normalize ((Json.obj modestPayload).write .oneLine) = .ok doc
      ∧ (impostor.generateFile (fun _ => .scripted fun _ => .interrupted) pythonFolder true
          0 (Path.ofText "a.py")).2.2 = .settled (.ok (doc.withSource "a.py"))
      ∧ (doc.withSource "a.py").LabelledBy (Path.ofText "a.py") := by
  have hwhole : ∀ t ∈ (["overview", "x", "fileName", "b.js", "file_path"] : List Text),
      Json.IsWhole t := by decide
  have hplain := fun t ht => (hwhole t ht).legibleText .common
  simp only [List.forall_mem_cons] at hplain
  obtain ⟨hoverview, hx, hname, hb, hpath, -⟩ := hplain
  have hmodest : Json.Legible .common (987 + 3) (.obj modestPayload) := by
    simp only [modestPayload, Json.Legible, List.forall_mem_cons]
    exact ⟨by decide, ⟨hoverview, hx⟩, by simp⟩
  have himpostor : Json.Legible .common (987 + 3) (.obj impostorPayload) := by
    simp only [impostorPayload, Json.Legible, List.forall_mem_cons]
    exact ⟨by decide, ⟨hname, hb⟩, ⟨hoverview, hx⟩,
      ⟨hpath, (by decide : (Text.ofNat 7).length ≤ _)⟩, by simp⟩
  obtain ⟨hextract, -⟩ := Reply.extract_of_parse (Json.parse_write hmodest .oneLine)
  obtain ⟨hextract', -⟩ := Reply.extract_of_parse (Json.parse_write himpostor .oneLine)
  have hagree : ∀ k, k ∉ Reply.sourceSpellings →
      impostorPayload.get? k = modestPayload.get? k := by
    intro k hk
    have hname : "fileName" ≠ k := fun h => hk (h ▸ by decide)
    have hpath : "file_path" ≠ k := fun h => hk (h ▸ by decide)
    simp only [impostorPayload, modestPayload, Json.Members.get?_cons, if_neg hname, if_neg hpath]
  obtain ⟨doc, hdoc, hdoc', -, -⟩ := labels_of_path_alone.1 _ _ _ _ hextract hextract' hagree
  obtain ⟨hsettled, hlabelled⟩ := labels_of_path_alone.2 (fun _ => .scripted fun _ => .interrupted)
    pythonFolder true impostor 0 "a.py"
  have hunit := hsettled _ doc ⟨_, _, rfl, rfl⟩ hdoc'
  exact ⟨doc, hdoc, hunit, hlabelled _ hunit⟩

end Generator

end DocScribe
