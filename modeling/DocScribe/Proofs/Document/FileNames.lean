import DocScribe.Proofs.Document.Encoding
import DocScribe.Proofs.Text.LetterCase
import DocScribe.Proofs.Text.Trimming

/-!
# `DocScribe.Proofs.Document.FileNames`: documents under the extension of a format

A word for a format is read twice: once to render a document, and once to
name its file. Both readings disregard letter case, and both take Markdown
for a word that they do not know; but only the first trims the word. So the
two agree on every word that has nothing to be trimmed
(`Format.ofFileName_of_trim`). Any other word is unknown to the second reading,
because no letter case makes a blank go away (`Text.mem_toSmall_of_isBlank`)
and no format has a word with blanks.

`stored_with_extension_iff` puts this together for documents that are
stored: the file has another format's extension exactly if its word has
something to be trimmed and asks for a format other than Markdown.
-/

set_option autoImplicit false

namespace DocScribe

/-! ### The two readings -/

namespace Format

/-- The format that a file is named for. -/
def ofFileName (name : Text) : Format := (ofWord? name.toSmall).getD .markdown

/-- The name of the file ends in the extension of the format that is taken
for it. -/
theorem fileName_eq (name : Text) :
    fileName name = baseName ++ "." ++ (ofFileName name).extension := rfl

/-- The words for formats have no blanks in them, so trimming leaves them as
they are. -/
theorem word_not_isBlank : ∀ f : Format, ∀ c ∈ f.word, c.isBlank = false := by
  intro f
  cases f <;> decide

/-- A word with blanks is none of the words for formats, since these have
none. -/
theorem ofWord?_of_blank {c : CodePoint} {w : Text} (hblank : c.isBlank = true) (h : c ∈ w) :
    ofWord? w = none := by
  refine List.find?_eq_none.mpr ?_
  intro f _ hword
  rw [← beq_iff_eq.mp hword] at h
  exact absurd hblank (by simp [word_not_isBlank f c h])

/-- With nothing to be trimmed, both readings come to the same. -/
theorem ofFileName_of_trim {name : Text} (h : name.trim = name) :
    ofFileName name = ofName name := by
  rw [ofFileName, ofName, ofName?, h]

/-- With something to be trimmed, the file is named for Markdown, since
names are compared as they are. -/
theorem ofFileName_of_trim_ne {name : Text} (h : name.trim ≠ name) :
    ofFileName name = .markdown := by
  obtain ⟨c, hc, hblank⟩ := Text.exists_blank_of_trim_ne h
  -- The blank that would be trimmed is still there in small letters.
  rw [ofFileName, ofWord?_of_blank hblank (Text.mem_toSmall_of_isBlank hblank hc)]
  rfl

/-- The format of the document and the one of its file name are both told by
the name of a format, but the latter without trimming it first. So they
differ exactly for names with blanks around them that stand for another
format than Markdown. -/
theorem ofFileName_eq_ofName_iff (name : Text) :
    ofFileName name = ofName name ↔ name.trim = name ∨ ofName name = .markdown := by
  by_cases htrim : name.trim = name
  · simp [htrim, ofFileName_of_trim htrim]
  · rw [ofFileName_of_trim_ne htrim]
    simp [htrim, eq_comm]

/-- The suffix of a file of a format. -/
def suffix (f : Format) : Text := "." ++ f.extension

/-- Formats are told apart by the ends of file names. -/
theorem suffix_injective {f g : Format} (h : f.suffix = g.suffix) : f = g := by
  revert h
  cases f <;> cases g <;> decide

end Format

namespace Document

/-- The file has the suffix of the format that it is named for. The base of
its name has no dot, so the suffix is what was put behind it. -/
theorem suffix_target (folder : Path) (name : Text) :
    (target folder name).suffix = (Format.ofFileName name).suffix := by
  -- The file name is one segment, and its suffix is what its last dot begins.
  have hfile : ∀ f : Format, ∃ file, Path.ofText (Format.baseName ++ "." ++ f.extension)
      = ⟨.relative, [file]⟩ ∧ Path.suffixOf file = f.suffix := by
    intro f
    cases f <;> exact ⟨_, rfl, by decide⟩
  obtain ⟨file, hpath, hsuffix⟩ := hfile (Format.ofFileName name)
  rw [target, Format.fileName_eq, hpath, ← hsuffix]
  show Path.suffixOf ((folder.segments ++ [file]).getLastD []) = Path.suffixOf file
  rw [List.getLastD_concat]

/-- Render documentation in the format that a word asks for, if the moment has
a text, and store the document in a folder under the file name for that
word. -/
def store (ws : Workspace) (moment : Moment) (docs : List FileDoc) (folder : Path) (name : Text) :
    Option (Workspace × List Log.Entry × Except FileFault Path) :=
  (renderAt? (Format.ofName name) moment docs).map fun content =>
    publish ws content folder name false

/-- What was stored is there, under the file name for the word, in the
format for the word. These two are told by different readings of the same
word. -/
theorem exists_of_store {ws written : Workspace} {moment : Moment} {docs : List FileDoc}
    {folder path : Path} {name : Text} {logged : List Log.Entry}
    (h : store ws moment docs folder name = some (written, logged, .ok path)) :
    path = target folder name
      ∧ ∃ content bytes, renderAt? (Format.ofName name) moment docs = some content
        ∧ Utf8.encode content = .ok bytes ∧ written.readBytes path = .ok bytes := by
  obtain ⟨content, hcontent, hpublish⟩ := Option.map_eq_some_iff.mp h
  obtain ⟨hpath, bytes, hbytes, hread⟩ := readBytes_publish hpublish
  exact ⟨hpath, content, bytes, hcontent, hbytes, hread⟩

/-- **Documents and the extensions of their files.** The file name for a word
has the suffix of the format that the word asks for if the word has nothing to
be trimmed, or if the format is Markdown, and in no other case; with something
to be trimmed it has that of Markdown. So has the file of a document that was
rendered and stored for that word; it holds the document in the format that
the word asks for. -/
theorem stored_with_extension_iff (name : Text) (folder : Path) :
    ((target folder name).suffix = (Format.ofName name).suffix
        ↔ name.trim = name ∨ Format.ofName name = .markdown)
      ∧ (name.trim ≠ name → (target folder name).suffix = Format.markdown.suffix)
      ∧ ∀ {ws written : Workspace} {moment : Moment} {docs : List FileDoc}
        {logged : List Log.Entry} {path : Path},
        store ws moment docs folder name = some (written, logged, .ok path) →
        path = target folder name
          ∧ ∃ content bytes, renderAt? (Format.ofName name) moment docs = some content
            ∧ Utf8.encode content = .ok bytes ∧ written.readBytes path = .ok bytes := by
  rw [suffix_target]
  refine ⟨?_, fun htrim => ?_, exists_of_store⟩
  · rw [← Format.ofFileName_eq_ofName_iff]
    exact ⟨Format.suffix_injective, congrArg Format.suffix⟩
  · rw [Format.ofFileName_of_trim_ne htrim]

/-- A document is stored for a word with blanks: what is in the file is HTML,
and its suffix is not. -/
theorem stored_html_with_blanks :
    ∃ written logged,
      store olderWorkspace ⟨0, 0⟩ [overviewDoc "Sums."] (Path.ofText "docs") " html "
          = some (written, logged, .ok olderTarget)
        ∧ olderTarget.suffix ≠ Format.html.suffix
        ∧ ∃ content bytes, renderAt? .html ⟨0, 0⟩ [overviewDoc "Sums."] = some content
          ∧ Utf8.encode content = .ok bytes ∧ written.readBytes olderTarget = .ok bytes := by
  have hname : Format.ofName " html " = .html := by decide
  have htarget : target (Path.ofText "docs") " html " = olderTarget := by decide
  obtain ⟨content, hcontent⟩ :
      ∃ content, renderAt? .html ⟨0, 0⟩ [overviewDoc "Sums."] = some content := ⟨_, rfl⟩
  have hwhole : Json.IsWhole content := by
    refine (isWhole_iff_of_renderAt? ?_ hcontent).mpr ?_
    · exact List.forall_mem_singleton.mpr (hasWholeLabels_overviewDoc _)
    · exact List.forall_mem_singleton.mpr (overviewDoc_isWhole (by decide))
  obtain ⟨bytes, hencode⟩ : ∃ bytes, Utf8.encode content = .ok bytes :=
    ⟨_, Utf8.encode_eq_ok_iff.mpr ⟨hwhole, rfl⟩⟩
  have hpublish : publish olderWorkspace content (Path.ofText "docs") " html " false = _ :=
    publish_eq (htarget ▸ makeFolders_olderWorkspace) (htarget ▸ writable_olderWorkspace)
  rw [hencode, htarget] at hpublish
  have hstore : store olderWorkspace ⟨0, 0⟩ [overviewDoc "Sums."] (Path.ofText "docs") " html "
      = some (olderWorkspace.putFile ["docs", "api-documentation.md"] bytes,
        [Log.info "documentation_written"], .ok olderTarget) := by
    rw [store, hname, hcontent, Option.map_some, hpublish]
  obtain ⟨hiff, -, hstored⟩ := stored_with_extension_iff " html " (Path.ofText "docs")
  rw [hname, htarget] at hiff
  obtain ⟨-, hheld⟩ := hstored hstore
  rw [hname] at hheld
  refine ⟨_, _, hstore, ?_, hheld⟩
  rw [Ne, hiff]
  decide

/-- A word that is rendered as HTML and named for Markdown. -/
theorem blanks_change_extension :
    Format.ofName " html " = .html
      ∧ Format.fileName " html " = "api-documentation.md"
      ∧ (target (Path.ofText "docs") " html ").suffix ≠ (Format.ofName " html ").suffix := by
  decide

end Document

end DocScribe
