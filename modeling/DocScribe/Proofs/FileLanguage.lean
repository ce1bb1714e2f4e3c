import DocScribe.Proofs.Document.RoundTrip
import DocScribe.Proofs.Document.Wholeness
import DocScribe.Proofs.Generation.Prompts
import DocScribe.Proofs.SourceLabels

/-!
# `DocScribe.Proofs.FileLanguage`: one language for each file

The language of a file is told from its path several times: for the prompt,
from the path itself; for the examples in a document, from the labels of the
documentation, which hold the path as a text, or the text that the path was
read from; and once more from these labels after they were kept in an archive.
All of them come to the same language (`one_language`), because reading the
text of a path gives the path again, and that text is never empty. A label
that is empty does no harm: it was made of an empty path, which has no
language of its own either.

Archives keep labels as they are, or are not loaded at all. They cannot hold
surrogates: if a label or any other text has one, what was written is refused
(`Archive.load_render_of_not_isWhole`).
-/

set_option autoImplicit false

namespace DocScribe

open Generation

/-- A path has a known suffix exactly if its language is not the fallback,
which is the word of no suffix. -/
theorem Language.isSupported_iff_ne_fallback (p : Path) :
    isSupported p = true ↔ ofPath p ≠ fallback := by
  rw [isSupported, ofPath]
  cases hfound : ofSuffix? p.suffix with
  | none => simp
  | some language =>
      -- The language is one of the table, and the table never says the fallback.
      obtain ⟨entry, hentry, rfl⟩ := Option.map_eq_some_iff.mp hfound
      simp [fallback_not_mem_table entry (List.mem_of_find?_eq_some hentry)]

/-- An archive of documentation with surrogates is not loaded: it can be
rendered, but the text is none of Unicode and is refused as such. -/
theorem Archive.load_render_of_not_isWhole (indent : Option Int) {docs : List FileDoc}
    (h : ¬ ∀ doc ∈ docs, doc.IsWhole) :
    load (render indent docs) = .error ⟨title, [⟨.notUnicode, []⟩]⟩ := by
  have hrendered : isWhole (render indent docs) = false := by
    rw [Bool.eq_false_iff, Ne, isWhole_iff, Document.isWhole_archive_iff]
    exact h
  rw [load, decode, hrendered]
  rfl

namespace FileDoc

/-- Documentation is labelled with the path that a text denotes, or with the
text as it is. -/
def IsOf (t : Text) (doc : FileDoc) : Prop :=
  ∃ found : FileDoc, doc = found.withSource (Path.ofText t).toText ∨ doc = found.withSource t

variable {t : Text} {doc : FileDoc}

/-- The examples of a file that is labelled with a text are in the language of
the path that the text denotes. -/
theorem exampleLanguage_withSource_text (doc : FileDoc) (t : Text) :
    Block.exampleLanguage (doc.withSource t) = Language.ofPath (Path.ofText t) := by
  cases t with
  | nil =>
      -- Neither label says anything, and the empty path has no suffix.
      have hname : (Path.ofText []).name = [] := by decide
      rw [withSource, hname]
      show Language.fallback = Language.ofPath (Path.ofText [])
      decide
  | cons c t => rfl

/-- Documentation of a path has its examples in the language that the path
tells, whichever of its labels is asked. -/
theorem IsOf.exampleLanguage_eq (h : doc.IsOf t) :
    Block.exampleLanguage doc = Language.ofPath (Path.ofText t) := by
  obtain ⟨found, rfl | rfl⟩ := h
  · exact Block.exampleLanguage_withSource found t
  · exact found.exampleLanguage_withSource_text t

end FileDoc

/-- The file that a text denotes has one language wherever it counts. -/
structure OneLanguage (t language : Text) : Prop where
  /-- Whoever asks about the file names the language. -/
  prompted : ∀ {connect : Generator.Connect} {ws : Workspace} {includeExamples : Bool}
    {g : Generator} {call : Nat} {prompt : Text} {answer : Answer},
    (g.beginFile connect ws includeExamples call (Path.ofText t)).2.2 = .asked prompt answer →
    ∃ code, ws.readText (Path.ofText t) = .ok code
      ∧ prompt = Prompt.build code language ⟨includeExamples, (Path.ofText t).toText⟩
  /-- A file that is read is asked about, if its path says something and there
  is somebody to ask. -/
  asks : ∀ {connect : Generator.Connect} {ws : Workspace} (includeExamples : Bool)
    {g : Generator} (call : Nat) {code : Text} {provider : Provider},
    ws.readText (Path.ofText t) = .ok code → (Path.ofText t).toText.isBlank = false →
    (g.provide connect).2.2 = .ok provider →
    ∃ prompt answer,
      (g.beginFile connect ws includeExamples call (Path.ofText t)).2.2 = .asked prompt answer
  /-- Examples are shown in the language. -/
  shown : ∀ doc : FileDoc, doc.IsOf t → Block.exampleLanguage doc = language
  /-- They still are once the documentation was kept in an archive, -/
  kept : ∀ (indent : Option Int) (docs : List FileDoc), (∀ doc ∈ docs, doc.IsOf t) →
    (∀ doc ∈ docs, doc.IsWhole) →
    Archive.load (Archive.render indent docs) = .ok docs
      ∧ (Archive.load (Archive.render indent docs)).map (·.map Block.exampleLanguage)
        = .ok (docs.map fun _ => language)
  /-- unless it holds a surrogate. -/
  refused : ∀ (indent : Option Int) (docs : List FileDoc), (¬ ∀ doc ∈ docs, doc.IsWhole) →
    Archive.load (Archive.render indent docs)
      = .error ⟨Archive.title, [⟨.notUnicode, []⟩]⟩
  /-- Files with a known suffix are those whose language is not the fallback. -/
  supported : Language.isSupported (Path.ofText t) = true ↔ language ≠ Language.fallback

/-- **One language for each file.** Whatever text a path is read from, the
language of the path is the one in the prompt about the file, and the one of
the examples in the documentation that is labelled with the path or the text.
That documentation has it too when it was kept in an archive and loaded again;
it is loaded exactly if none of its texts has a surrogate. -/
theorem one_language (t : Text) : OneLanguage t (Language.ofPath (Path.ofText t)) where
  prompted := by
    intro connect ws includeExamples g call prompt answer hasked
    -- Alone, a file is begun as it is in a batch of no other files.
    let b : Batch := ⟨connect, ws, includeExamples, 1, []⟩
    have hbegun : b.begun g call (Path.ofText t) = .asked prompt answer := hasked
    obtain ⟨code, -, hread, -, hprompt, -⟩ := Batch.exists_provider_of_begun hbegun
    exact ⟨code, hread, hprompt⟩
  asks := by
    intro connect ws includeExamples g call code provider hread hpath hprovider
    let b : Batch := ⟨connect, ws, includeExamples, 1, []⟩
    have hbegun : b.begun g call (Path.ofText t) = _ :=
      Batch.begun_of_readText hread hpath hprovider
    exact ⟨_, _, hbegun⟩
  shown _ hdoc := hdoc.exampleLanguage_eq
  kept := by
    intro indent docs hdocs hwhole
    have hload := Archive.load_render indent hwhole
    refine ⟨hload, ?_⟩
    rw [hload]
    show Except.ok (docs.map Block.exampleLanguage) = _
    rw [List.map_congr_left fun doc hdoc => (hdocs doc hdoc).exampleLanguage_eq]
  refused indent _ hbad := Archive.load_render_of_not_isWhole indent hbad
  supported := Language.isSupported_iff_ne_fallback _

/-- Documentation that says nothing. -/
def emptyDoc : FileDoc := ⟨[], [], [], [], [], [], none, none⟩

/-- Documentation that says nothing has no surrogates. -/
theorem emptyDoc_isWhole : emptyDoc.IsWhole :=
  ⟨by decide, List.forall_mem_nil _, List.forall_mem_nil _, List.forall_mem_nil _,
    List.forall_mem_nil _, List.forall_mem_nil _, by simp [emptyDoc], by simp [emptyDoc]⟩

/-- A Python file, at a text with more slashes and dots than its path has: it
is asked about, and its documentation is loaded again from an archive. -/
theorem one_language_of_python_file :
    ∃ prompt answer,
      (Generator.impostor.beginFile (fun _ => .scripted fun _ => .interrupted)
          Generator.pythonFolder true 0 (Path.ofText ".//a.py/")).2.2 = .asked prompt answer
        ∧ (∃ code, prompt = Prompt.build code "python" ⟨true, "a.py"⟩)
        ∧ Block.exampleLanguage (emptyDoc.withSource ".//a.py/") = "python"
        ∧ Archive.load (Archive.render (some 2) [emptyDoc.withSource ".//a.py/"])
          = .ok [emptyDoc.withSource ".//a.py/"]
        ∧ Language.isSupported (Path.ofText ".//a.py/") = true := by
  have hlanguage := one_language ".//a.py/"
  have hpython : Language.ofPath (Path.ofText ".//a.py/") = "python" := by decide
  rw [hpython] at hlanguage
  -- The file is read, and its generator has somebody to ask.
  have hread : Generator.pythonFolder.readText (Path.ofText ".//a.py/") = .ok "x" := by
    decide +kernel
  have hprovider : (Generator.impostor.provide fun _ => .scripted fun _ => .interrupted).2.2
      = .ok _ := rfl
  obtain ⟨prompt, answer, hasked⟩ := hlanguage.asks true 0 hread (by decide) hprovider
  obtain ⟨code, -, hprompt⟩ := hlanguage.prompted hasked
  have hof : (emptyDoc.withSource ".//a.py/").IsOf ".//a.py/" := ⟨emptyDoc, .inr rfl⟩
  have hwhole : (emptyDoc.withSource ".//a.py/").IsWhole :=
    emptyDoc_isWhole.withSource (by decide)
  obtain ⟨hload, -⟩ := hlanguage.kept (some 2) [emptyDoc.withSource ".//a.py/"]
    (List.forall_mem_singleton.mpr hof) (List.forall_mem_singleton.mpr hwhole)
  exact ⟨prompt, answer, hasked, ⟨code, hprompt⟩, hlanguage.shown _ hof, hload,
    hlanguage.supported.mpr (by decide)⟩

/-- The name of a Python file that begins with a surrogate. -/
def surrogateName : Text := ⟨0xD800, by decide⟩ :: Text.ofString ".py"

/-- Documentation of that file is not loaded from its archive, so nothing is
left to tell the language of its examples. -/
theorem surrogate_label_not_loaded :
    Language.ofPath (Path.ofText surrogateName) = "python"
      ∧ Block.exampleLanguage (emptyDoc.withSource surrogateName) = "python"
      ∧ ¬ ∃ docs, Archive.load (Archive.render (some 2) [emptyDoc.withSource surrogateName])
        = .ok docs := by
  have hbad : ¬ ∀ doc ∈ [emptyDoc.withSource surrogateName], doc.IsWhole := by
    intro hwhole
    have hpath := (hwhole _ (List.mem_singleton_self _)).filePath surrogateName rfl
    exact absurd hpath (by decide)
  refine ⟨by decide, by decide, ?_⟩
  rintro ⟨docs, hload⟩
  rw [Archive.load_render_of_not_isWhole (some 2) hbad] at hload
  cases hload

end DocScribe
