import DocScribe.Document.Rendering
import DocScribe.Proofs.Json.Consumption
import DocScribe.Proofs.Json.Reading
import DocScribe.Proofs.Json.Strings
import DocScribe.Proofs.Json.Wholeness
import DocScribe.Proofs.Json.Writing
import DocScribe.Proofs.Record.Legibility

/-!
# `DocScribe.Proofs.Document.RoundTrip`: what is archived is loaded again

An archive is refused as a text for its surrogates and as JSON for
what the reader does not take; a text that spells a value legible to
archives has neither fault (`decode_of_spells`). So documentation
without surrogates comes back from an archive as it was, however the
archive was written (`load_of_shows`): in any order of fields, with
either spelling of their names, with absent values left out or shown.
The writer's own archive is one of these texts, so a document made from
what was loaded is the document that would have been made at once.
-/

set_option autoImplicit false

namespace DocScribe.Archive

open Json

/-- The test for surrogates finds them exactly where there are some. -/
theorem isWhole_iff {t : Text} : isWhole t = true ↔ IsWhole t := by
  simp [isWhole, IsWhole]

/-- The text of a value legible to archives is decoded as that
value. -/
theorem decode_of_spells {j : Json} {t : Text} (hj : Legible .archive Dialect.archive.nesting j)
    (h : Spells j t) : decode t = .ok j := by
  have hwhole : isWhole t = true := isWhole_iff.mpr (h.isWhole rfl hj)
  have hend : Ends [] := fun c hc => absurd hc (by simp)
  -- A value does not begin with a blank.
  have hskip : skipSpace t = t := by
    have hstart := h.starts.skipSpace_append blanks_nil []
    rwa [List.nil_append, List.append_nil] at hstart
  have hfront : readFront .archive t = .ok (j, []) := by
    have hread := readValue_append hj h (hend.follows j)
    rwa [List.append_nil] at hread
  rw [decode, read?, hwhole, hskip, hfront]
  rfl

/-- What was decoded was read behind the blanks of a text without
surrogates. -/
theorem exists_readFront_of_decode {t : Text} {value : Json} (h : decode t = .ok value) :
    IsWhole (skipSpace t) ∧ ∃ rest, readFront .archive (skipSpace t) = .ok (value, rest) := by
  rw [decode] at h
  split at h
  · cases h
  next hwhole =>
  have ht : IsWhole t := isWhole_iff.mp (by simpa using hwhole)
  refine ⟨isWhole_of_subset (skipSpace_suffix t).subset ht, ?_⟩
  split at h
  · cases h
  next found hfound =>
  obtain rfl := Except.ok.inj h
  rw [read?] at hfound
  split at hfound
  · cases hfound
  next value' rest hread =>
  split at hfound
  · obtain rfl := Option.some.inj hfound
    exact ⟨rest, hread⟩
  · cases hfound

/-- What is written of a value legible to archives is decoded as that
value, however it is written. -/
theorem decode_write {j : Json} (hj : Legible .archive Dialect.archive.nesting j)
    (style : Json.Style) : decode (j.write style) = .ok j :=
  decode_of_spells hj (spells_writeAt style _ 0 j hj)

/-- Items that show documentation are taken as that documentation, one by
one: nothing is coerced since nothing has to be. -/
theorem check_of_shows {docs : List FileDoc} {items : List Json}
    (h : List.Forall₂ FileDoc.Shows docs items) : check (.arr items) = .ok docs := by
  refine Checked.each_ok ?_ [] 0
  induction h with
  | nil => exact .nil
  | cons hshows _ ih =>
      obtain ⟨members, rfl, hreads⟩ := FileDoc.reads_of_shows _ _ hshows
      exact .cons hreads ih

/-- Items that show whole documentation are legible to archives. The list
itself is one more level, and a reader of archives takes far more of
them. -/
theorem legible_of_shows {docs : List FileDoc} (hwhole : ∀ doc ∈ docs, doc.IsWhole)
    {items : List Json} (h : List.Forall₂ FileDoc.Shows docs items) :
    Legible .archive Dialect.archive.nesting (.arr items) := by
  -- An item goes seven levels deep, and one is left for the list.
  have hitems : (Form.records FileDoc.Shows docs).IsLegible .archive (192 + 7 + 1) :=
    Form.isLegible_records fun doc hdoc => FileDoc.legible (hwhole doc hdoc) 192
  exact hitems _ ⟨items, rfl, h⟩

/-- An archive is loaded as the documentation that its items show. How the
text is laid out does not matter, as long as it spells the items. -/
theorem load_of_shows {docs : List FileDoc} (hwhole : ∀ doc ∈ docs, doc.IsWhole)
    {items : List Json} (h : List.Forall₂ FileDoc.Shows docs items) {t : Text}
    (ht : Spells (.arr items) t) : load t = .ok docs := by
  rw [load, decode_of_spells (legible_of_shows hwhole h) ht]
  show (check (.arr items)).toExcept title = .ok docs
  rw [check_of_shows h]
  rfl

/-- The items that are written show the documentation. -/
theorem shows_items (absence : Absence) (docs : List FileDoc) :
    List.Forall₂ FileDoc.Shows docs (docs.map (·.toJson absence)) := by
  rw [List.forall₂_map_right_iff]
  exact List.forall₂_same.mpr fun doc _ => doc.shows_toJson absence

/-- A rendered archive is loaded as the documentation it was rendered
from. -/
theorem load_render (indent : Option Int) {docs : List FileDoc}
    (hwhole : ∀ doc ∈ docs, doc.IsWhole) : load (render indent docs) = .ok docs := by
  have hshows := shows_items .omitted docs
  have hspells := spells_writeAt (style indent) _ 0 _ (legible_of_shows hwhole hshows)
  exact load_of_shows hwhole hshows hspells

/-- **Archiving loses nothing.** Documentation without surrogates is
loaded from its archive as it was, with any indentation, and every
document made of what was loaded, in any format and with any time, is
the one made of the documentation itself. -/
theorem archive_round_trip (indent : Option Int) (docs : List FileDoc)
    (hwhole : ∀ doc ∈ docs, doc.IsWhole) :
    load (render indent docs) = .ok docs
      ∧ ∀ (name : Text) (moment : Moment),
        (load (render indent docs)).map (Document.renderAt? (Format.ofName name) moment)
          = .ok (Document.renderAt? (Format.ofName name) moment docs) := by
  have hload := load_render indent hwhole
  refine ⟨hload, fun name moment => ?_⟩
  rw [hload]
  rfl

/-- A class with a constructor that says nothing, and a parameter
whose default is the empty text, in a file without labels. -/
def sparse : FileDoc where
  overview := "a \"quoted\"\n\x7bline\x7d"
  functions := [⟨"f", [], [⟨"p", [], [], false, some []⟩], [], [], ["f()"], []⟩]
  classes := [⟨"C", [], some ⟨[], [], []⟩, [], [⟨"x", [], [], .heirs, true⟩], []⟩]
  interfaces := []
  constants := []
  types := []
  fileName := none
  filePath := some "src/f"

/-- No text of it has a surrogate. It has fields of most kinds, some of them
empty. -/
theorem sparse_isWhole : sparse.IsWhole where
  overview := by decide
  functions := by
    intro f hf
    rw [List.mem_singleton.mp hf]
    refine ⟨by decide, by decide, ?_, by decide, by decide, by decide, by decide⟩
    intro p hp
    rw [List.mem_singleton.mp hp]
    exact ⟨by decide, by decide, by decide, by decide⟩
  classes := by
    intro c hc
    rw [List.mem_singleton.mp hc]
    refine ⟨by decide, by decide, ?_, by simp, ?_, by decide⟩
    · intro made hmade
      cases hmade
      exact ⟨by decide, by simp, by decide⟩
    · intro p hp
      rw [List.mem_singleton.mp hp]
      exact ⟨by decide, by decide, by decide⟩
  interfaces := by simp [sparse]
  constants := by simp [sparse]
  types := by simp [sparse]
  fileName := by simp [sparse]
  filePath := by decide

/-- Empty and absent values come back as what they were. -/
theorem load_render_sparse :
    load (render (some 2) [sparse]) = .ok [sparse] := by
  have hwhole : ∀ doc ∈ [sparse], doc.IsWhole := by
    intro doc hdoc
    rw [List.mem_singleton.mp hdoc]
    exact sparse_isWhole
  exact (archive_round_trip (some 2) [sparse] hwhole).1

end DocScribe.Archive
