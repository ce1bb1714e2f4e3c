import DocScribe.Proofs.Leniency
import DocScribe.Proofs.Record.Noise

/-!
# `DocScribe.Proofs.Sections`: the parts of a payload that are read

Of a payload only the overview and the items of the five sections are
read: the overview if it is a text, the items of a section if it is a list
(`Reply.get?_prepared_section` and its neighbours). So two payloads with
the same overview, and with the same items but for noise, hold the same
documentation (`Reply.SaysSame.exists_docOf`).
-/

set_option autoImplicit false

namespace DocScribe

open Schema

namespace Reply

/-- The items of what stands for a section. Only a list has some. -/
def listed : Option Json → List Json
  | some (.arr items) => items
  | _ => []

/-- The text of what stands for the overview. -/
def worded : Option Json → Text
  | some (.str t) => t
  | _ => []

/-- The items of a section of a payload. -/
def sectionItems (payload : Json.Members) (l : Label) : List Json :=
  listed (payload.get? l.key)

/-- The overview of a payload. -/
def overviewText (payload : Json.Members) : Text :=
  worded (payload.get? Labels.overview.key)

/-- The members that documentation is read from. -/
def prepared (payload : Json.Members) : Json.Members :=
  withoutSource (shape payload)

/-! ### What stands in a prepared payload -/

/-- After a list has been ensured its key holds one, and the other keys hold
what they held. -/
theorem get?_ensureList (members : Json.Members) (l : Label) (k : Text) :
    (ensureList members l).get? k
      = if k = l.key then some (.arr (sectionItems members l)) else members.get? k := by
  rw [ensureList, sectionItems]
  split
  · next items hitems =>
    by_cases hk : k = l.key
    · rw [if_pos hk, hk, hitems]
      rfl
    · rw [if_neg hk]
  · next hother =>
    have hnone : listed (members.get? l.key) = [] := by
      cases hvalue : members.get? l.key with
      | none => rfl
      | some value =>
          cases value with
          | arr items => exact absurd hvalue (hother items)
          | _ => rfl
    rw [Json.Members.get?_put, hnone]

/-- The same of a text, which is made of what was there if it was none: an
empty text. Under other keys there is what was there before. -/
theorem get?_ensureText (members : Json.Members) (l : Label) (k : Text) :
    (ensureText members l).get? k
      = if k = l.key then some (.str (worded (members.get? l.key))) else members.get? k := by
  rw [ensureText]
  split
  · next t ht =>
    by_cases hk : k = l.key
    · rw [if_pos hk, hk, ht]
      rfl
    · rw [if_neg hk]
  · next hother =>
    have hnone : worded (members.get? l.key) = [] := by
      cases hvalue : members.get? l.key with
      | none => rfl
      | some value =>
          cases value with
          | str t => exact absurd hvalue (hother t)
          | _ => rfl
    rw [Json.Members.get?_put, hnone]

/-- Several lists are made sure of one by one, each under a key of its own,
so one does not disturb another. -/
theorem get?_foldl_ensureList {labels : List Label} (hkeys : (labels.map Label.key).Nodup)
    (members : Json.Members) (k : Text) :
    (labels.foldl ensureList members).get? k
      = if k ∈ labels.map Label.key then some (.arr (listed (members.get? k)))
        else members.get? k := by
  induction labels generalizing members with
  | nil => rfl
  | cons l labels ih =>
      obtain ⟨hl, hkeys⟩ := List.nodup_cons.mp hkeys
      rw [List.foldl_cons, ih hkeys, get?_ensureList, List.map_cons]
      by_cases hk : k = l.key
      · subst hk
        rw [if_pos rfl, if_neg hl, if_pos List.mem_cons_self, sectionItems]
      · rw [if_neg hk]
        simp [hk]

/-- A payload in shape has its overview as a text and its five sections as
lists; all other keys are left alone. -/
theorem get?_shape (payload : Json.Members) (k : Text) :
    (shape payload).get? k
      = if k = Labels.overview.key then some (.str (overviewText payload))
        else if k ∈ Labels.sections.map Label.key then some (.arr (listed (payload.get? k)))
        else payload.get? k := by
  have hkeys : (Labels.sections.map Label.key).Nodup := by decide
  have hoverview : Labels.overview.key ∉ Labels.sections.map Label.key := by decide
  rw [shape, get?_ensureText, get?_foldl_ensureList hkeys, get?_foldl_ensureList hkeys,
    if_neg hoverview, overviewText]

/-- A payload that is prepared has lost the keys for the labels of the file,
which the generator sets itself. -/
theorem get?_prepared (payload : Json.Members) (k : Text) :
    (prepared payload).get? k
      = if k ∈ sourceSpellings then none else (shape payload).get? k := by
  show Json.Members.get? ((shape payload).filter fun m => !sourceSpellings.contains m.1) k = _
  rw [Json.Members.get?_filter fun k => !sourceSpellings.contains k]
  by_cases hk : k ∈ sourceSpellings <;> simp [hk]

/-- The labels of a source are left out under all of their spellings. -/
theorem mem_sourceSpellings {l : Label} (hl : l ∈ Labels.source) {k : Text}
    (hk : k ∈ l.spellings) : k ∈ sourceSpellings := by
  refine List.mem_flatMap.mpr ⟨l, hl, ?_⟩
  rcases Label.mem_spellings_iff.mp hk with rfl | rfl <;> simp

/-- Nothing else that is read of a payload is. -/
theorem key_not_mem_sourceSpellings :
    Labels.overview.key ∉ sourceSpellings ∧ ∀ l ∈ Labels.sections, l.key ∉ sourceSpellings := by
  decide +kernel

/-- Of a section the list of its items is there, also if nothing was said of
it: then the list is empty. -/
theorem get?_prepared_section (payload : Json.Members) {l : Label} (hl : l ∈ Labels.sections) :
    (prepared payload).present.get? l.key = some (.arr (sectionItems payload l)) := by
  have hoverview : ∀ l ∈ Labels.sections, l.key ≠ Labels.overview.key := by decide +kernel
  refine Json.Members.get?_present_of_some ?_ rfl
  rw [get?_prepared, if_neg (key_not_mem_sourceSpellings.2 l hl), get?_shape,
    if_neg (hoverview l hl), if_pos (List.mem_map_of_mem hl), sectionItems]

/-- The overview is there as a text, which is empty if nothing was said of
it or if that was no text. -/
theorem get?_prepared_overview (payload : Json.Members) :
    (prepared payload).present.get? Labels.overview.key = some (.str (overviewText payload)) := by
  refine Json.Members.get?_present_of_some ?_ rfl
  rw [get?_prepared, if_neg key_not_mem_sourceSpellings.1, get?_shape, if_pos rfl]

/-- No label of a source is left, whatever a reply has said of it. -/
theorem get?_prepared_source (payload : Json.Members) {k : Text} (hk : k ∈ sourceSpellings) :
    (prepared payload).present.get? k = none := by
  refine Json.Members.get?_present_of_not_mem ?_
  rw [← Json.Members.get?_eq_none_iff, get?_prepared, if_pos hk]

/-! ### Payloads that hold the same -/

/-- The items of a section are the same in two payloads but for noise. -/
def SameItems (shape : Schema.Shape RecordName) (items items' : List Json) : Prop :=
  items' = items ∨ Noise shape (.arr items) (.arr items')

/-- Two payloads say the same: they have the same overview, and the same
items in every section but for noise. -/
structure SaysSame (payload payload' : Json.Members) : Prop where
  overview : overviewText payload' = overviewText payload
  sections : ∀ l ∈ Labels.sections, ∀ shape, (l, shape) ∈ fieldsOf .file →
    SameItems shape (sectionItems payload l) (sectionItems payload' l)

/-- Payloads that say the same and can be written hold the same
documentation. -/
theorem SaysSame.exists_docOf {payload payload' : Json.Members} (h : SaysSame payload payload')
    (hpayload : (Json.obj payload).isWritable = true)
    (hpayload' : (Json.obj payload').isWritable = true) :
    ∃ doc, docOf payload = .ok doc ∧ docOf payload' = .ok doc := by
  have hsection : ∀ l ∈ Labels.sections, ∀ shape, (l, shape) ∈ fieldsOf .file →
      l.spellings = [l.key] →
      l.Alike shape (prepared payload).present.get? (prepared payload').present.get? := by
    intro l hl shape hfield hone
    -- The list of a section is there under its key, and under no other spelling.
    have hlook := get?_prepared_section payload hl
    have hlook' := get?_prepared_section payload' hl
    rcases h.sections l hl shape hfield with hsame | hnoise
    · refine .same fun k hk => ?_
      obtain rfl : k = l.key := List.mem_singleton.mp (hone ▸ hk)
      rw [hlook, hlook', hsame]
    · refine .edited l.key_mem_spellings hlook hlook' hnoise fun k hk hne => ?_
      exact absurd (List.mem_singleton.mp (hone ▸ hk)) hne
  -- What is said of the source is left out of both.
  have hsource : ∀ l ∈ Labels.source, ∀ shape,
      l.Alike shape (prepared payload).present.get? (prepared payload').present.get? := by
    intro l hl shape
    refine .same fun k hk => ?_
    have hsource := mem_sourceSpellings hl hk
    rw [get?_prepared_source _ hsource, get?_prepared_source _ hsource]
  have halike : ∀ field ∈ fieldsOf .file,
      field.1.Alike field.2 (prepared payload).present.get? (prepared payload').present.get? := by
    intro field hfield
    have hknown : ∀ field ∈ fieldsOf .file, field.1 = Labels.overview
        ∨ (field.1 ∈ Labels.sections ∧ field.1.spellings = [field.1.key])
        ∨ field.1 ∈ Labels.source := by decide +kernel
    rcases hknown field hfield with hoverview | ⟨hmem, hone⟩ | hmem
    · refine .same fun k hk => ?_
      rw [hoverview] at hk
      obtain rfl : k = Labels.overview.key := List.mem_singleton.mp hk
      rw [get?_prepared_overview, get?_prepared_overview, h.overview]
    · exact hsection _ hmem _ hfield hone
    · exact hsource _ hmem _
  obtain ⟨doc, hdoc, hdoc'⟩ :=
    RecordType.exists_reads_of_alike FileDoc.isPlain FileDoc.isLenient FileDoc.ignoresNoiseIn
      (isWritable_withoutSource_shape hpayload) (isWritable_withoutSource_shape hpayload') halike
  exact ⟨doc, hdoc.ofJson, hdoc'.ofJson⟩

end Reply

end DocScribe
