import DocScribe.Proofs.Json.Reading
import DocScribe.Proofs.Json.Writing
import DocScribe.Proofs.Record.Legibility
import DocScribe.Reply

/-!
# `DocScribe.Proofs.Extraction`: documentation in the middle of a reply

A reply that holds documentation as JSON, with text before and behind
it, is read as that documentation (`normalize_of_spells`). Nothing is
asked of the text behind. Of the text before it is asked that no
object can be read from any of its braces on, since the first object
that can be read is the payload.

The payload then goes through three changes, and all of them leave the
documentation alone: its outer shape is there already
(`shape_of_shows`), and what is dropped as the name of a source shows
nothing (`ShowFields.filter`).
-/

set_option autoImplicit false

namespace DocScribe

open Json

/-! ### Finding the payload -/

/-- The text of an object stands between braces, whatever is between them
and however it is laid out. -/
theorem Json.Spells.obj_braces {members : Members} {t : Text} (h : Spells (.obj members) t) :
    ∃ inside, t = Reply.openBrace :: inside ++ [Reply.closeBrace] := by
  cases h with
  | emptyObj => exact ⟨_, rfl⟩
  | obj => exact ⟨_, rfl⟩

namespace Reply

/-- What stands behind an opening brace stands behind the first one, so a
closing brace there is seen by the search. -/
theorem mem_fromBrace {c : CodePoint} (before : Text) {rest : Text} (h : c ∈ rest) :
    c ∈ fromBrace (before ++ openBrace :: rest) := by
  induction before with
  | nil => simpa [fromBrace] using .inr h
  | cons x before ih =>
      rw [fromBrace] at ih ⊢
      rw [List.cons_append, List.dropWhile_cons]
      split
      · exact ih
      · simp [h]

/-- The search passes over braces where nothing can be read. Those that
have no closing brace behind them are not tried. -/
theorem scan_append {before rest : Text}
    (hbefore : ∀ a b, before = a ++ openBrace :: b → closeBrace ∈ b ++ rest →
      ∃ fault left, readFront .common (openBrace :: b ++ rest) = .error (.malformed fault left)) :
    scan (before ++ rest) = scan rest := by
  induction before with
  | nil => rfl
  | cons c before ih =>
      -- Whatever `c` is, the search goes on behind it.
      have htail : scan (before ++ rest) = scan rest := by
        refine ih fun a b hab => hbefore (c :: a) b ?_
        rw [hab]
        rfl
      rw [List.cons_append, scan]
      split
      · next hopen =>
        obtain ⟨fault, left, hread⟩ := hbefore [] before (by rw [hopen.1]; rfl) hopen.2
        rw [← hopen.1, List.cons_append] at hread
        rw [hread]
        exact htail
      · exact htail

/-- A brace opens nothing if what stands behind it neither begins a
name nor closes an object. -/
theorem readFront_of_no_name {d : Dialect} (hnesting : d.nesting ≠ 0) {c : CodePoint}
    (hspace : isSpace c = false) (hquote : c ≠ .quoteSign) (hclose : c ≠ closeBrace) (rest : Text) :
    readFront d (openBrace :: c :: rest) = .error (.malformed .expectingName (c :: rest)) := by
  obtain ⟨depth, hdepth⟩ := Nat.exists_eq_succ_of_ne_zero hnesting
  rw [readFront, hdepth]
  show readContainer (readContent d (readValue d depth)) .object (c :: rest) = _
  rw [readContainer, skipSpace_cons hspace]
  show (if c = closeBrace then _ else readContent d (readValue d depth) .object (c :: rest)) = _
  rw [if_neg hclose]
  show readMembers d (readValue d depth) ((c :: rest).length + 1) [] (c :: rest) = _
  rw [readMembers, if_pos hquote]

/-- An object that can be read ends the search, whatever stands behind
it. -/
theorem scan_of_spells {members : Members} {t : Text}
    (hlegible : Legible .common Dialect.common.nesting (.obj members))
    (ht : Spells (.obj members) t) (after : Text) :
    scan (t ++ after) = .ok (some members) := by
  have hread : readValue .common Dialect.common.nesting (t ++ after) = .ok (.obj members, after) :=
    readValue_append hlegible ht trivial
  obtain ⟨inside, rfl⟩ := ht.obj_braces
  have hclose : closeBrace ∈ inside ++ [closeBrace] ++ after := by simp
  rw [List.cons_append, List.cons_append] at hread ⊢
  rw [scan, if_pos ⟨rfl, hclose⟩]
  rw [readFront, hread]

/-- The payload of a reply is the object that its text holds, if none of the
braces before the object opens one. Text without braces in front of it is
the usual case. -/
theorem extract_of_spells {members : Members} {t : Text}
    (hlegible : Legible .common Dialect.common.nesting (.obj members))
    (ht : Spells (.obj members) t) {before after : Text}
    (hbefore : ∀ a b, before = a ++ openBrace :: b →
      ∃ fault left, readFront .common (openBrace :: b ++ (t ++ after))
        = .error (.malformed fault left)) :
    extract (before ++ t ++ after) = .ok members := by
  have hscan : scan (before ++ (t ++ after)) = .ok (some members) :=
    (scan_append fun a b hab _ => hbefore a b hab).trans (scan_of_spells hlegible ht after)
  -- The check for a closing brace looks behind the first brace of the whole reply.
  have hclose : closeBrace ∈ fromBrace (before ++ (t ++ after)) := by
    obtain ⟨inside, rfl⟩ := ht.obj_braces
    rw [List.cons_append, List.cons_append]
    exact mem_fromBrace before (by simp)
  rw [List.append_assoc, extract, if_neg (fun hno => hno hclose), hscan]

end Reply

/-! ### Documentation in its payload -/

/-- Dropping members by their keys leaves what is shown, if only
fields that may be left out are dropped. -/
theorem ShowFields.filter {fields : List (Label × Form)} {members : Members}
    (h : ShowFields fields members) {keep : Text → Bool}
    (hkeep : ∀ field ∈ fields, field.2.omittable ∨ ∀ k ∈ field.1.spellings, keep k = true) :
    ShowFields fields (members.filter fun m => keep m.1) := by
  induction h with
  | nil => exact .nil
  | @shown l form spelling value fields members hspelling hvalue _ ih =>
      rw [List.forall_mem_cons] at hkeep
      have hrest := ih hkeep.2
      rw [List.filter_cons]
      split
      · exact .shown hspelling hvalue hrest
      · next hdrop =>
        rcases hkeep.1 with homit | hspellings
        · exact .omitted homit hrest
        · exact absurd (hspellings spelling hspelling) hdrop
  | omitted homit _ ih =>
      rw [List.forall_mem_cons] at hkeep
      exact .omitted homit (ih hkeep.2)

/-- A field that is never left out and has one spelling is found under
it. -/
theorem Label.Stands.exists_get? {l : Label} {form : Form} {members : Members}
    (h : l.Stands form members) (homit : ¬ form.omittable) (hspellings : l.spellings = [l.key]) :
    ∃ value, form.shows value ∧ members.get? l.key = some value := by
  rcases h with ⟨homitted, _⟩ | ⟨spelling, hspelling, value, hvalue, hget, _⟩
  · exact absurd homitted homit
  · rw [hspellings, List.mem_singleton] at hspelling
    exact ⟨value, hvalue, hspelling ▸ hget⟩

namespace Reply

/-- Lists that are there already stay. Induction on the labels. So a payload
that shows documentation passes through the outer shape unchanged. -/
theorem foldl_ensureList {ls : List Label} {members : Members}
    (h : ∀ l ∈ ls, ∃ items, members.get? l.key = some (.arr items)) :
    ls.foldl ensureList members = members := by
  induction ls with
  | nil => rfl
  | cons l ls ih =>
      rw [List.forall_mem_cons] at h
      obtain ⟨⟨items, hitems⟩, hrest⟩ := h
      have hkeep : ensureList members l = members := by
        rw [ensureList, hitems]
      rw [List.foldl_cons, hkeep, ih hrest]

/-- What holds of members holds with the lists that may be put there, if
each of them keeps it. -/
theorem foldl_ensureList_of_put {P : Members → Prop} {ls : List Label}
    (hput : ∀ l ∈ ls, ∀ members, P members → P (members.put l.key (.arr []))) {members : Members}
    (h : P members) : P (ls.foldl ensureList members) := by
  induction ls generalizing members with
  | nil => exact h
  | cons l ls ih =>
      rw [List.forall_mem_cons] at hput
      refine ih hput.2 ?_
      rw [ensureList]
      split
      · exact h
      · exact hput.1 members h

/-- Bringing a payload into its outer shape puts empty lists and an empty
text, and what they keep holds of the shape. -/
theorem shape_of_put {P : Members → Prop} {payload : Members}
    (hlist : ∀ l ∈ Labels.sections, ∀ members, P members → P (members.put l.key (.arr [])))
    (htext : ∀ members, P members → P (members.put Labels.overview.key (.str [])))
    (h : P payload) : P (shape payload) := by
  have hsections := foldl_ensureList_of_put hlist h
  rw [shape, ensureText]
  split
  · exact hsections
  · exact htext _ hsections

variable {doc : FileDoc} {members : Members}

/-- A payload that shows documentation has its outer shape: its overview is
a text and its sections are lists, as far as they are there. -/
theorem shape_of_shows (h : doc.Shows (.obj members)) : shape members = members := by
  obtain ⟨members', heq, _, hstands⟩ := h.exists_stands FileDoc.isPlain.1
  obtain rfl := Json.obj.inj heq
  simp only [FileDoc.forms, List.forall_mem_cons] at hstands
  obtain ⟨hoverview, hfunctions, hclasses, hinterfaces, hconstants, htypes, _⟩ := hstands
  -- A list of records is an array under the one spelling of its section.
  have hlist {l : Label} {α : Type} {shows : α → Json → Prop} {as : List α}
      (hl : l.Stands (.records shows as) members) (hspellings : l.spellings = [l.key]) :
      ∃ items, members.get? l.key = some (.arr items) := by
    obtain ⟨_, ⟨items, rfl, _⟩, hget⟩ := hl.exists_get? not_false hspellings
    exact ⟨items, hget⟩
  have hsections : ∀ l ∈ Labels.sections, ∃ items, members.get? l.key = some (.arr items) := by
    simp only [Labels.sections, List.forall_mem_cons]
    exact ⟨hlist hfunctions rfl, hlist hclasses rfl, hlist hinterfaces rfl,
      hlist hconstants rfl, hlist htypes rfl, by simp⟩
  obtain ⟨_, rfl, hget⟩ := hoverview.exists_get? not_false rfl
  rw [shape, foldl_ensureList hsections, ensureText, hget]

/-- Without the names of a source a payload shows the same
documentation, if that has none. -/
theorem withoutSource_shows (h : doc.Shows (.obj members)) (hname : doc.fileName = none)
    (hpath : doc.filePath = none) : doc.Shows (.obj (withoutSource members)) := by
  obtain ⟨members', ordered, heq, hperm, hshow⟩ := h
  obtain rfl := Json.obj.inj heq
  have hkeep : ∀ field ∈ doc.forms, field.2.omittable
      ∨ ∀ k ∈ field.1.spellings, (!sourceSpellings.contains k) = true := by
    simp only [FileDoc.forms, hname, hpath, List.forall_mem_cons]
    exact ⟨.inr (by decide), .inr (by decide), .inr (by decide), .inr (by decide),
      .inr (by decide), .inr (by decide), .inl trivial, .inl trivial, by simp⟩
  exact ⟨_, _, rfl, hperm.filter _, hshow.filter hkeep⟩

/-- A payload that shows documentation holds it. It must not show any
labels, since these are dropped from a payload. -/
theorem docOf_of_shows (h : doc.Shows (.obj members)) (hname : doc.fileName = none)
    (hpath : doc.filePath = none) : docOf members = .ok doc := by
  obtain ⟨members', heq, hreads⟩ :=
    FileDoc.reads_of_shows doc _ (withoutSource_shows h hname hpath)
  -- Both preparations leave the payload showing `doc`.
  rw [docOf, shape_of_shows h, heq]
  exact hreads.ofJson

/-- A reply is read as the documentation that its text holds. The labels of
the file are taken to be absent, since the generator sets them itself. -/
theorem normalize_of_spells (hwhole : doc.IsWhole) (hname : doc.fileName = none)
    (hpath : doc.filePath = none) {value : Json} (hshows : doc.Shows value) {t : Text}
    (ht : Spells value t) {before after : Text}
    (hbefore : ∀ a b, before = a ++ openBrace :: b →
      ∃ fault left, readFront .common (openBrace :: b ++ (t ++ after))
        = .error (.malformed fault left)) :
    normalize (before ++ t ++ after) = .ok doc := by
  have hlegible := FileDoc.legible (d := .common) hwhole 983 value hshows
  obtain ⟨members, rfl, _⟩ := FileDoc.reads_of_shows doc value hshows
  rw [normalize, extract_of_spells hlegible ht hbefore]
  simp only [docOf_of_shows hshows hname hpath]

/-- **Documentation is found in a reply.** A reply that holds, between
any text behind it and a text before it from none of whose braces on a
value can be read, a text of an object that shows documentation
without surrogates and without source labels, is read as that
documentation. What is written of the object in any style is such a
text. -/
theorem documentation_found_in_reply (doc : FileDoc) (hwhole : doc.IsWhole)
    (hname : doc.fileName = none) (hpath : doc.filePath = none) (value : Json)
    (hshows : doc.Shows value) (t : Text) (ht : Spells value t) (before after : Text)
    (hbefore : ∀ a b, before = a ++ openBrace :: b →
      ∃ fault left, readFront .common (openBrace :: b ++ (t ++ after))
        = .error (.malformed fault left)) :
    normalize (before ++ t ++ after) = .ok doc
      ∧ ∀ style : Json.Style, Spells value (value.write style) := by
  refine ⟨normalize_of_spells hwhole hname hpath hshows ht hbefore, fun style => ?_⟩
  exact spells_writeAt style _ 0 value (FileDoc.legible (d := .common) hwhole 0 value hshows)

/-- A file with a text that looks like an object. -/
def braced : FileDoc := ⟨"see \x7b\"overview\": 1\x7d", [], [], [], [], [], none, none⟩

/-- It is found behind a stray brace, with its absent labels shown and
spread over lines. -/
theorem normalize_braced :
    normalize ("\x7bx" ++ (braced.toJson .shown).write ⟨false, some 2⟩ ++ "```") = .ok braced := by
  have hwhole : braced.IsWhole :=
    ⟨by decide, by simp [braced], by simp [braced], by simp [braced], by simp [braced],
      by simp [braced], by simp [braced], by simp [braced]⟩
  have hshows := braced.shows_toJson .shown
  have hlegible := FileDoc.legible (d := .common) hwhole 0 _ hshows
  have hspells := spells_writeAt ⟨false, some 2⟩ _ 0 _ hlegible
  refine (documentation_found_in_reply braced hwhole rfl rfl _ hshows _ hspells _ "```" ?_).1
  intro a b hab
  -- The text in front has one brace, its first code point.
  have hb : b = [CodePoint.ofChar 'x'] := by
    rcases a with _ | ⟨c, _ | ⟨c', a⟩⟩
    · exact (List.cons.inj hab).2.symm
    · exact absurd (List.cons.inj (List.cons.inj hab).2).1 (by decide)
    · exact absurd (List.cons.inj (List.cons.inj hab).2).2 (by simp)
  rw [hb]
  exact ⟨_, _, readFront_of_no_name (by decide) (by decide) (by decide) (by decide) _⟩

end Reply

end DocScribe
