import DocScribe.Proofs.Document.RoundTrip
import DocScribe.Proofs.Json.Bounds
import DocScribe.Proofs.Leniency
import DocScribe.Proofs.Record.Wholeness

/-!
# `DocScribe.Proofs.Document.Loading`: what is loaded can be written

An archive is loaded from a text without surrogates, and no escape in it
may name half of a pair. So no string of its value has surrogates
(`Archive.hasWholeStrings_of_decode`), and neither has the documentation
in it (`Archive.isWhole_of_load`). Whatever is rendered of an archive can
be written to a file.
-/

set_option autoImplicit false

namespace DocScribe

namespace Json

variable {d : Dialect} {opening : Text}

/-- Where halves of pairs are not taken, an escape names no surrogate: two
halves that meet make a code point, and one by itself is a fault. -/
theorem not_isSurrogate_of_readEscape (hd : d.takesHalves = false) {s rest : Text}
    {unit : CodePoint} (h : readEscape d opening s = .ok (unit, rest)) :
    unit.isSurrogate = false := by
  rw [readEscape.eq_def] at h
  split at h
  · cases h
  · split at h
    · split at h
      · cases h
      · dsimp only at h
        split at h
        · cases h
        · next hwhole =>
          rw [hd, Bool.not_false, Bool.and_true, Except.ok.inj h] at hwhole
          exact Bool.eq_false_iff.mpr hwhole
    · split at h
      · next hletter =>
        exact (Prod.mk.inj (Except.ok.inj h)).1 ▸ not_isSurrogate_of_shortEscape?_eq hletter
      · cases h

/-- A string in a text without surrogates has none then. What is in it
stands in the text by itself, or was named by an escape. -/
theorem isWhole_of_readStringFrom (hd : d.takesHalves = false) (fuel : Nat)
    {read s t rest : Text} (hread : IsWhole read) (hs : IsWhole s)
    (h : readStringFrom d opening fuel read s = .ok (t, rest)) : IsWhole t := by
  induction fuel generalizing read s with
  | zero => cases h
  | succ fuel ih =>
      cases s with
      | nil => cases h
      | cons c s =>
          rw [isWhole_cons_iff] at hs
          rw [readStringFrom] at h
          split at h
          · obtain ⟨rfl, -⟩ := Prod.mk.inj (Except.ok.inj h)
            exact fun x hx => hread x (List.mem_reverse.mp hx)
          split at h
          · split at h
            · cases h
            · next hescape =>
              refine ih (isWhole_cons (not_isSurrogate_of_readEscape hd hescape) hread) ?_ h
              exact isWhole_of_subset (readEscape_suffix hescape).subset hs.2
          split at h
          · cases h
          · exact ih (isWhole_cons hs.1 hread) hs.2 h

/-- A value that is no string, array or object holds no strings. -/
theorem hasWholeStrings_of_readPlain {s rest : Text} {value : Json}
    (h : readPlain d s = .ok (value, rest)) : value.HasWholeStrings := by
  rw [HasWholeStrings, strings_of_readPlain h]
  exact List.forall_mem_nil _

/-- The strings of what is read from a text without surrogates have none
either. -/
theorem tracks_isWhole (hd : d.takesHalves = false) :
    Tracks d IsWhole IsWhole fun _ => HasWholeStrings where
  ends hs hrest := isWhole_of_subset hrest.subset hs
  string hs h := isWhole_of_readStringFrom hd _ isWhole_nil hs h
  str := hasWholeStrings_str.mpr
  plain := hasWholeStrings_of_readPlain
  arr := hasWholeStrings_arr.mpr
  obj h := hasWholeStrings_obj.mpr (forall_ofMembers h)
  beyond _ container := by
    cases container with
    | array => exact hasWholeStrings_arr.mpr (List.forall_mem_nil _)
    | object => exact hasWholeStrings_obj.mpr (List.forall_mem_nil _)

end Json

namespace Archive

open Json

variable {t : Text}

/-- The strings of what was decoded have no surrogates. -/
theorem hasWholeStrings_of_decode {value : Json} (h : decode t = .ok value) :
    value.HasWholeStrings := by
  obtain ⟨hwhole, rest, hread⟩ := exists_readFront_of_decode h
  exact ((tracks_isWhole rfl).readValue _ hwhole hread).1

/-- What is wrong with a list comes from its items: without issues, each
of them was an object. -/
theorem isWhole_of_each {n : Nat} {items : List Json} {docs : List FileDoc}
    (hitems : ∀ item ∈ items, item.HasWholeStrings)
    (hwritable : ∀ item ∈ items, item.isWritable = true)
    (h : Checked.each [] checkItem n items = .ok docs) : ∀ doc ∈ docs, doc.IsWhole := by
  induction items generalizing n docs with
  | nil =>
      obtain rfl : [] = docs := Checked.ok.inj h
      exact List.forall_mem_nil _
  | cons item items ih =>
      rw [List.forall_mem_cons] at hitems hwritable
      rw [Checked.each, List.nil_append] at h
      -- One item with issues is enough to have them of the list.
      cases hmore : Checked.each [] checkItem (n + 1) items with
      | bad issues =>
          rw [hmore] at h
          cases hfirst : checkItem [.index n] item <;> rw [hfirst] at h <;> cases h
      | ok more =>
          rw [hmore] at h
          cases item with
          | obj members =>
              obtain ⟨doc, hdoc, hreads⟩ := FileDoc.keepsWhole members hitems.1 hwritable.1
              have hfirst : checkItem [.index n] (.obj members) = .ok doc := hreads _
              rw [hfirst] at h
              obtain rfl : doc :: more = docs := Checked.ok.inj h
              exact List.forall_mem_cons.mpr ⟨hdoc, ih hitems.2 hwritable.2 hmore⟩
          | _ => cases h

/-- The documentation in an archive has no surrogates, whatever the text of
the archive is: one that has a surrogate is refused. So an archive that was
loaded can be written in any format. -/
theorem isWhole_of_load {docs : List FileDoc} (h : load t = .ok docs) :
    ∀ doc ∈ docs, doc.IsWhole := by
  rw [load] at h
  split at h
  · cases h
  next value hdecode =>
  have hvalue := hasWholeStrings_of_decode hdecode
  have hwritable := isWritable_of_decode hdecode
  cases value with
  | arr items =>
      have heach : (Checked.each [] checkItem 0 items).toExcept title = .ok docs := h
      cases hchecked : Checked.each [] checkItem 0 items with
      | bad issues =>
          rw [hchecked] at heach
          cases heach
      | ok found =>
          rw [hchecked] at heach
          exact Except.ok.inj heach ▸ isWhole_of_each (hasWholeStrings_arr.mp hvalue)
            (isWritable_arr.mp hwritable) hchecked
  | _ => cases h

end Archive

end DocScribe
