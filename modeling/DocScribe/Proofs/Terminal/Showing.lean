import DocScribe.Proofs.Json.Strings
import DocScribe.Proofs.Text.Utf8
import DocScribe.Terminal.Plain

/-!
# `DocScribe.Proofs.Terminal.Showing`: nothing that is shown brings in a surrogate

Between a message and the line that shows it, tags are escaped, read and
left out, and names of emoji make place for these. Each of the steps takes
code points away, or puts in backslashes or characters, and none of these
is a surrogate. So a message without surrogates is shown on a line without
surrogates (`Terminal.encodeError?_status`), which has bytes and which no
standard output can refuse.

The converse is left out: a surrogate may be lost on the way, inside of a
tag.
-/

set_option autoImplicit false

namespace DocScribe

open Json (IsWhole isWhole_append isWhole_append_iff isWhole_cons isWhole_cons_iff isWhole_nil
  isWhole_of_subset isWhole_replicate)

/-- Characters are no surrogates, and so no string that is written in the
program can bring one in. -/
theorem Text.isWhole_ofString (s : String) : IsWhole (Text.ofString s) := by
  intro c hc
  obtain ⟨character, -, rfl⟩ := List.mem_map.mp hc
  have hvalid := character.valid
  simp only [UInt32.isValidChar, Nat.isValidChar] at hvalid
  rw [CodePoint.isSurrogate, Bool.and_eq_false_iff, decide_eq_false_iff_not,
    decide_eq_false_iff_not]
  show ¬ 0xD800 ≤ character.val.toNat ∨ ¬ character.val.toNat ≤ 0xDFFF
  omega

/-- What follows a beginning is the rest of the text, so the two of them are
the text again. -/
theorem Text.eq_append_of_after? {beginning t rest : Text}
    (h : Text.after? beginning t = some rest) : t = beginning ++ rest := by
  rw [Text.after?] at h
  split at h
  · next hprefix =>
    obtain ⟨behind, rfl⟩ := List.isPrefixOf_iff_prefix.mp hprefix
    obtain rfl := Option.some.inj h
    rw [List.drop_left]
  · cases h

/-! ### Emoji -/

namespace Emoji

/-- What chooses a form is no surrogate. There are two of these code points,
and nothing if no form is asked for. -/
theorem isWhole_form (name : Text) : IsWhole (cutForm name).2 := by
  have hforms : ∀ form ∈ forms, form.2.isSurrogate = false := by decide
  rw [cutForm]
  split
  · next form hform =>
    exact isWhole_cons (hforms form (List.mem_of_find?_eq_some hform)) isWhole_nil
  · exact isWhole_nil

/-- An emoji is a string of characters, and a form may be chosen behind
it. -/
theorem isWhole_of_shown? {name t : Text} (h : shown? name = some t) : IsWhole t := by
  obtain ⟨entry, -, rfl⟩ := Option.map_eq_some_iff.mp h
  exact isWhole_append (Text.isWhole_ofString _) (isWhole_form name)

/-- A name stands in front of a colon, and what follows that colon is
left. -/
theorem eq_append_of_name? {t name rest : Text} (h : name? t = some (name, rest)) :
    t = name ++ (":" ++ rest) := by
  obtain ⟨behind, hbehind, hname⟩ := Option.map_eq_some_iff.mp h
  obtain ⟨rfl, rfl⟩ := Prod.mk.inj hname
  rw [← Text.eq_append_of_after? hbehind, List.takeWhile_append_dropWhile]

/-- Emoji in the place of their names bring in no surrogates, and neither
do names that are none, as they stay. -/
theorem isWhole_replaceWithin (fuel : Nat) {t : Text} (h : IsWhole t) :
    IsWhole (replaceWithin fuel t) := by
  induction fuel generalizing t with
  | zero => exact h
  | succ fuel ih =>
      cases t with
      | nil => exact h
      | cons c rest =>
          obtain ⟨hc, hrest⟩ := isWhole_cons_iff.mp h
          rw [replaceWithin]
          split
          · split
            · next name behind hname =>
              obtain rfl := eq_append_of_name? hname
              obtain ⟨hnamed, hbehind⟩ := isWhole_append_iff.mp hrest
              refine isWhole_append ?_ (ih (isWhole_append_iff.mp hbehind).2)
              cases hshown : shown? name with
              | none => exact isWhole_append (isWhole_cons hc hnamed) (isWhole_cons hc isWhole_nil)
              | some emoji => exact isWhole_of_shown? hshown
            · exact isWhole_cons hc (ih hrest)
          · exact isWhole_cons hc (ih hrest)

end Emoji

/-! ### Markup -/

namespace Markup

/-- Backslashes are no surrogates. -/
theorem isWhole_row (n : Nat) : IsWhole (row n) := isWhole_replicate (by decide) n

/-- A text is its backslashes and what follows them. So what is said of the
parts can be said of the text, and the other way round. -/
theorem row_backslashes (t : Text) : row (backslashes t).1 ++ (backslashes t).2 = t := by
  induction t with
  | nil => rfl
  | cons c rest ih =>
      rw [backslashes]
      split
      · next hc =>
        subst hc
        exact congrArg (CodePoint.backslash :: ·) ih
      · rfl

/-- The body of a tag and what follows are the text. Induction on the text,
since the body ends at the first closing bracket. -/
theorem eq_append_of_tagBody? {t body after : Text} (h : tagBody? t = some (body, after)) :
    t = body ++ after := by
  induction t generalizing body with
  | nil => cases h
  | cons c rest ih =>
      rw [tagBody?] at h
      split at h
      · obtain ⟨rfl, rfl⟩ := Prod.mk.inj (Option.some.inj h)
        rfl
      split at h
      · cases h
      obtain ⟨found, hfound, hcut⟩ := Option.map_eq_some_iff.mp h
      obtain ⟨rfl, rfl⟩ := Prod.mk.inj hcut
      rw [ih hfound]
      rfl

/-- A tag stands in front of what follows it. Two code points decide whether
there is one, and the body makes up the rest of it. -/
theorem eq_append_of_tag? {t tag after : Text} (h : tag? t = some (tag, after)) :
    t = tag ++ after := by
  rw [tag?.eq_def] at h
  split at h
  · split at h
    · obtain ⟨found, hfound, hcut⟩ := Option.map_eq_some_iff.mp h
      obtain ⟨rfl, rfl⟩ := Prod.mk.inj hcut
      rw [eq_append_of_tagBody? hfound]
      rfl
    · cases h
  · cases h

/-- What stands behind the backslashes of a text is a part of it. -/
theorem isWhole_behind {t : Text} (h : IsWhole t) : IsWhole (backslashes t).2 := by
  rw [← row_backslashes t] at h
  exact (isWhole_append_iff.mp h).2

/-- To escape a text brings in backslashes and nothing else. The induction
is on the fuel, as the text is cut behind a tag or in front of it. -/
theorem isWhole_escapeTags (fuel : Nat) {t : Text} (h : IsWhole t) :
    IsWhole (escapeTags fuel t) := by
  induction fuel generalizing t with
  | zero => exact h
  | succ fuel ih =>
      cases t with
      | nil => exact h
      | cons c rest =>
          obtain ⟨hc, hrest⟩ := isWhole_cons_iff.mp h
          have hbehind := isWhole_behind h
          cases hcut : backslashes (c :: rest) with | mk count behind =>
          rw [hcut] at hbehind
          simp only [escapeTags, hcut]
          split
          · next tag after htag =>
            rw [eq_append_of_tag? htag] at hbehind
            obtain ⟨htag, hafter⟩ := isWhole_append_iff.mp hbehind
            exact isWhole_append (isWhole_append (isWhole_row _) htag) (ih hafter)
          · split
            · exact isWhole_cons hc (ih hrest)
            · exact isWhole_append (isWhole_row _) (ih hbehind)

/-- The same of a whole text, at the end of which a backslash may be
doubled. -/
theorem isWhole_escape {t : Text} (h : IsWhole t) : IsWhole (escape t) := by
  have hescaped := isWhole_escapeTags t.length h
  rw [escape]
  split
  · exact isWhole_append hescaped (isWhole_cons (by decide) isWhole_nil)
  · exact hescaped

/-- Backslashes are taken away in front of brackets, and nothing is put in
their place. -/
theorem isWhole_withoutEscapes {t : Text} (h : IsWhole t) : IsWhole (withoutEscapes t) := by
  induction t using withoutEscapes.induct with
  | case1 => exact h
  | case2 c => exact h
  | case3 c d rest hescape ih =>
      obtain ⟨-, hrest⟩ := isWhole_cons_iff.mp h
      obtain ⟨hbracket, hrest⟩ := isWhole_cons_iff.mp hrest
      rw [withoutEscapes, if_pos hescape]
      exact isWhole_cons hbracket (ih hrest)
  | case4 c d rest hplain ih =>
      obtain ⟨hc, hrest⟩ := isWhole_cons_iff.mp h
      rw [withoutEscapes, if_neg hplain]
      exact isWhole_cons hc (ih hrest)

/-- A piece that is shown as it stands, but for its emoji. -/
theorem isWhole_toText_shown {t : Text} (h : IsWhole t) : IsWhole (Piece.shown t).toText :=
  Emoji.isWhole_replaceWithin _ (isWhole_withoutEscapes h)

/-- A stretch is one piece or none. If it is empty there is no piece, and
nothing is shown of it. -/
theorem isWhole_toText_stretch {t : Text} (h : IsWhole t) :
    IsWhole ((stretch t).flatMap Piece.toText) := by
  rw [stretch]
  split
  · exact isWhole_nil
  · rw [List.flatMap_singleton]
    exact isWhole_toText_shown h

/-- All that the pieces of a text show is taken from the text or from the
stretch that has begun before it. Induction on the fuel; it has to be about
any stretch, because code points move to it one by one. -/
theorem isWhole_toText_piecesFrom (fuel position : Nat) {before t : Text} (hbefore : IsWhole before)
    (h : IsWhole t) : IsWhole ((piecesFrom fuel position before t).flatMap Piece.toText) := by
  have hreverse {s : Text} (hs : IsWhole s) : IsWhole s.reverse :=
    isWhole_of_subset (List.reverse_subset.mpr (List.Subset.refl s)) hs
  induction fuel generalizing position before t with
  | zero => exact isWhole_toText_stretch (isWhole_append (hreverse hbefore) h)
  | succ fuel ih =>
      cases t with
      | nil => exact isWhole_toText_stretch (hreverse hbefore)
      | cons c rest =>
          obtain ⟨hc, hrest⟩ := isWhole_cons_iff.mp h
          have hbehind := isWhole_behind h
          cases hcut : backslashes (c :: rest) with | mk count behind =>
          rw [hcut] at hbehind
          simp only [piecesFrom, hcut]
          split
          · next tag after htag =>
            rw [eq_append_of_tag? htag] at hbehind
            obtain ⟨htag, hafter⟩ := isWhole_append_iff.mp hbehind
            rw [List.flatMap_append, List.flatMap_append, List.flatMap_cons]
            have hfront := isWhole_append (isWhole_toText_stretch (hreverse hbefore))
              (isWhole_toText_stretch (isWhole_row (count / 2)))
            refine isWhole_append hfront (isWhole_append ?_ (ih _ isWhole_nil hafter))
            -- An odd number of backslashes makes the tag a piece that is shown.
            split
            · exact isWhole_toText_shown htag
            · exact isWhole_nil
          · split
            · exact ih _ (isWhole_cons hc hbefore) hrest
            · exact ih _ (isWhole_append (isWhole_row _) hbefore) hbehind

/-- What a text without surrogates shows has none. -/
theorem isWhole_plain {t : Text} (h : IsWhole t) : IsWhole (plain t) := by
  have hpieces : IsWhole ((pieces t).flatMap Piece.toText) :=
    isWhole_toText_piecesFrom t.length 0 isWhole_nil h
  exact fun c hc => hpieces c (List.mem_filter.mp hc).1

end Markup

/-! ### Status lines -/

namespace Terminal

/-- A message without surrogates is shown on a line that has bytes, behind
a marker of the same kind. -/
theorem encodeError?_status {marker message : Text} (hmarker : IsWhole marker)
    (hmessage : IsWhole message) :
    ∀ line ∈ (status marker message).toLines, Utf8.encodeError? line = none := by
  intro line hline
  obtain rfl := List.mem_singleton.mp hline
  have hspace : IsWhole " " := by decide
  exact Utf8.encodeError?_eq_none_iff.mpr (Markup.isWhole_plain
    (isWhole_append (isWhole_append hmarker hspace) (Markup.isWhole_escape hmessage)))

end Terminal

end DocScribe
