import DocScribe.Proofs.Json.Grammar
import DocScribe.Proofs.Text.Digits
import DocScribe.Proofs.Text.Joining

/-!
# `DocScribe.Proofs.Json.Wholeness`: texts without surrogates

A dialect that takes no half of a surrogate pair can take only values
whose strings have none, and then no text that spells such a value
has any (`Spells.isWhole`). The marks, blanks, digits and escapes
around the strings are ASCII.
-/

set_option autoImplicit false

namespace DocScribe.Json

/-- The empty text has no surrogates. -/
theorem isWhole_nil : IsWhole [] := fun c hc => absurd hc (by simp)

/-- Two texts without surrogates are one text without them, when they stand
one behind the other. -/
theorem isWhole_append {s t : Text} (hs : IsWhole s) (ht : IsWhole t) : IsWhole (s ++ t) := by
  intro c hc
  rcases List.mem_append.mp hc with hc | hc
  · exact hs c hc
  · exact ht c hc

/-- One more code point in front. -/
theorem isWhole_cons {c : CodePoint} {t : Text} (hc : c.isSurrogate = false) (ht : IsWhole t) :
    IsWhole (c :: t) :=
  List.forall_mem_cons.mpr ⟨hc, ht⟩

/-- Joined pieces are whole if the pieces and the separator are. Here only
this direction is needed. -/
theorem isWhole_joinWith {sep : Text} (hsep : IsWhole sep) {pieces : List Text}
    (h : ∀ piece ∈ pieces, IsWhole piece) : IsWhole (Text.joinWith sep pieces) := by
  cases pieces with
  | nil => exact isWhole_nil
  | cons piece pieces =>
      rw [Text.joinWith_cons]
      refine isWhole_append (h piece List.mem_cons_self) fun c hc => ?_
      obtain ⟨next, hnext, hc⟩ := List.mem_flatMap.mp hc
      exact isWhole_append hsep (h next (List.mem_cons_of_mem _ hnext)) c hc

/-- Code points below the surrogates are none. -/
theorem not_isSurrogate_of_lt {c : CodePoint} (h : c.val < 0xD800) : c.isSurrogate = false := by
  simp only [CodePoint.isSurrogate, Bool.and_eq_false_iff, decide_eq_false_iff_not]
  omega

/-! ### The parts of a text -/

/-- Blanks are no surrogates. There are four of them, all in ASCII. -/
theorem Blanks.isWhole {s : Text} (h : Blanks s) : IsWhole s := by
  intro c hc
  have hspace := h c hc
  simp only [isSpace, Bool.or_eq_true, beq_iff_eq] at hspace
  exact not_isSurrogate_of_lt (by omega)

/-- Digits are no surrogates, as they are ASCII. -/
theorem not_isSurrogate_of_isDigit {c : CodePoint} (h : c.isDigit = true) :
    c.isSurrogate = false := by
  simp only [CodePoint.isDigit, Bool.and_eq_true, decide_eq_true_eq] at h
  exact not_isSurrogate_of_lt (by omega)

/-- Hexadecimal digits are no surrogates either. Besides the digits they are
letters of ASCII, in either case. -/
theorem not_isSurrogate_of_hexValue? {c : CodePoint} {n : Nat} (h : c.hexValue? = some n) :
    c.isSurrogate = false := by
  rw [CodePoint.hexValue?] at h
  split at h
  · next hdigit => exact not_isSurrogate_of_isDigit hdigit
  split at h
  · next hrange =>
    simp only [Bool.and_eq_true, decide_eq_true_eq] at hrange
    exact not_isSurrogate_of_lt (by omega)
  split at h
  · next hrange =>
    simp only [Bool.and_eq_true, decide_eq_true_eq] at hrange
    exact not_isSurrogate_of_lt (by omega)
  · exact absurd h (by simp)

/-- So an escape has none in it, even if it stands for one. What is written
are a backslash, a letter and digits. -/
theorem SpellsUnit.isWhole {n : Nat} {quad : Text} (h : SpellsUnit n quad) : IsWhole quad := by
  cases h with
  | quad ha hb hc hd =>
      exact isWhole_cons (not_isSurrogate_of_hexValue? ha)
        (isWhole_cons (not_isSurrogate_of_hexValue? hb)
          (isWhole_cons (not_isSurrogate_of_hexValue? hc)
            (isWhole_cons (not_isSurrogate_of_hexValue? hd) isWhole_nil)))

/-- The letter of an escape is no surrogate. What it stands for is another
question. -/
theorem not_isSurrogate_of_shortEscape? {e c : CodePoint} (h : shortEscape? e = some c) :
    e.isSurrogate = false := by
  rw [shortEscape?] at h
  split at h
  · next hmark => rcases hmark with rfl | rfl | rfl <;> decide
  split at h
  · next hletter => exact hletter ▸ by decide
  split at h
  · next hletter => exact hletter ▸ by decide
  split at h
  · next hletter => exact hletter ▸ by decide
  split at h
  · next hletter => exact hletter ▸ by decide
  split at h
  · next hletter => exact hletter ▸ by decide
  · exact absurd h (by simp)

/-- An escape is ASCII, and a code point that stands for itself is as
good as its text. -/
theorem SpellsPoint.isWhole {c : CodePoint} {piece : Text} (h : SpellsPoint c piece)
    (hc : c.isSurrogate = false) : IsWhole piece := by
  cases h with
  | plain hlow hquote hslash => exact isWhole_cons hc isWhole_nil
  | letter h =>
      exact isWhole_cons (by decide)
        (isWhole_cons (not_isSurrogate_of_shortEscape? h) isWhole_nil)
  | number h => exact isWhole_cons (by decide) (isWhole_cons (by decide) h.isWhole)
  | pair hhigh hhigh' hlow hlow' hval h h' =>
      refine isWhole_cons (by decide) (isWhole_cons (by decide) (isWhole_append h.isWhole ?_))
      exact isWhole_cons (by decide) (isWhole_cons (by decide) h'.isWhole)

/-- A spelling of a whole string is whole, however much of it is escaped.
What is not escaped stands there as it is. -/
theorem SpellsString.isWhole {t s : Text} (h : SpellsString t s) (ht : IsWhole t) :
    IsWhole s := by
  induction h with
  | nil => exact isWhole_nil
  | cons hpoint _ ih =>
      exact isWhole_append (hpoint.isWhole (ht _ List.mem_cons_self))
        (ih fun c hc => ht c (List.mem_cons_of_mem _ hc))

/-- Quotation marks around a text add no surrogates. -/
theorem isWhole_quotedText {s : Text} (h : IsWhole s) : IsWhole (quotedText s) :=
  isWhole_cons (by decide) (isWhole_append h (isWhole_cons (by decide) isWhole_nil))

/-- An integer is written in digits with a sign. -/
theorem isWhole_ofInt (n : Int) : IsWhole (Text.ofInt n) := by
  have hdigits (m : Nat) : IsWhole (Text.ofNat m) := fun c hc =>
    not_isSurrogate_of_isDigit (Text.isDigit_of_mem_ofNat m c hc)
  cases n with
  | ofNat m => exact hdigits m
  | negSucc m => exact isWhole_cons (by decide) (hdigits (m + 1))

/-- The content of a container between its marks. -/
theorem isWhole_between {opening closing : CodePoint} (ho : opening.isSurrogate = false)
    (hc : closing.isSurrogate = false) {s : Text} (hs : IsWhole s) :
    IsWhole (opening :: s ++ [closing]) :=
  isWhole_cons ho (isWhole_append hs (isWhole_cons hc isWhole_nil))

/-- Blanks around an item keep it whole. -/
theorem ItemPart.isWhole_padded {p : ItemPart} (hpad : p.IsPadded) (h : IsWhole p.text) :
    IsWhole p.padded :=
  isWhole_append (isWhole_append hpad.1.isWhole h) hpad.2.isWhole

/-- So do blanks around a member, and around the colon in it. The key and
the value are what counts. -/
theorem MemberPart.isWhole_padded {p : MemberPart} (hpad : p.IsPadded) (hkey : IsWhole p.key)
    (h : IsWhole p.item.text) : IsWhole p.padded := by
  obtain ⟨hbefore, hafter, hitem, hspells⟩ := hpad
  have hquoted := isWhole_quotedText (hspells.isWhole hkey)
  exact isWhole_append
    (isWhole_append (isWhole_append hbefore.isWhole hquoted) hafter.isWhole)
    (isWhole_cons (by decide) (ItemPart.isWhole_padded hitem h))

/-! ### Values -/

/-- No text of a value without surrogates has any, whichever of its
spellings it is: keys and strings are whole, and all that is around them is
ASCII. Induction on the spelling. -/
theorem Spells.isWhole {d : Dialect} (hd : d.takesHalves = false) {j : Json} {t : Text}
    (h : Spells j t) : ∀ {depth : Nat}, Legible d depth j → IsWhole t := by
  induction h with
  | null => exact fun _ => by decide
  | bool b => exact fun _ => by cases b <;> decide
  | int n => exact fun _ => isWhole_ofInt n
  | @str t s h =>
      intro depth hj
      -- A string is legible alike on every level.
      have htext : LegibleText d t := by cases depth <;> exact hj
      exact isWhole_quotedText (h.isWhole (htext.2 hd))
  | emptyArr h => exact fun _ => isWhole_between (by decide) (by decide) h.isWhole
  | @arr parts hne hpad h ih =>
      intro depth hj
      cases depth with
      | zero => exact hj.elim
      | succ depth =>
          refine isWhole_between (by decide) (by decide)
            (isWhole_joinWith (by decide) fun piece hpiece => ?_)
          obtain ⟨p, hp, rfl⟩ := List.mem_map.mp hpiece
          exact ItemPart.isWhole_padded (hpad p hp) (ih p hp (hj _ (List.mem_map_of_mem hp)))
  | emptyObj h => exact fun _ => isWhole_between (by decide) (by decide) h.isWhole
  | @obj parts hne hpad h ih =>
      intro depth hj
      cases depth with
      | zero => exact hj.elim
      | succ depth =>
          refine isWhole_between (by decide) (by decide)
            (isWhole_joinWith (by decide) fun piece hpiece => ?_)
          obtain ⟨p, hp, rfl⟩ := List.mem_map.mp hpiece
          obtain ⟨hkey, hitem⟩ := hj.2 _ (List.mem_map_of_mem hp)
          exact MemberPart.isWhole_padded (hpad p hp) (hkey.2 hd) (ih p hp hitem)

end DocScribe.Json
