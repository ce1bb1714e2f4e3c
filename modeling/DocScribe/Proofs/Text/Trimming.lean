import DocScribe.Text.Blank

/-!
# `DocScribe.Proofs.Text.Trimming`: what trimming leaves

Without a tail a text is a beginning of what it was
(`Text.dropEndWhile_isPrefix`), it keeps whatever does not belong to a tail
(`Text.mem_dropEndWhile`), and it ends with something that does not, or
is empty (`Text.dropEndWhile_eq_nil_or`). So trimming leaves nothing of a
text that is all blanks, and only of such a text (`Text.trim_eq_nil_iff`).
-/

set_option autoImplicit false

namespace DocScribe.Text

/-- Without a tail, a beginning is left. So nothing that a text holds is
moved, and nothing is put in. -/
theorem dropEndWhile_isPrefix (p : CodePoint → Bool) (t : Text) : dropEndWhile p t <+: t := by
  induction t with
  | nil => exact List.prefix_refl []
  | cons c rest ih =>
      rw [dropEndWhile]
      split
      · split
        · exact List.nil_prefix
        · exact List.prefix_append [c] rest
      · exact List.cons_prefix_cons.mpr ⟨rfl, ih⟩

/-- What does not belong to a tail is left, wherever it stands. With this
one can tell that a code point survives without knowing where the tail
begins. -/
theorem mem_dropEndWhile {p : CodePoint → Bool} {c : CodePoint} {t : Text} (hc : c ∈ t)
    (hp : p c = false) : c ∈ dropEndWhile p t := by
  induction t with
  | nil => exact hc
  | cons d rest ih =>
      rw [dropEndWhile]
      split
      · next hnil =>
        -- Nothing is left of the rest, so `c` is the first.
        rcases List.mem_cons.mp hc with rfl | hrest
        · rw [if_neg (by simp [hp])]
          exact List.mem_cons_self
        · exact absurd (hnil ▸ ih hrest) List.not_mem_nil
      · rcases List.mem_cons.mp hc with rfl | hrest
        · exact List.mem_cons_self
        · exact List.mem_cons_of_mem _ (ih hrest)

/-- If something is left, it ends with what does not belong to the tail, or
the tail would be longer. -/
theorem dropEndWhile_eq_nil_or (p : CodePoint → Bool) (t : Text) :
    dropEndWhile p t = [] ∨ ∃ u c, dropEndWhile p t = u ++ [c] ∧ p c = false := by
  induction t with
  | nil => exact .inl rfl
  | cons d rest ih =>
      rw [dropEndWhile]
      split
      · split
        · exact .inl rfl
        · next hd => exact .inr ⟨[], d, rfl, Bool.eq_false_iff.mpr hd⟩
      · next hkept =>
        rcases ih with hnil | ⟨u, c, hu, hc⟩
        · exact absurd hnil hkept
        · exact .inr ⟨d :: u, c, by rw [hu, List.cons_append], hc⟩

/-- What stands in front of a tail is left as it is, up to the last code
point that is none of the tail. -/
theorem dropEndWhile_append {p : CodePoint → Bool} {c : CodePoint} (hc : p c = false) (u : Text)
    {v : Text} (hv : ∀ x ∈ v, p x = true) : dropEndWhile p (u ++ c :: v) = u ++ [c] := by
  induction u with
  | nil =>
      have hnil : dropEndWhile p v = [] := by
        rcases dropEndWhile_eq_nil_or p v with hnil | ⟨w, x, hw, hx⟩
        · exact hnil
        · have hmem : x ∈ dropEndWhile p v := hw ▸ List.mem_append_right w List.mem_cons_self
          exact absurd (hv x ((dropEndWhile_isPrefix p v).subset hmem)) (by simp [hx])
      rw [List.nil_append, dropEndWhile, hnil]
      simp [hc]
  | cons d u ih =>
      rw [List.cons_append, dropEndWhile, ih]
      split
      · next hnil => exact absurd hnil (by simp)
      · rfl

/-- All of it is left if nothing belongs to a tail. It would be enough if
the last code point did not, but in the cases that come up none does. -/
theorem dropEndWhile_eq_self {p : CodePoint → Bool} {t : Text} (h : ∀ c ∈ t, p c = false) :
    dropEndWhile p t = t := by
  induction t with
  | nil => rfl
  | cons c t ih =>
      rw [dropEndWhile, ih fun d hd => h d (List.mem_cons_of_mem c hd)]
      cases t with
      | nil => simp [h c List.mem_cons_self]
      | cons d t => rfl

/-- Nothing is left if all of it is a tail, and only then. For blanks this
says which texts count as empty after trimming. -/
theorem dropEndWhile_eq_nil_iff {p : CodePoint → Bool} {t : Text} :
    dropEndWhile p t = [] ↔ ∀ c ∈ t, p c = true := by
  constructor
  · intro h c hc
    cases hp : p c with
    | true => rfl
    | false => exact absurd (h ▸ mem_dropEndWhile hc hp) List.not_mem_nil
  · intro h
    rcases dropEndWhile_eq_nil_or p t with hnil | ⟨u, c, hu, hc⟩
    · exact hnil
    · have hmem : c ∈ dropEndWhile p t := hu ▸ List.mem_append_right u (List.mem_singleton_self c)
      have htail := h c ((dropEndWhile_isPrefix p t).subset hmem)
      exact absurd htail (by simp [hc])

/-- Trimming leaves nothing of what is trimmed alone: it is no matter from
which side it is gone through. -/
theorem trimWhile_eq_nil_iff {p : CodePoint → Bool} {t : Text} :
    trimWhile p t = [] ↔ ∀ c ∈ t, p c = true := by
  rw [trimWhile]
  induction t with
  | nil => simp [dropEndWhile]
  | cons c t ih =>
      by_cases hc : p c = true
      · rw [List.dropWhile_cons_of_pos hc, ih]
        simp [hc]
      · rw [List.dropWhile_cons_of_neg hc, dropEndWhile_eq_nil_iff]

/-- Trimming leaves nothing exactly of blanks. -/
theorem trim_eq_nil_iff {t : Text} : t.trim = [] ↔ ∀ c ∈ t, c.isBlank = true :=
  trimWhile_eq_nil_iff

/-- Trimming leaves a stretch of the text. -/
theorem trim_infix (t : Text) : t.trim <:+: t := by
  show dropEndWhile CodePoint.isBlank (t.dropWhile CodePoint.isBlank) <:+: t
  exact (dropEndWhile_isPrefix _ _).isInfix.trans (List.dropWhile_suffix _).isInfix

/-- Trimming leaves a text without blanks as it is. It would be enough that
none stand at its ends. -/
theorem trim_eq_self {t : Text} (h : ∀ c ∈ t, c.isBlank = false) : t.trim = t := by
  have hfront : t.dropWhile CodePoint.isBlank = t := by
    cases t with
    | nil => rfl
    | cons c t => rw [List.dropWhile_cons, h c List.mem_cons_self, if_neg Bool.false_ne_true]
  show dropEndWhile CodePoint.isBlank (t.dropWhile CodePoint.isBlank) = t
  rw [hfront, dropEndWhile_eq_self h]

/-- Something that is trimmed is a blank. So a text that changes when it is
trimmed has one. -/
theorem exists_blank_of_trim_ne {t : Text} (h : t.trim ≠ t) : ∃ c ∈ t, c.isBlank = true := by
  refine Classical.byContradiction fun hnone => h (trim_eq_self fun c hc => ?_)
  cases hblank : c.isBlank with
  | false => rfl
  | true => exact absurd ⟨c, hc, hblank⟩ hnone

/-- What trimming leaves does not vanish when it is trimmed again: it has
something that is no blank. -/
theorem trim_trim_eq_nil_iff {t : Text} : t.trim.trim = [] ↔ t.trim = [] := by
  constructor
  · intro h
    rcases dropEndWhile_eq_nil_or CodePoint.isBlank (t.dropWhile CodePoint.isBlank) with
      hnil | ⟨u, c, hu, hc⟩
    · exact hnil
    · have hmem : c ∈ t.trim := by
        rw [trim, trimWhile, hu]
        exact List.mem_append_right u (List.mem_singleton_self c)
      exact absurd (trim_eq_nil_iff.mp h c hmem) (by simp [hc])
  · intro h
    rw [h]
    rfl

end DocScribe.Text
