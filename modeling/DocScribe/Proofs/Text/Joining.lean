import DocScribe.Text.Basic

/-!
# `DocScribe.Proofs.Text.Joining`: joined pieces and the pieces of a text

Joined pieces are the first one, and each of the others behind a
separator. Written like this a joined text takes an induction on the
pieces, which the definition with its look-ahead does not.

Cutting a text at a separator undoes joining and is undone by it
(`splitOn_joinWith`, `joinWith_splitOn`).
-/

set_option autoImplicit false

namespace DocScribe.Text

/-- The pieces behind the first one, each behind a separator. -/
def separated (sep : Text) (pieces : List Text) : Text := pieces.flatMap fun piece => sep ++ piece

/-- Joined pieces are the first and then the others, each with the separator
in front. -/
theorem joinWith_cons (sep piece : Text) (pieces : List Text) :
    joinWith sep (piece :: pieces) = piece ++ separated sep pieces := by
  induction pieces generalizing piece with
  | nil => simp [joinWith, separated]
  | cons next pieces ih =>
      rw [joinWith, ih next]
      simp [separated]

/-- Two lists of pieces are joined by one separator more, if there is
something on both sides of it. -/
theorem joinWith_append (sep : Text) {front back : List Text} (hfront : front ≠ [])
    (hback : back ≠ []) :
    joinWith sep (front ++ back) = joinWith sep front ++ (sep ++ joinWith sep back) := by
  obtain ⟨first, front, rfl⟩ := List.exists_cons_of_ne_nil hfront
  obtain ⟨next, back, rfl⟩ := List.exists_cons_of_ne_nil hback
  simp only [List.cons_append, joinWith_cons, separated, List.flatMap_append, List.flatMap_cons,
    List.append_assoc]

/-- A separator that is not empty is there once for every piece, so pieces
are no more than the code points of the text. -/
theorem length_le_length_separated (sep : Text) (hsep : sep ≠ []) (pieces : List Text) :
    pieces.length ≤ (separated sep pieces).length := by
  induction pieces with
  | nil => exact Nat.zero_le _
  | cons piece pieces ih =>
      have hpos : 0 < sep.length := List.length_pos_iff.mpr hsep
      simp only [separated, List.flatMap_cons, List.length_append, List.length_cons] at ih ⊢
      omega

/-- There is a piece before the first separator, even if it is empty. So an
empty text is one empty piece, and not none. -/
theorem splitOn_ne_nil (sep : CodePoint) (t : Text) : splitOn sep t ≠ [] := by
  cases t with
  | nil => exact List.cons_ne_nil [] []
  | cons c t =>
      rw [splitOn]
      split
      · exact List.cons_ne_nil _ _
      · split <;> exact List.cons_ne_nil _ _

/-- Pieces are cut apart at a separator, on both sides of it independently.
Induction on the text in front. -/
theorem splitOn_append_cons (sep : CodePoint) (a b : Text) :
    splitOn sep (a ++ sep :: b) = splitOn sep a ++ splitOn sep b := by
  induction a with
  | nil =>
      rw [List.nil_append, splitOn, splitOn, if_pos rfl, List.singleton_append]
  | cons c a ih =>
      rw [List.cons_append, splitOn, splitOn, ih]
      split
      · rfl
      · cases hpieces : splitOn sep a with
        | nil => exact absurd hpieces (splitOn_ne_nil sep a)
        | cons piece pieces => rfl

/-- A text without a separator is one piece, the text itself. -/
theorem splitOn_of_not_mem {sep : CodePoint} {t : Text} (h : sep ∉ t) : splitOn sep t = [t] := by
  induction t with
  | nil => rfl
  | cons c t ih =>
      obtain ⟨hc, ht⟩ := not_or.mp (fun hmem => h (List.mem_cons.mpr hmem))
      rw [splitOn, if_neg (fun hsep => hc hsep.symm), ih ht]

/-- A piece stands in the text, and there is no separator in it. The text is
cut at any of its separators, and the parts are shorter. -/
theorem infix_of_mem_splitOn {sep : CodePoint} {t piece : Text} (h : piece ∈ splitOn sep t) :
    piece <:+: t ∧ sep ∉ piece := by
  by_cases hsep : sep ∈ t
  · -- The piece lies on one side of a separator.
    obtain ⟨a, b, rfl⟩ := List.append_of_mem hsep
    rw [splitOn_append_cons] at h
    rcases List.mem_append.mp h with h | h
    · obtain ⟨hin, hnone⟩ := infix_of_mem_splitOn h
      exact ⟨hin.trans (List.prefix_append a (sep :: b)).isInfix, hnone⟩
    · obtain ⟨hin, hnone⟩ := infix_of_mem_splitOn h
      exact ⟨hin.trans ((List.suffix_cons sep b).trans (List.suffix_append a _)).isInfix, hnone⟩
  · rw [splitOn_of_not_mem hsep, List.mem_singleton] at h
    exact ⟨h ▸ List.infix_refl t, h ▸ hsep⟩
termination_by t.length

/-- The pieces of a text make up the text when they are joined by what they
were cut at. -/
theorem joinWith_splitOn (sep : CodePoint) (t : Text) : joinWith [sep] (splitOn sep t) = t := by
  induction t with
  | nil => rfl
  | cons c t ih =>
      rw [splitOn]
      cases hpieces : splitOn sep t with
      | nil => exact absurd hpieces (splitOn_ne_nil sep t)
      | cons piece pieces =>
          rw [hpieces, joinWith_cons] at ih
          split
          · next hc =>
            rw [joinWith_cons, separated, List.flatMap_cons, ← separated, ← ih, hc]
            rfl
          · rw [joinWith_cons, ← ih, List.cons_append]

/-- Pieces without a separator are the pieces of what they are joined
to. -/
theorem splitOn_joinWith {sep : CodePoint} {piece : Text} {pieces : List Text}
    (h : ∀ p ∈ piece :: pieces, sep ∉ p) :
    splitOn sep (joinWith [sep] (piece :: pieces)) = piece :: pieces := by
  induction pieces generalizing piece with
  | nil => exact splitOn_of_not_mem (h piece List.mem_cons_self)
  | cons next pieces ih =>
      rw [joinWith, List.append_assoc, List.singleton_append, splitOn_append_cons,
        splitOn_of_not_mem (h piece List.mem_cons_self),
        ih fun p hp => h p (List.mem_cons_of_mem piece hp), List.singleton_append]

end DocScribe.Text
