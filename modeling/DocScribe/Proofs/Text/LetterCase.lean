import DocScribe.Text.Blank
import DocScribe.Text.LetterCase
import Mathlib.Data.List.Basic

/-!
# `DocScribe.Proofs.Text.LetterCase`: the case of ASCII letters, and blanks

For ASCII texts it is one and the same to be equal in small letters and to
be equal in capitals (`toSmall_eq_iff`), as each of the two spellings can be
made from the other. Beyond ASCII this fails: there are capitals that two
small letters share.

Blanks have no case, within ASCII and beyond: a text in small letters has
the blanks of the text (`mem_toSmall_of_isBlank`).
-/

set_option autoImplicit false

namespace DocScribe.Text

/-- Whether a text is one of ASCII code points. -/
def isAscii (t : Text) : Bool := t.all fun c => c.val < 0x80

variable {s t : Text}

/-- The code points of an ASCII text are ASCII. -/
theorem lt_of_isAscii (h : t.isAscii = true) {c : CodePoint} (hc : c ∈ t) : c.val < 0x80 :=
  of_decide_eq_true (List.all_eq_true.mp h c hc)

/-- What is said of single ASCII code points is checked for all of them. -/
theorem forall_ascii {p : CodePoint → Prop} [DecidablePred p]
    (h : ∀ n : Fin 0x80, p ⟨n.val, Nat.lt_trans n.isLt (by decide)⟩) {c : CodePoint}
    (hc : c.val < 0x80) : p c :=
  h ⟨c.val, hc⟩

/-- Of an ASCII letter, the capital form of the small one is the capital
form. -/
theorem capital_flatMap_small {c : CodePoint} (h : c.val < 0x80) :
    c.small.flatMap CodePoint.capital = c.capital :=
  forall_ascii (p := fun c => c.small.flatMap CodePoint.capital = c.capital) (by decide) h

/-- Of an ASCII letter, the small form of the capital one is the small
form. -/
theorem small_flatMap_capital {c : CodePoint} (h : c.val < 0x80) :
    c.capital.flatMap CodePoint.small = c.small :=
  forall_ascii (p := fun c => c.capital.flatMap CodePoint.small = c.small) (by decide) h

/-- The capital form of an ASCII letter is ASCII as well. -/
theorem isAscii_capital {c : CodePoint} (h : c.val < 0x80) : isAscii c.capital = true :=
  forall_ascii (p := fun c => isAscii c.capital = true) (by decide) h

/-- Small letters of ASCII texts do not depend on their place. Only the last
letter of a word in Greek does. -/
theorem smallFrom_eq (h : t.isAscii = true) (afterLetter : Bool) :
    smallFrom afterLetter t = t.flatMap CodePoint.small := by
  induction t generalizing afterLetter with
  | nil => rfl
  | cons c t ih =>
      have hc : c.val < 0x80 := lt_of_isAscii h List.mem_cons_self
      have ht : isAscii t = true := (Bool.and_eq_true _ _ ▸ h : _ ∧ _).2
      rw [smallFrom, if_neg (by omega), ih ht, List.flatMap_cons]

/-- The capital form of an ASCII text is ASCII as well. -/
theorem isAscii_toCapital (h : t.isAscii = true) : t.toCapital.isAscii = true := by
  refine List.all_eq_true.mpr fun d hd => ?_
  obtain ⟨c, hc, hd⟩ := List.mem_flatMap.mp hd
  exact List.all_eq_true.mp (isAscii_capital (lt_of_isAscii h hc)) d hd

/-- The small letters of the capitals are those of the text. -/
theorem toSmall_toCapital (h : t.isAscii = true) : t.toCapital.toSmall = t.toSmall := by
  rw [toSmall, toSmall, smallFrom_eq h, smallFrom_eq (isAscii_toCapital h), toCapital,
    List.flatMap_assoc]
  exact List.flatMap_congr fun c hc => small_flatMap_capital (lt_of_isAscii h hc)

/-- The capitals of the small letters are those of the text. -/
theorem toCapital_toSmall (h : t.isAscii = true) : t.toSmall.toCapital = t.toCapital := by
  rw [toSmall, smallFrom_eq h, toCapital, List.flatMap_assoc]
  exact List.flatMap_congr fun c hc => capital_flatMap_small (lt_of_isAscii h hc)

/-- ASCII texts that are equal in small letters are so in capitals, and the
other way round. -/
theorem toSmall_eq_iff (hs : s.isAscii = true) (ht : t.isAscii = true) :
    s.toSmall = t.toSmall ↔ s.toCapital = t.toCapital := by
  constructor
  · intro h
    rw [← toCapital_toSmall hs, h, toCapital_toSmall ht]
  · intro h
    rw [← toSmall_toCapital hs, h, toSmall_toCapital ht]

end DocScribe.Text

namespace DocScribe

/-! ### Blanks -/

namespace CodePoint

/-- The numbers of the blanks. -/
def blankNumbers : List Nat :=
  [0x09, 0x0A, 0x0B, 0x0C, 0x0D, 0x1C, 0x1D, 0x1E, 0x1F, 0x20, 0x85, 0xA0, 0x1680, 0x2000, 0x2001,
    0x2002, 0x2003, 0x2004, 0x2005, 0x2006, 0x2007, 0x2008, 0x2009, 0x200A, 0x2028, 0x2029,
    0x202F, 0x205F, 0x3000]

/-- Every blank is in the list of their numbers, which can be gone
through. -/
theorem mem_blankNumbers {c : CodePoint} (h : c.isBlank = true) : c.val ∈ blankNumbers := by
  simp only [isBlank, isWhiteSpace, Bool.or_eq_true, Bool.and_eq_true, decide_eq_true_eq,
    beq_iff_eq] at h
  simp only [blankNumbers, List.mem_cons, List.not_mem_nil, or_false]
  omega

/-- No run of the table sends a blank elsewhere. -/
theorem image?_of_mem_blankNumbers :
    ∀ n ∈ blankNumbers, CaseTable.image? Text.CaseTable.smallRuns n = none := by
  decide +kernel

/-- A blank has no other small form. There are finitely many blanks, and
each is looked at. -/
theorem small_of_isBlank {c : CodePoint} (h : c.isBlank = true) : c.small = [c] := by
  have hnumber := mem_blankNumbers h
  have hletter : ¬ (0x41 ≤ c.val ∧ c.val ≤ 0x5A) ∧ c.val ≠ 0x130 := by
    simp only [blankNumbers, List.mem_cons, List.not_mem_nil, or_false] at hnumber
    omega
  unfold small
  split
  · exact if_neg (by simpa using hletter.1)
  · rw [if_neg (by simpa using hletter.2), image?_of_mem_blankNumbers _ hnumber]

end CodePoint

namespace Text

/-- Blanks have no letter case: they are kept when a text is put in small
letters, wherever the letters before them end. -/
theorem mem_smallFrom_of_isBlank {c : CodePoint} (hblank : c.isBlank = true) {t : Text}
    (h : c ∈ t) (afterLetter : Bool) : c ∈ smallFrom afterLetter t := by
  induction t generalizing afterLetter with
  | nil => cases h
  | cons d t ih =>
      rw [smallFrom]
      rcases List.mem_cons.mp h with rfl | hrest
      · -- The small form of a sigma depends on its place, but a sigma is no blank.
        have hsigma : c.val ≠ 0x3A3 := by
          intro heq
          exact absurd (CodePoint.mem_blankNumbers hblank) (by rw [heq]; decide)
        rw [if_neg hsigma, CodePoint.small_of_isBlank hblank]
        exact List.mem_append_left _ (List.mem_singleton_self c)
      · exact List.mem_append_right _ (ih hrest _)

/-- Small letters keep the blanks of a text. -/
theorem mem_toSmall_of_isBlank {c : CodePoint} {t : Text} (hblank : c.isBlank = true)
    (h : c ∈ t) : c ∈ t.toSmall :=
  mem_smallFrom_of_isBlank hblank h false

end Text

end DocScribe
