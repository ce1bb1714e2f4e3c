import DocScribe.Text.Basic

/-!
# `DocScribe.Terminal.Control`: control sequences of terminals

A control sequence tells a terminal to move, to clear or to colour. It
begins with an escape and an opening bracket; parameters follow, then
intermediates, and one last code point says what is to be done. Any
number of the former may be missing but not the last one. An escape
that begins no such sequence is a code point like any other.

A reader that is no terminal gets documents without control sequences.
-/

set_option autoImplicit false

namespace DocScribe.Control

/-- The code point that a control sequence begins with. -/
abbrev escape : CodePoint := ⟨0x1B, by decide⟩

/-- What a control sequence goes on with: `0` to `?`. -/
def isParameter (c : CodePoint) : Bool :=
  0x30 ≤ c.val && c.val ≤ 0x3F

/-- What may follow the parameters: a space to `/`. -/
def isIntermediate (c : CodePoint) : Bool :=
  0x20 ≤ c.val && c.val ≤ 0x2F

/-- What a control sequence ends with: `@` to `~`. -/
def isFinal (c : CodePoint) : Bool :=
  0x40 ≤ c.val && c.val ≤ 0x7E

/-- How much of a text that follows an escape is a control sequence
with it, if it is one. -/
def lengthAfterEscape? (t : Text) : Option Nat :=
  (Text.after? "[" t).bind fun body =>
    let parameters := body.takeWhile isParameter
    let behind := body.drop parameters.length
    let intermediates := behind.takeWhile isIntermediate
    match behind.drop intermediates.length with
    | c :: _ => if isFinal c then some (parameters.length + intermediates.length + 2) else none
    | [] => none

/-- A text without its control sequences; the first `skipped` code
points are left out as well. -/
def dropFrom : Nat → Text → Text
  | _, [] => []
  | skipped + 1, _ :: rest => dropFrom skipped rest
  | 0, c :: rest =>
    match if c = escape then lengthAfterEscape? rest else none with
    | some length => dropFrom length rest
    | none => c :: dropFrom 0 rest

/-- A text without its control sequences. -/
def dropSequences (t : Text) : Text :=
  dropFrom 0 t

/-- A text without escapes stays as it is, because every control sequence
begins with one. -/
theorem dropSequences_of_not_mem (t : Text) (h : escape ∉ t) : dropSequences t = t := by
  unfold dropSequences
  induction t with
  | nil => rfl
  | cons c rest ih =>
    have other : c ≠ escape := fun same => h (by simp [same])
    have later : escape ∉ rest := fun found => h (List.mem_cons_of_mem c found)
    simp only [dropFrom, other, if_false, ih later]

end DocScribe.Control
