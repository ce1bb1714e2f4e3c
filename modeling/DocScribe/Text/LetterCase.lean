import DocScribe.Text.Basic
import DocScribe.Text.CaseTable

/-!
# `DocScribe.Text.LetterCase`: small and capital letters

The full case mappings of Unicode on texts. Small letters depend on
their place in one case: a capital sigma that ends a word becomes the
final sigma. Capitals never depend on their place, but may be longer
than the letter they belong to.
-/

set_option autoImplicit false

namespace DocScribe

namespace CaseTable

/-- Where a run of the table sends a number, if one of them holds
it. -/
def image? (runs : List (Nat × Nat × Nat × Nat)) (n : Nat) : Option Nat :=
  (runs.find? fun run =>
    run.1 ≤ n && n ≤ run.2.1 && (n - run.1) % run.2.2.1 == 0).map fun run =>
      run.2.2.2 + (n - run.1)

/-- Whether a number lies in one of the ranges. -/
def inRanges (ranges : List (Nat × Nat)) (n : Nat) : Bool :=
  ranges.any fun range => range.1 ≤ n && n ≤ range.2

end CaseTable

namespace CodePoint

/-- The small form, away from a word end. -/
def small (c : CodePoint) : Text :=
  if c.val < 0x80 then
    if 0x41 ≤ c.val && c.val ≤ 0x5A then [ofNatD (c.val + 0x20)] else [c]
  else if c.val == 0x130 then [ofChar 'i', ofNatD 0x307]
  else
    match CaseTable.image? Text.CaseTable.smallRuns c.val with
    | some n => [ofNatD n]
    | none => [c]

/-- The capital form. -/
def capital (c : CodePoint) : Text :=
  if c.val < 0x80 then
    if 0x61 ≤ c.val && c.val ≤ 0x7A then [ofNatD (c.val - 0x20)] else [c]
  else
    match Text.CaseTable.expansions.find? (fun e => e.1 == c.val) with
    | some e => e.2.map ofNatD
    | none =>
      match CaseTable.image? Text.CaseTable.capitalRuns c.val with
      | some n => [ofNatD n]
      | none => [c]

/-- Whether the code point is a letter with case. -/
def isCased (c : CodePoint) : Bool :=
  if c.val < 0x80 then c.isAsciiLetter
  else CaseTable.inRanges Text.CaseTable.casedRanges c.val

/-- Whether a search for the neighbouring letter passes over the code
point. -/
def isPassedOver (c : CodePoint) : Bool :=
  CaseTable.inRanges Text.CaseTable.passedRanges c.val

end CodePoint

namespace Text

/-- Whether the next letter, if there is one, has case. -/
def beginsCased (t : Text) : Bool :=
  match t.dropWhile CodePoint.isPassedOver with
  | [] => false
  | c :: _ => c.isCased

/-- Small letters for what follows a place; `afterLetter` says
whether the letter before that place has case. -/
def smallFrom (afterLetter : Bool) : Text → Text
  | [] => []
  | c :: rest =>
    (if c.val = 0x3A3 then
        [CodePoint.ofNatD (if afterLetter && !beginsCased rest then 0x3C2 else 0x3C3)]
      else c.small)
      ++ smallFrom (if c.isPassedOver then afterLetter else c.isCased) rest

/-- The text in small letters. -/
def toSmall (t : Text) : Text :=
  smallFrom false t

/-- The text in capitals. -/
def toCapital (t : Text) : Text :=
  t.flatMap CodePoint.capital

end Text

end DocScribe
