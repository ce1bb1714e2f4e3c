import DocScribe.Text.Basic

/-!
# `DocScribe.Decimal.Double`: double-precision numbers

The numbers of the binary64 format as a type of exact values: a sign
and a magnitude `mantissa * 2 ^ exponent` in the one form that the
format allows, infinities, and a single not-a-number. All arithmetic
on them is exact arithmetic on naturals, so that reading and writing
decimals can be reasoned about.

A rational is rounded to the nearest magnitude, a tie to the even
mantissa; what lies beyond the largest one becomes infinite.
-/

set_option autoImplicit false

namespace DocScribe

/-- A power of a natural number. -/
def power (base n : Nat) : Nat :=
  Nat.pow base n

/-- The first mantissa of 54 bits. -/
abbrev mantissaLimit : Nat := 9007199254740992

/-- The first mantissa of 53 bits. -/
abbrev leastFullMantissa : Nat := 4503599627370496

/-- A finite magnitude. Where the mantissa has fewer than 53 bits the
exponent is the least one. -/
structure Magnitude where
  mantissa : Nat
  exponent : Int
  mantissa_lt : mantissa < mantissaLimit
  le_exponent : -1074 ≤ exponent
  exponent_le : exponent ≤ 971
  normal : leastFullMantissa ≤ mantissa ∨ exponent = -1074
deriving DecidableEq

namespace Magnitude

/-- The magnitude with the given parts, if the format has it. -/
def ofParts? (mantissa : Nat) (exponent : Int) : Option Magnitude :=
  if h : mantissa < mantissaLimit ∧ -1074 ≤ exponent ∧ exponent ≤ 971
      ∧ (leastFullMantissa ≤ mantissa ∨ exponent = -1074) then
    some ⟨mantissa, exponent, h.1, h.2.1, h.2.2.1, h.2.2.2⟩
  else none

/-- Zero. -/
def zero : Magnitude :=
  ⟨0, -1074, by decide, by decide, by decide, .inr rfl⟩

instance : Inhabited Magnitude := ⟨zero⟩

/-- The exact value as a fraction. -/
def fraction (m : Magnitude) : Nat × Nat :=
  if 0 ≤ m.exponent then (m.mantissa * power 2 m.exponent.toNat, 1)
  else (m.mantissa, power 2 (-m.exponent).toNat)

/-- `num / den` rounded to a natural number, a tie to the even one. -/
def roundDiv (num den : Nat) : Nat :=
  let q := num / den
  let r := num % den
  if den < 2 * r ∨ (2 * r = den ∧ q % 2 = 1) then q + 1 else q

/-- `num / (den * 2 ^ e)` as a fraction. -/
def unscale (num den : Nat) (e : Int) : Nat × Nat :=
  if 0 ≤ e then (num, den * power 2 e.toNat) else (num * power 2 (-e).toNat, den)

/-- The exponent at which `num / den`, which is not zero, has a
mantissa of 53 bits, or the least exponent. -/
def exponentOf (num den : Nat) : Int :=
  let low : Int := (Nat.log2 num : Int) - (Nat.log2 den : Int) - 53
  let scaled := unscale num den low
  -- The logarithms are rounded down, so that `low` may be one too small.
  let e := if mantissaLimit ≤ scaled.1 / scaled.2 then low + 1 else low
  if e < -1074 then -1074 else e

/-- The magnitude nearest to `num / den`, or `none` if that is beyond
the largest one. -/
def round (num den : Nat) : Option Magnitude :=
  if num = 0 then some zero
  else
    let e := exponentOf num den
    let scaled := unscale num den e
    let m := roundDiv scaled.1 scaled.2
    -- Rounding up may carry into a 54th bit, which the next exponent takes.
    if m = mantissaLimit then ofParts? leastFullMantissa (e + 1) else ofParts? m e

/-- The fraction that `digits * 10 ^ exponent` stands for. -/
def decimalFraction (digits : Nat) (exponent : Int) : Nat × Nat :=
  if 0 ≤ exponent then (digits * power 10 exponent.toNat, 1)
  else (digits, power 10 (-exponent).toNat)

/-- The magnitude nearest to `digits * 10 ^ exponent`. Beyond the
format's range on either side the answer is known without the power
being computed. -/
def ofDecimal (digits : Nat) (exponent : Int) : Option Magnitude :=
  let length : Int := (Nat.toDigits 10 digits).length
  if digits = 0 then some zero
  else if 310 < length + exponent then none
  else if length + exponent < -330 then some zero
  else
    let f := decimalFraction digits exponent
    round f.1 f.2

end Magnitude

/-- A number of the binary64 format. -/
inductive Double where
  | nan
  | infinite (negative : Bool)
  | finite (negative : Bool) (magnitude : Magnitude)
deriving DecidableEq

namespace Double

instance : Inhabited Double := ⟨.nan⟩

/-- The double nearest to `± digits * 10 ^ exponent`. -/
def ofDecimal (negative : Bool) (digits : Nat) (exponent : Int) : Double :=
  match Magnitude.ofDecimal digits exponent with
  | some m => .finite negative m
  | none => .infinite negative

/-- The double nearest to an integer. -/
def ofInt (n : Int) : Double :=
  match Magnitude.round n.natAbs 1 with
  | some m => .finite (n < 0) m
  | none => .infinite (n < 0)

/-- The integer that a double is, if it is one. -/
def toInt? : Double → Option Int
  | .finite negative m =>
    let f := m.fraction
    if f.1 % f.2 = 0 then
      some (if negative then -((f.1 / f.2 : Nat) : Int) else ((f.1 / f.2 : Nat) : Int))
    else none
  | _ => none

/-- The exact value of a finite double as a signed fraction. -/
def signedFraction (negative : Bool) (m : Magnitude) : Int × Nat :=
  let f := m.fraction
  (if negative then -(f.1 : Int) else f.1, f.2)

/-- The sum of two doubles. -/
def add : Double → Double → Double
  | .finite a m, .finite b n =>
    let x := signedFraction a m
    let y := signedFraction b n
    let num := x.1 * y.2 + y.1 * x.2
    if num = 0 then .finite (a && b) .zero
    else
      match Magnitude.round num.natAbs (x.2 * y.2) with
      | some sum => .finite (num < 0) sum
      | none => .infinite (num < 0)
  | .nan, _ => .nan
  | _, .nan => .nan
  | .infinite a, .infinite b => if a = b then .infinite a else .nan
  | .infinite a, .finite _ _ => .infinite a
  | .finite _ _, .infinite b => .infinite b

/-- Whether a double is a number and not an infinite one. -/
def isFinite : Double → Bool
  | .finite _ _ => true
  | _ => false

/-- Whether a double is zero, of either sign. -/
def isZero : Double → Bool
  | .finite _ m => m.mantissa == 0
  | _ => false

/-- `0 < x`. False of not-a-number. -/
def isPositive : Double → Bool
  | .nan => false
  | .infinite negative => !negative
  | .finite negative m => !negative && m.mantissa != 0

/-- `0 ≤ x`. False of not-a-number. -/
def isNonnegative : Double → Bool
  | .nan => false
  | .infinite negative => !negative
  | .finite negative m => !negative || m.mantissa == 0

/-- `x ≤ 1`. False of not-a-number. -/
def isAtMostOne : Double → Bool
  | .nan => false
  | .infinite negative => negative
  | .finite negative m => negative || m.fraction.1 ≤ m.fraction.2

end Double

end DocScribe
