import DocScribe.Decimal.Double

/-!
# `DocScribe.Decimal.Shortest`: the fewest digits that read back

The decimal of a magnitude is looked for on coarser and coarser grids
the other way round: one significant digit first, then two, up to
seventeen. On each grid only the two neighbours of the value can read
back as it, so these are tried; of two hits the nearer wins, and of
two equally near ones the even one. If no grid had a hit, the exact
decimal would serve, which always reads back.
-/

set_option autoImplicit false

namespace DocScribe.Magnitude

/-- A positive decimal `digits * 10 ^ exponent`. -/
structure Decimal where
  digits : Nat
  exponent : Int
deriving DecidableEq, Repr

/-- Whether a decimal reads back as the magnitude. -/
def isReadFrom (m : Magnitude) (d : Decimal) : Bool :=
  ofDecimal d.digits d.exponent = some m

/-- The exponent of the leading decimal digit of `num / den`, which
is not zero. -/
def leadingExponent (num den : Nat) : Int :=
  if den ≤ num then ((Nat.toDigits 10 (num / den)).length : Int) - 1
  else -((Nat.toDigits 10 ((den + num - 1) / num - 1)).length : Int)

/-- `num / den` in units of `10 ^ e`, as a fraction. -/
def inUnits (num den : Nat) (e : Int) : Nat × Nat :=
  if 0 ≤ e then (num, den * power 10 e.toNat) else (num * power 10 (-e).toNat, den)

/-- The better one of the two neighbours of `m` on the grid of
decimals with `count` significant digits, if one of them reads
back. -/
def onGrid (m : Magnitude) (count : Nat) : Option Decimal :=
  let f := m.fraction
  let e := leadingExponent f.1 f.2 - count + 1
  let scaled := inUnits f.1 f.2 e
  let q := scaled.1 / scaled.2
  let r := scaled.1 % scaled.2
  let below : Decimal := ⟨q, e⟩
  let above : Decimal := ⟨q + 1, e⟩
  let aboveFirst := decide (scaled.2 < 2 * r ∨ (2 * r = scaled.2 ∧ q % 2 = 1))
  let candidates := if r = 0 then [below] else if aboveFirst then [above, below] else [below, above]
  candidates.find? m.isReadFrom

/-- The decimal that equals the magnitude. -/
def exactDecimal (m : Magnitude) : Decimal :=
  if 0 ≤ m.exponent then ⟨m.mantissa * power 2 m.exponent.toNat, 0⟩
  else ⟨m.mantissa * power 5 (-m.exponent).toNat, m.exponent⟩

/-- A decimal with the fewest digits that reads back as the
magnitude. -/
def shortest (m : Magnitude) : Decimal :=
  if m.mantissa = 0 then ⟨0, 0⟩
  else (((List.range 17).map (· + 1)).findSome? m.onGrid).getD m.exactDecimal

end DocScribe.Magnitude
