import DocScribe.Decimal.Shortest

/-!
# `DocScribe.Decimal.Notation`: how doubles are written

Three ways of writing a double: with the fewest digits that read
back, with six significant digits, and with a fixed number of places.
The layouts differ only in a few choices, so they are one record each.
-/

set_option autoImplicit false

namespace DocScribe

/-- How a decimal is laid out: up to which exponent of the leading
digit positional notation is used, and whether a whole number keeps a
zero behind the point. -/
structure DecimalLayout where
  highest : Int
  keepsPoint : Bool
deriving DecidableEq, Repr

namespace DecimalLayout

/-- The layout of values: positional below `10 ^ 16`, with a point. -/
def ofValues : DecimalLayout := ⟨15, true⟩

/-- The layout of measures in messages: positional below `10 ^ 6`,
without an idle point. -/
def ofMeasures : DecimalLayout := ⟨5, false⟩

/-- The digits of `d` behind a point, without idle zeros. -/
def places (digits : Text) : Text :=
  digits.dropEndWhile (· == CodePoint.ofChar '0')

/-- A positive decimal in a layout. Small numbers are positional down
to `10 ^ -4`; an exponent has a sign and at least two digits. -/
def write (layout : DecimalLayout) (d : Magnitude.Decimal) : Text :=
  let digits := Text.ofNat d.digits
  let leading : Int := (digits.length : Int) - 1 + d.exponent
  let withPlaces (whole fraction : Text) : Text :=
    match places fraction with
    | [] => if layout.keepsPoint then whole ++ ".0" else whole
    | kept => whole ++ "." ++ kept
  if leading < -4 ∨ layout.highest < leading then
    let fraction := places (digits.drop 1)
    digits.take 1 ++ (if fraction.isEmpty then [] else CodePoint.ofChar '.' :: fraction)
      ++ "e" ++ (if leading < 0 then "-" else "+") ++ Text.padZeros 2 (Text.ofNat leading.natAbs)
  else if leading < 0 then
    withPlaces "0" (List.replicate (leading.natAbs - 1) (CodePoint.ofChar '0') ++ digits)
  else
    let whole := leading.toNat + 1
    let padded := digits ++ List.replicate (whole - digits.length) (CodePoint.ofChar '0')
    withPlaces (padded.take whole) (padded.drop whole)

end DecimalLayout

namespace Magnitude

/-- The nearest decimal with at most `count` significant digits, a tie
to the even one. -/
def toSignificant (m : Magnitude) (count : Nat) : Decimal :=
  if m.mantissa = 0 then ⟨0, 0⟩
  else
    let f := m.fraction
    let e := leadingExponent f.1 f.2 - count + 1
    let scaled := inUnits f.1 f.2 e
    let digits := roundDiv scaled.1 scaled.2
    -- Rounding up may carry into one more digit.
    if digits = power 10 count then ⟨power 10 (count - 1), e + 1⟩ else ⟨digits, e⟩

/-- The magnitude with a fixed number of places behind the point. -/
def toPlaces (m : Magnitude) (count : Nat) : Text :=
  let f := m.fraction
  let digits := Text.padZeros (count + 1) (Text.ofNat (roundDiv (f.1 * power 10 count) f.2))
  digits.take (digits.length - count) ++ "." ++ digits.drop (digits.length - count)

end Magnitude

namespace Double

/-- The sign in front of a number. -/
def signText (negative : Bool) : Text :=
  if negative then "-" else ""

/-- A double around the text of its magnitude, with the words for the
values that have none. -/
def writeWith (magnitudeText : Magnitude → Text) (infinity notANumber : Text) : Double → Text
  | .nan => notANumber
  | .infinite negative => signText negative ++ infinity
  | .finite negative m => signText negative ++ magnitudeText m

/-- The text with the fewest digits that read back. -/
def toText : Double → Text :=
  writeWith (fun m => DecimalLayout.ofValues.write m.shortest) "inf" "nan"

/-- The text with at most six significant digits. -/
def toMeasure : Double → Text :=
  writeWith (fun m => DecimalLayout.ofMeasures.write (m.toSignificant 6)) "inf" "nan"

/-- The text with a fixed number of places. -/
def toPlaces (count : Nat) : Double → Text :=
  writeWith (fun m => m.toPlaces count) "inf" "nan"

end Double

end DocScribe
