import DocScribe.Text.Quoted
import Mathlib.Data.List.Induction
import Mathlib.Tactic.Ring

/-!
# `DocScribe.Proofs.Text.Digits`: numbers as digits

What the digits of a number are and that they are worth the number:
decimal digits of any count for `Text.ofNat`, numerals filled up to a
width, and the four hexadecimal digits of a sixteen-bit unit for
`Text.hex 4`.
-/

set_option autoImplicit false

namespace DocScribe.Text

/-! ### Decimal digits -/

/-- A single decimal digit as a code point. -/
def digitPoint (n : Nat) : CodePoint := CodePoint.ofChar (Nat.digitChar n)

/-- The ten digits are digits. -/
theorem isDigit_digitPoint {n : Nat} (h : n < 10) : (digitPoint n).isDigit = true := by
  have key : ∀ n < 10, (digitPoint n).isDigit = true := by decide
  exact key n h

/-- A digit is worth its number. -/
theorem digitValue_digitPoint {n : Nat} (h : n < 10) : (digitPoint n).digitValue = n := by
  have key : ∀ n < 10, (digitPoint n).digitValue = n := by decide
  exact key n h

/-- Only zero is written with the digit zero. -/
theorem eq_zero_of_digitPoint {n : Nat} (h : n < 10) (hz : digitPoint n = CodePoint.ofChar '0') :
    n = 0 := by
  have key : ∀ n < 10, digitPoint n = CodePoint.ofChar '0' → n = 0 := by decide
  exact key n h hz

/-- A number below ten is one digit. -/
theorem ofNat_of_lt {n : Nat} (h : n < 10) : ofNat n = [digitPoint n] := by
  simp only [ofNat, Nat.toDigits_of_lt_base h, List.map_cons, List.map_nil, digitPoint]

/-- The digits of a larger number: those of its tenth, and the last
one. -/
theorem ofNat_of_le {n : Nat} (h : 10 ≤ n) :
    ofNat n = ofNat (n / 10) ++ [digitPoint (n % 10)] := by
  simp only [ofNat, Nat.toDigits_of_base_le (by decide : 1 < 10) h, List.map_append,
    List.map_cons, List.map_nil, digitPoint]

/-- Every number has digits, zero too. -/
theorem ofNat_ne_nil (n : Nat) : ofNat n ≠ [] := by
  simp only [ofNat, ne_eq, List.map_eq_nil_iff]
  exact Nat.toDigits_ne_nil

/-- The text of a number holds digits only, and so neither blanks nor
signs. -/
theorem isDigit_of_mem_ofNat (n : Nat) : ∀ c ∈ ofNat n, c.isDigit = true := by
  induction n using Nat.strongRecOn with
  | _ n ih =>
      intro c hc
      by_cases h : n < 10
      · rw [ofNat_of_lt h, List.mem_singleton] at hc
        rw [hc]
        exact isDigit_digitPoint h
      · rw [ofNat_of_le (by omega), List.mem_append, List.mem_singleton] at hc
        rcases hc with hc | rfl
        · exact ih (n / 10) (by omega) c hc
        · exact isDigit_digitPoint (by omega)

/-- The text of a number is worth the number, so different numbers have
different texts. -/
theorem digitsValue_ofNat (n : Nat) : digitsValue (ofNat n) = n := by
  induction n using Nat.strongRecOn with
  | _ n ih =>
      by_cases h : n < 10
      · rw [ofNat_of_lt h]
        simp only [digitsValue, List.foldl_cons, List.foldl_nil, digitValue_digitPoint h]
        omega
      · have hrec : digitsValue (ofNat (n / 10)) = n / 10 := ih (n / 10) (by omega)
        rw [ofNat_of_le (by omega)]
        simp only [digitsValue, List.foldl_append, List.foldl_cons, List.foldl_nil] at hrec ⊢
        rw [hrec, digitValue_digitPoint (by omega)]
        omega

/-- No number but zero begins with a zero. The first digit of a number is
that of its tenth part, unless it has one digit only. -/
theorem eq_zero_of_head?_ofNat {n : Nat} (h : (ofNat n).head? = some (CodePoint.ofChar '0')) :
    n = 0 := by
  induction n using Nat.strongRecOn with
  | _ n ih =>
      by_cases hn : n < 10
      · rw [ofNat_of_lt hn, List.head?_cons, Option.some.injEq] at h
        exact eq_zero_of_digitPoint hn h
      · have hhead : (ofNat n).head? = (ofNat (n / 10)).head? := by
          rw [ofNat_of_le (by omega)]
          cases hdigits : ofNat (n / 10) with
          | nil => exact absurd hdigits (ofNat_ne_nil _)
          | cons c t => rfl
        have := ih (n / 10) (by omega) (hhead ▸ h)
        omega

/-- Digits behind others: the others are worth a power of ten for each
of them. -/
theorem digitsValue_append (s t : Text) :
    digitsValue (s ++ t) = digitsValue s * 10 ^ t.length + digitsValue t := by
  induction t using List.reverseRecOn with
  | nil => simp [digitsValue]
  | append_singleton t c ih =>
      have hlast : ∀ u : Text, digitsValue (u ++ [c]) = digitsValue u * 10 + c.digitValue := by
        intro u
        simp only [digitsValue, List.foldl_append, List.foldl_cons, List.foldl_nil]
      rw [← List.append_assoc, hlast, ih, hlast, List.length_append, List.length_singleton,
        pow_succ]
      ring

/-- The first digit counts for a power of ten, by how many follow. This
reads a number from its front, where its definition folds it up. -/
theorem digitsValue_cons (c : CodePoint) (t : Text) :
    digitsValue (c :: t) = c.digitValue * 10 ^ t.length + digitsValue t := by
  have h := digitsValue_append [c] t
  simpa only [digitsValue, List.foldl_cons, List.foldl_nil, Nat.zero_mul, Nat.zero_add,
    List.singleton_append] using h

/-- Digits are worth less than one with as many zeros. Induction on the
digits. -/
theorem digitsValue_lt {t : Text} (h : ∀ c ∈ t, c.isDigit = true) :
    digitsValue t < 10 ^ t.length := by
  induction t with
  | nil => exact Nat.one_pos
  | cons c t ih =>
      have hc : c.digitValue ≤ 9 := by
        have hdigit := h c List.mem_cons_self
        simp only [CodePoint.isDigit, Bool.and_eq_true, decide_eq_true_eq] at hdigit
        simp only [CodePoint.digitValue]
        omega
      have ht := ih fun d hd => h d (List.mem_cons_of_mem c hd)
      have hmul := Nat.mul_le_mul_right (10 ^ t.length) hc
      rw [digitsValue_cons, List.length_cons, pow_succ]
      omega

/-! ### Numerals of a width -/

/-- A number in digits of a width, with zeros in front. -/
structure Numeral (width n : Nat) (t : Text) : Prop where
  length : t.length = width
  digits : ∀ c ∈ t, c.isDigit = true
  value : digitsValue t = n

/-- Zeros in front are worth nothing, however many there are. -/
theorem digitsValue_zeros (k : Nat) :
    digitsValue (List.replicate k (CodePoint.ofChar '0')) = 0 := by
  induction k with
  | zero => rfl
  | succ k ih =>
      rw [List.replicate_succ, digitsValue_cons, ih]
      simp [show (CodePoint.ofChar '0').digitValue = 0 by decide]

/-- A number with few enough digits is filled up to the width with zeros,
which does not change what it is worth. -/
theorem numeral_padZeros {width n : Nat} (hwidth : 0 < width) (h : n < 10 ^ width) :
    Numeral width n (padZeros width (ofNat n)) := by
  have hlength : (ofNat n).length ≤ width := by
    rw [ofNat, List.length_map]
    exact (Nat.length_toDigits_le_iff (by decide) hwidth).mpr h
  refine ⟨?_, fun c hc => ?_, ?_⟩
  · rw [padZeros, List.length_append, List.length_replicate]
    omega
  · rcases List.mem_append.mp hc with hzero | hdigit
    · rw [List.eq_of_mem_replicate hzero]
      decide
    · exact isDigit_of_mem_ofNat n c hdigit
  · rw [padZeros, digitsValue_append, digitsValue_zeros, Nat.zero_mul, Nat.zero_add,
      digitsValue_ofNat]

/-! ### Hexadecimal digits -/

/-- A single hexadecimal digit is worth its number. -/
theorem hexValue?_digitPoint {n : Nat} (h : n < 16) : (digitPoint n).hexValue? = some n := by
  have key : ∀ n < 16, (digitPoint n).hexValue? = some n := by decide
  exact key n h

/-- The four hexadecimal digits of a sixteen-bit unit, by how many of
them are zeros that fill up. -/
theorem hex_four {n : Nat} (h : n < 0x10000) :
    hex 4 n = [digitPoint (n / 4096), digitPoint (n / 256 % 16), digitPoint (n / 16 % 16),
      digitPoint (n % 16)] := by
  by_cases h1 : n < 16
  · rw [hex, Nat.toDigits_of_lt_base h1, show n / 4096 = 0 by omega,
      show n / 256 % 16 = 0 by omega, show n / 16 % 16 = 0 by omega, show n % 16 = n by omega]
    rfl
  have hsplit : 1 < 16 := by decide
  by_cases h2 : n < 256
  · rw [hex, Nat.toDigits_of_base_le hsplit (by omega),
      Nat.toDigits_of_lt_base (by omega : n / 16 < 16), show n / 4096 = 0 by omega,
      show n / 256 % 16 = 0 by omega, show n / 16 % 16 = n / 16 by omega]
    rfl
  by_cases h3 : n < 4096
  · rw [hex, Nat.toDigits_of_base_le hsplit (by omega),
      Nat.toDigits_of_base_le hsplit (by omega),
      Nat.toDigits_of_lt_base (by omega : n / 16 / 16 < 16), show n / 4096 = 0 by omega,
      show n / 256 % 16 = n / 16 / 16 by omega]
    rfl
  · rw [hex, Nat.toDigits_of_base_le hsplit (by omega),
      Nat.toDigits_of_base_le hsplit (by omega), Nat.toDigits_of_base_le hsplit (by omega),
      Nat.toDigits_of_lt_base (by omega : n / 16 / 16 / 16 < 16),
      show n / 4096 = n / 16 / 16 / 16 by omega, show n / 256 % 16 = n / 16 / 16 % 16 by omega]
    rfl

end DocScribe.Text
