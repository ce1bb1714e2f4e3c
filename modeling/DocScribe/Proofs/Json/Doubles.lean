import DocScribe.Proofs.Decimal.Rounding
import DocScribe.Proofs.Json.Reading
import DocScribe.Proofs.Text.Trimming

/-!
# `DocScribe.Proofs.Json.Doubles`: doubles read back

A double is read back from its text, whatever follows that is no part of
a number (`readPlain_writeDouble`). `SpellsDecimal` says which texts stand
for a number with a point or an exponent, and as which digits and which
power of ten such a text is read. The layout that values are written in
gives such a text, in positional notation and with an exponent alike
(`exists_spellsDecimal_write`).

The digits that are read need not be the digits that were written: zeros
behind the point are dropped, and a zero is put there if nothing else
is. The value is the same, so both are rounded to the same double.
-/

set_option autoImplicit false

namespace DocScribe

open Magnitude (decimalValue)

/-! ### Values of decimals -/

/-- A decimal is zero exactly if its digits are, whatever its exponent
is. -/
theorem Magnitude.decimalValue_eq_zero_iff {digits : Nat} {exponent : Int} :
    decimalValue digits exponent = 0 ↔ digits = 0 := by
  have hten : (10 : ℚ) ^ exponent ≠ 0 := zpow_ne_zero _ (by norm_num)
  rw [decimalValue, mul_eq_zero, or_iff_left hten, Nat.cast_eq_zero]

/-- A zero at the end of the digits is worth one in the exponent. So it does
not matter how many of them are written. -/
theorem Magnitude.decimalValue_mul_power (digits k : Nat) (exponent : Int) :
    decimalValue (digits * 10 ^ k) exponent = decimalValue digits (exponent + k) := by
  have hten : (10 : ℚ) ≠ 0 := by norm_num
  rw [decimalValue, decimalValue, zpow_add₀ hten, zpow_natCast]
  push_cast
  ring

/-- Zeros at the end. -/
theorem Text.digitsValue_append_zeros (t : Text) (k : Nat) :
    digitsValue (t ++ List.replicate k (CodePoint.ofChar '0')) = digitsValue t * 10 ^ k := by
  rw [digitsValue_append, digitsValue_zeros, List.length_replicate, Nat.add_zero]

/-- What `places` drops are zeros at the end of a fraction, and so the value
is the same without them. -/
theorem DecimalLayout.exists_places (t : Text) :
    ∃ k, t = places t ++ List.replicate k (CodePoint.ofChar '0') := by
  induction t with
  | nil => exact ⟨0, rfl⟩
  | cons c t ih =>
      obtain ⟨k, hk⟩ := ih
      rw [places] at hk ⊢
      rw [Text.dropEndWhile]
      split
      · next hnil =>
        rw [hnil, List.nil_append] at hk
        split
        · next hc => exact ⟨k + 1, by rw [List.replicate_succ, ← hk, beq_iff_eq.mp hc]; rfl⟩
        · exact ⟨k, by rw [List.singleton_append, ← hk]⟩
      · exact ⟨k, by rw [List.cons_append, ← hk]⟩

namespace Json

/-! ### Spellings of a decimal -/

/-- Digits in front of a point: a zero, or digits that begin with another
digit. -/
def IsWholePart (t : Text) : Prop :=
  t = "0" ∨ (∀ c ∈ t, c.isDigit = true) ∧ ∃ c ∈ t.head?, c ≠ CodePoint.ofChar '0'

/-- The digits behind a point, and the point with them; neither if there
are none. -/
inductive SpellsFraction : Text → Text → Prop
  | absent : SpellsFraction [] []
  | present {digits : Text} (hne : digits ≠ []) (hdigits : ∀ c ∈ digits, c.isDigit = true) :
      SpellsFraction digits (CodePoint.ofChar '.' :: digits)

/-- An exponent with its mark and a sign, or none. -/
inductive SpellsExponent : Option Int → Text → Prop
  | absent : SpellsExponent none []
  | present (negative : Bool) {digits : Text} (hne : digits ≠ [])
      (hdigits : ∀ c ∈ digits, c.isDigit = true) :
      SpellsExponent
        (some (if negative then -(Text.digitsValue digits : Int) else Text.digitsValue digits))
        (CodePoint.ofChar 'e' :: CodePoint.ofChar (if negative then '-' else '+') :: digits)

/-- A number with a point or an exponent or both, as the digits and the
power of ten that it is read as. -/
inductive SpellsDecimal : Nat → Int → Text → Prop
  | parts {whole digits fraction mark : Text} {exponent : Option Int} (hwhole : IsWholePart whole)
      (hfraction : SpellsFraction digits fraction) (hexponent : SpellsExponent exponent mark)
      (hdouble : digits ≠ [] ∨ exponent ≠ none) :
      SpellsDecimal (Text.digitsValue (whole ++ digits)) (exponent.getD 0 - digits.length)
        (whole ++ (fraction ++ mark))

/-! ### Reading -/

/-- The whole part of a number begins with a digit, be it a zero or not. -/
theorem IsWholePart.exists_cons {t : Text} (h : IsWholePart t) :
    ∃ c s, t = c :: s ∧ c.isDigit = true := by
  rcases h with rfl | ⟨hdigits, c, hc, -⟩
  · exact ⟨_, _, rfl, by decide⟩
  · cases t with
    | nil => cases hc
    | cons d s => exact ⟨d, s, rfl, hdigits d List.mem_cons_self⟩

/-- A decimal without its sign begins with a digit, since its whole part is
never left out. -/
theorem SpellsDecimal.exists_cons {n : Nat} {e : Int} {t : Text} (h : SpellsDecimal n e t) :
    ∃ c s, t = c :: s ∧ c.isDigit = true := by
  cases h with
  | parts hwhole _ _ _ =>
      obtain ⟨c, s, rfl, hc⟩ := hwhole.exists_cons
      exact ⟨c, _, rfl, hc⟩

/-- The whole part of a number is read up to where no digit follows. A zero
is a whole part by itself. -/
theorem readWhole?_of_isWholePart {t : Text} (h : IsWholePart t) {rest : Text}
    (hrest : ∀ c ∈ rest.head?, c.isDigit = false) : readWhole? (t ++ rest) = some (t, rest) := by
  rcases h with rfl | ⟨hdigits, c, hc, hzero⟩
  · rfl
  · cases t with
    | nil => cases hc
    | cons d s =>
        obtain rfl : d = c := Option.some.inj hc
        simp only [List.cons_append, readWhole?, hzero, if_false, hdigits d List.mem_cons_self,
          if_true]
        rw [← List.cons_append, spanDigits_append hdigits hrest]

/-- A fraction is read as it is written, if what follows would not go on
with it. -/
theorem readFraction_of_spells {digits fraction : Text} (h : SpellsFraction digits fraction)
    {rest : Text} (hrest : ∀ c ∈ rest.head?, c.isDigit = false ∧ c ≠ CodePoint.ofChar '.') :
    readFraction (fraction ++ rest) = (digits, rest) := by
  cases h with
  | absent =>
      cases rest with
      | nil => rfl
      | cons c rest =>
          rw [List.nil_append, readFraction]
          simp only [(hrest c rfl).2, false_and, if_false]
  | present hne hdigits =>
      have hspan := spanDigits_append hdigits fun c hc => (hrest c hc).1
      rw [List.cons_append, readFraction]
      simp only [hspan, ne_eq, hne, not_false_eq_true, and_self, if_true]

/-- So is an exponent, with its letter in either case and a sign or none.
What comes behind must not go on with a digit, or the reader would take that
as well. -/
theorem readExponent_of_spells {exponent : Option Int} {mark : Text}
    (h : SpellsExponent exponent mark) {rest : Text} (hrest : Ends rest) :
    readExponent (mark ++ rest) = (exponent, rest) := by
  cases h with
  | absent => exact readExponent_of_ends hrest
  | @present negative digits hne hdigits =>
      have hsign : readSign (CodePoint.ofChar (if negative then '-' else '+') :: (digits ++ rest))
          = (negative, digits ++ rest) := by
        cases negative <;> rfl
      have hspan := spanDigits_append hdigits hrest.not_isDigit
      have hempty : digits.isEmpty = false := by simpa using hne
      rw [List.cons_append, List.cons_append, readExponent]
      simp only [true_or, if_true, hsign, hspan, hempty, Bool.false_eq_true, if_false]

/-- The mark of an exponent is neither a digit nor a point, so the digits in
front of it end there. -/
theorem SpellsExponent.head? {exponent : Option Int} {mark : Text}
    (h : SpellsExponent exponent mark) {rest : Text} (hrest : Ends rest) :
    ∀ c ∈ (mark ++ rest).head?, c.isDigit = false ∧ c ≠ CodePoint.ofChar '.' := by
  intro c hc
  cases h with
  | absent => exact ⟨(hrest c hc).1, (hrest c hc).2.1⟩
  | present =>
      obtain rfl := Option.some.inj hc
      decide

/-- Neither is a point a digit, so the whole part in front of it ends
there. -/
theorem SpellsFraction.head? {digits fraction : Text} (h : SpellsFraction digits fraction)
    {rest : Text} (hrest : ∀ c ∈ rest.head?, c.isDigit = false) :
    ∀ c ∈ (fraction ++ rest).head?, c.isDigit = false := by
  intro c hc
  cases h with
  | absent => exact hrest c hc
  | present =>
      obtain rfl := Option.some.inj hc
      decide

/-- A spelled decimal is read as the double nearest to it, whatever its
length. -/
theorem readUnsigned_of_spells {d : Dialect} (hd : d.limitsAll = false) (start : Text)
    (negative : Bool) {n : Nat} {e : Int} {t : Text} (h : SpellsDecimal n e t) {rest : Text}
    (hrest : Ends rest) :
    readUnsigned d start negative (t ++ rest)
      = .ok (.float (Double.ofDecimal negative n e), rest) := by
  cases h with
  | @parts whole digits fraction mark exponent hwhole hfraction hexponent hdouble =>
      have hmark := hexponent.head? hrest
      have hreadWhole := readWhole?_of_isWholePart hwhole
        (hfraction.head? fun c hc => (hmark c hc).1)
      have hreadFraction := readFraction_of_spells hfraction hmark
      have hreadExponent := readExponent_of_spells hexponent hrest
      have hnoInteger : (digits.isEmpty && exponent.isNone) = false := by
        rw [Bool.and_eq_false_iff, List.isEmpty_eq_false_iff, Option.isNone_eq_false_iff,
          Option.isSome_iff_ne_none]
        exact hdouble
      have hshort : isTooLong d false whole = false := by simp [isTooLong, hd]
      rw [List.append_assoc, List.append_assoc]
      simp only [readUnsigned, hreadWhole, hreadFraction, hreadExponent, hnoInteger, hshort,
        Bool.false_eq_true, if_false]

/-! ### Writing -/

/-- Digits around a point: zeros at the end are dropped, but one stays if
nothing else does. -/
theorem exists_spellsDecimal_point {whole fraction : Text} (hwhole : IsWholePart whole)
    (hfraction : ∀ c ∈ fraction, c.isDigit = true) :
    ∃ n e, SpellsDecimal n e (match DecimalLayout.places fraction with
        | [] => whole ++ ".0"
        | kept => whole ++ "." ++ kept)
      ∧ decimalValue n e
          = decimalValue (Text.digitsValue (whole ++ fraction)) (-(fraction.length : Int)) := by
  obtain ⟨k, hk⟩ := DecimalLayout.exists_places fraction
  have hkept : ∀ c ∈ DecimalLayout.places fraction, c.isDigit = true := fun c hc =>
    hfraction c ((Text.dropEndWhile_isPrefix _ fraction).subset hc)
  have hlength : fraction.length = (DecimalLayout.places fraction).length + k := by
    rw [← List.length_replicate (n := k) (a := CodePoint.ofChar '0'), ← List.length_append, ← hk]
  -- The value without the zeros.
  have hvalue : decimalValue (Text.digitsValue (whole ++ fraction)) (-(fraction.length : Int))
      = decimalValue (Text.digitsValue (whole ++ DecimalLayout.places fraction))
          (-((DecimalLayout.places fraction).length : Int)) := by
    have hdigits : Text.digitsValue (whole ++ fraction)
        = Text.digitsValue (whole ++ DecimalLayout.places fraction) * 10 ^ k := by
      rw [← Text.digitsValue_append_zeros, List.append_assoc, ← hk]
    rw [hdigits, Magnitude.decimalValue_mul_power]
    congr 1
    omega
  rw [hvalue]
  cases hplaces : DecimalLayout.places fraction with
  | nil =>
      -- The zero that stays adds a place and is worth nothing.
      have hzero : ∀ c ∈ ("0" : Text), c.isDigit = true := by decide
      refine ⟨_, _, .parts hwhole (.present (by decide) hzero) .absent (.inl (by decide)), ?_⟩
      show decimalValue (Text.digitsValue (whole ++ List.replicate 1 (CodePoint.ofChar '0'))) (-1)
        = _
      rw [Text.digitsValue_append_zeros, Magnitude.decimalValue_mul_power, List.append_nil]
      rfl
  | cons c kept =>
      rw [hplaces] at hkept
      refine ⟨Text.digitsValue (whole ++ c :: kept), 0 - ((c :: kept).length : Int), ?_, ?_⟩
      · have hspells := SpellsDecimal.parts hwhole (.present (List.cons_ne_nil c kept) hkept)
          .absent (.inl (List.cons_ne_nil c kept))
        rw [List.append_nil] at hspells
        show SpellsDecimal _ _ (whole ++ "." ++ c :: kept)
        rw [List.append_assoc]
        exact hspells
      · rw [Int.zero_sub]

/-- A sign and at least two digits spell an exponent. This is how doubles
are written; a reader takes any number of digits. -/
theorem spellsExponent_write (e : Int) :
    SpellsExponent (some e) ("e" ++ (if e < 0 then "-" else "+")
      ++ Text.padZeros 2 (Text.ofNat e.natAbs)) := by
  have hvalue : Text.digitsValue (Text.padZeros 2 (Text.ofNat e.natAbs)) = e.natAbs := by
    rw [Text.padZeros, Text.digitsValue_append, Text.digitsValue_zeros, Nat.zero_mul, Nat.zero_add,
      Text.digitsValue_ofNat]
  have hne : Text.padZeros 2 (Text.ofNat e.natAbs) ≠ [] := by
    rw [Text.padZeros]
    exact List.append_ne_nil_of_right_ne_nil _ (Text.ofNat_ne_nil _)
  have hdigits : ∀ c ∈ Text.padZeros 2 (Text.ofNat e.natAbs), c.isDigit = true := by
    intro c hc
    rcases List.mem_append.mp hc with hzero | hdigit
    · rw [List.eq_of_mem_replicate hzero]
      decide
    · exact Text.isDigit_of_mem_ofNat _ c hdigit
  have hspells (negative : Bool) : SpellsExponent
      (some (if negative then -(e.natAbs : Int) else e.natAbs))
      (CodePoint.ofChar 'e' :: CodePoint.ofChar (if negative then '-' else '+')
        :: Text.padZeros 2 (Text.ofNat e.natAbs)) := by
    have h := SpellsExponent.present negative hne hdigits
    rwa [hvalue] at h
  by_cases he : e < 0
  · have habs : -(e.natAbs : Int) = e := by omega
    have h := hspells true
    rw [if_pos rfl, habs] at h
    rw [if_pos he]
    exact h
  · have habs : (e.natAbs : Int) = e := by omega
    have h := hspells false
    rw [if_neg Bool.false_ne_true, habs] at h
    rw [if_neg he]
    exact h

/-- The first digits of a number, and of more behind it, are a whole
part. -/
theorem isWholePart_take {n : Nat} (hn : n ≠ 0) {t : Text} (ht : ∀ c ∈ t, c.isDigit = true)
    (count : Nat) (hcount : 0 < count) : IsWholePart ((Text.ofNat n ++ t).take count) := by
  obtain ⟨c, s, hdigits⟩ := List.exists_cons_of_ne_nil (Text.ofNat_ne_nil n)
  obtain ⟨count, rfl⟩ := Nat.exists_eq_add_one_of_ne_zero (Nat.ne_of_gt hcount)
  refine .inr ⟨fun x hx => ?_, c, ?_, ?_⟩
  · rcases List.mem_append.mp (List.mem_of_mem_take hx) with hx | hx
    · exact Text.isDigit_of_mem_ofNat n x hx
    · exact ht x hx
  · rw [hdigits, List.cons_append, List.take_succ_cons, List.head?_cons]
    rfl
  · rintro rfl
    exact hn (Text.eq_zero_of_head?_ofNat (by rw [hdigits, List.head?_cons]))

/-- One digit, the others behind a point without the zeros at the end, and
the exponent of the first. -/
theorem exists_spellsDecimal_exponent {digits : Nat} (hdigits : digits ≠ 0) (leading : Int) :
    ∃ n e, SpellsDecimal n e ((Text.ofNat digits).take 1
        ++ (if (DecimalLayout.places ((Text.ofNat digits).drop 1)).isEmpty then []
          else CodePoint.ofChar '.' :: DecimalLayout.places ((Text.ofNat digits).drop 1))
        ++ "e" ++ (if leading < 0 then "-" else "+")
        ++ Text.padZeros 2 (Text.ofNat leading.natAbs))
      ∧ decimalValue n e = decimalValue digits (leading + 1 - (Text.ofNat digits).length) := by
  obtain ⟨k, hk⟩ := DecimalLayout.exists_places ((Text.ofNat digits).drop 1)
  have hkept : ∀ c ∈ DecimalLayout.places ((Text.ofNat digits).drop 1), c.isDigit = true :=
    fun c hc => Text.isDigit_of_mem_ofNat digits c
      (List.mem_of_mem_drop ((Text.dropEndWhile_isPrefix _ _).subset hc))
  -- Of the digits behind the first, some are kept, and the others are zeros.
  generalize DecimalLayout.places ((Text.ofNat digits).drop 1) = kept at hk hkept ⊢
  have hpositive : 0 < (Text.ofNat digits).length :=
    List.length_pos_iff.mpr (Text.ofNat_ne_nil digits)
  have hwhole : IsWholePart ((Text.ofNat digits).take 1) := by
    have h := isWholePart_take hdigits (List.forall_mem_nil _) 1 (by decide)
    rwa [List.append_nil] at h
  have hfraction : SpellsFraction kept
      (if kept.isEmpty then [] else CodePoint.ofChar '.' :: kept) := by
    split
    · next hempty =>
      rw [List.isEmpty_iff.mp hempty]
      exact .absent
    · next hne => exact .present (fun hnil => hne (List.isEmpty_iff.mpr hnil)) hkept
  have hspells := SpellsDecimal.parts hwhole hfraction (spellsExponent_write leading)
    (.inr (Option.some_ne_none leading))
  simp only [← List.append_assoc] at hspells
  refine ⟨_, _, hspells, ?_⟩
  have hlength : (Text.ofNat digits).length = 1 + kept.length + k := by
    have h := congrArg List.length hk
    rw [List.length_drop, List.length_append, List.length_replicate] at h
    omega
  have hvalue : digits = Text.digitsValue ((Text.ofNat digits).take 1 ++ kept) * 10 ^ k := by
    rw [← Text.digitsValue_append_zeros, List.append_assoc, ← hk, List.take_append_drop,
      Text.digitsValue_ofNat]
  calc decimalValue _ ((some leading).getD 0 - kept.length)
      = decimalValue (Text.digitsValue ((Text.ofNat digits).take 1 ++ kept))
          (leading + 1 - (Text.ofNat digits).length + k) := by
        congr 1
        rw [Option.getD_some]
        omega
    _ = decimalValue digits (leading + 1 - (Text.ofNat digits).length) := by
        rw [← Magnitude.decimalValue_mul_power, ← hvalue]

/-- A decimal is written as one of its spellings, of the same value: as a
whole number, with a point inside its digits or in front of them, or with an
exponent, depending on how large it is. -/
theorem exists_spellsDecimal_write (d : Magnitude.Decimal) (hd : d.digits ≠ 0) :
    ∃ n e, SpellsDecimal n e (DecimalLayout.ofValues.write d)
      ∧ decimalValue n e = decimalValue d.digits d.exponent := by
  have hofNat := Text.isDigit_of_mem_ofNat d.digits
  have hzeros : ∀ k, ∀ c ∈ List.replicate k (CodePoint.ofChar '0'), c.isDigit = true := by
    intro k c hc
    rw [List.eq_of_mem_replicate hc]
    decide
  obtain ⟨leading, hleading⟩ :
    ∃ leading : Int, ((Text.ofNat d.digits).length : Int) - 1 + d.exponent = leading := ⟨_, rfl⟩
  have hexponent : leading + 1 - (Text.ofNat d.digits).length = d.exponent := by omega
  rw [DecimalLayout.write]
  dsimp only
  rw [hleading]
  split
  · -- The layout with an exponent, for the very large and the very small.
    have h := exists_spellsDecimal_exponent hd leading
    rwa [hexponent] at h
  split
  · -- A zero in front of the point, and zeros up to the first digit.
    obtain ⟨n, e, hspells, hvalue⟩ := exists_spellsDecimal_point (.inl rfl)
      (List.forall_mem_append.mpr ⟨hzeros (leading.natAbs - 1), hofNat⟩)
    refine ⟨n, e, hspells, ?_⟩
    have hdigits : Text.digitsValue ("0" ++ (List.replicate (leading.natAbs - 1)
        (CodePoint.ofChar '0') ++ Text.ofNat d.digits)) = d.digits := by
      show Text.digitsValue (List.replicate 1 (CodePoint.ofChar '0') ++ _) = _
      rw [← List.append_assoc, List.replicate_append_replicate, Text.digitsValue_append,
        Text.digitsValue_zeros, Nat.zero_mul, Nat.zero_add, Text.digitsValue_ofNat]
    rw [hvalue, hdigits, List.length_append, List.length_replicate]
    congr 1
    omega
  · -- The point behind some of the digits, or behind all of them and some zeros.
    have hpadded := List.forall_mem_append.mpr
      ⟨hofNat, hzeros (leading.toNat + 1 - (Text.ofNat d.digits).length)⟩
    obtain ⟨n, e, hspells, hvalue⟩ := exists_spellsDecimal_point
      (isWholePart_take hd (hzeros (leading.toNat + 1 - (Text.ofNat d.digits).length))
        (leading.toNat + 1) (Nat.succ_pos _))
      (fun c hc => hpadded c (List.mem_of_mem_drop hc))
    refine ⟨n, e, hspells, ?_⟩
    rw [hvalue, List.take_append_drop, Text.digitsValue_append_zeros, Text.digitsValue_ofNat,
      Magnitude.decimalValue_mul_power, List.length_drop, List.length_append, List.length_replicate]
    congr 1
    omega

/-! ### Doubles -/

/-- The text of a magnitude stands for a decimal that is read as the
magnitude. -/
theorem exists_spellsDecimal_shortest (m : Magnitude) :
    ∃ n e, SpellsDecimal n e (DecimalLayout.ofValues.write m.shortest)
      ∧ Magnitude.ofDecimal n e = some m := by
  by_cases hzero : m.shortest.digits = 0
  · have hm := m.ofDecimal_shortest
    rw [Magnitude.shortest_digits_eq_zero hzero] at hm ⊢
    have hdigits : ∀ c ∈ ("0" : Text), c.isDigit = true := by decide
    have hspells : SpellsDecimal 0 (-1) "0.0" :=
      .parts (.inl rfl) (.present (by decide) hdigits) .absent (.inl (by decide))
    have hwrite : DecimalLayout.ofValues.write ⟨0, 0⟩ = "0.0" := by decide +kernel
    -- Zero is zero with any exponent.
    have hread : Magnitude.ofDecimal 0 (-1) = Magnitude.ofDecimal 0 0 := rfl
    rw [hwrite]
    exact ⟨0, -1, hspells, hread.trans hm⟩
  · obtain ⟨n, e, hspells, hvalue⟩ := exists_spellsDecimal_write m.shortest hzero
    have hn : n ≠ 0 := by
      intro hn
      rw [hn, Magnitude.decimalValue_eq_zero_iff.mpr rfl] at hvalue
      exact hzero (Magnitude.decimalValue_eq_zero_iff.mp hvalue.symm)
    exact ⟨n, e, hspells, (Magnitude.ofDecimal_congr hn hzero hvalue).trans m.ofDecimal_shortest⟩

/-- A double is read from its text, whatever stands behind. Its digits are
the shortest that are rounded to it, and the words for what is no number are
read as words. -/
theorem readPlain_writeDouble {d : Dialect} (hd : d.limitsAll = false) (x : Double) {rest : Text}
    (hrest : Ends rest) : readPlain d (writeDouble x ++ rest) = .ok (.float x, rest) := by
  cases x with
  | nan => rfl
  | infinite negative => cases negative <;> rfl
  | finite negative m =>
      obtain ⟨n, e, hspells, hread⟩ := exists_spellsDecimal_shortest m
      obtain ⟨c, s, htext, hc⟩ := hspells.exists_cons
      have hdouble : Double.ofDecimal negative n e = .finite negative m := by
        rw [Double.ofDecimal, hread]
      show readPlain d (Double.signText negative ++ DecimalLayout.ofValues.write m.shortest ++ rest)
        = _
      -- Neither a digit nor a sign in front of one begins a word.
      cases negative with
      | false =>
          have hsign : c ≠ CodePoint.ofChar '-' := by
            rintro rfl
            exact absurd hc (by decide)
          have hwords := find?_words_eq_none (s := c :: (s ++ rest)) ⟨c, by simp, hc⟩
          have hnumber := readUnsigned_of_spells hd (c :: (s ++ rest)) false hspells hrest
          rw [htext, List.cons_append, hdouble] at hnumber
          show readPlain d (DecimalLayout.ofValues.write m.shortest ++ rest) = _
          rw [htext, List.cons_append]
          simp only [readPlain, hwords, hsign, if_false, hnumber]
      | true =>
          have hwords := find?_words_eq_none (s := CodePoint.ofChar '-' :: c :: (s ++ rest))
            ⟨c, by simp, hc⟩
          have hnumber := readUnsigned_of_spells hd (CodePoint.ofChar '-' :: c :: (s ++ rest)) true
            hspells hrest
          rw [htext, List.cons_append, hdouble] at hnumber
          show readPlain d
            (CodePoint.ofChar '-' :: (DecimalLayout.ofValues.write m.shortest ++ rest)) = _
          rw [htext, List.cons_append]
          simp only [readPlain, hwords, if_true, hnumber]

end Json

end DocScribe
