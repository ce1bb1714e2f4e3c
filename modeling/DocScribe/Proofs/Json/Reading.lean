import DocScribe.Proofs.Json.Grammar
import DocScribe.Proofs.Json.Members
import DocScribe.Proofs.Text.Digits
import DocScribe.Proofs.Text.Joining

/-!
# `DocScribe.Proofs.Json.Reading`: what is spelled is read

The reader takes every spelling of a legible value from the front of
a text and stops right behind it, whatever follows: `readValue_append`.
Only a number needs something of what follows, namely that it does not
go on (`Follows`).

The proof goes from the inside out. Four digits after `\u` are their
unit (`hexQuad?_append`); a spelled string is read up to its closing
mark (`readString_append`), where a code point written as half of a
pair must not find its other half behind it; items and members are
read one after the other (`readItems_append`, `readMembers_append`)
given that one value is; and the values themselves by induction on how
deep they may nest.
-/

set_option autoImplicit false

namespace DocScribe

/-! ### Code points by number -/

/-- A code point is the one with its number. -/
theorem CodePoint.ofNatD_val (c : CodePoint) : CodePoint.ofNatD c.val = c := by
  simp only [CodePoint.ofNatD, CodePoint.ofNat?, dif_pos c.val_lt, Option.getD_some]

/-- The number of a code point made from a number. -/
theorem CodePoint.val_ofNatD {n : Nat} (h : n < 0x110000) : (CodePoint.ofNatD n).val = n := by
  simp only [CodePoint.ofNatD, CodePoint.ofNat?, dif_pos h, Option.getD_some]

namespace Json

/-! ### Strings -/

/-- Something follows inside a string: its closing mark, if nothing
else. -/
theorem exists_cons_of_closing (s rest : Text) :
    ∃ next rest', s ++ .quoteSign :: rest = next :: rest' := by
  cases s <;> exact ⟨_, _, rfl⟩

/-- Four digits are read as their unit, if anything follows. In a string
something does, as it has to be closed. -/
theorem hexQuad?_append {n : Nat} {quad : Text} (h : SpellsUnit n quad) (next : CodePoint)
    (rest : Text) :
    hexQuad? (quad ++ next :: rest) = some (CodePoint.ofNatD n, next :: rest) := by
  cases h with
  | quad ha hb hc hd =>
      show hexQuad? (_ :: _ :: _ :: _ :: next :: rest) = _
      simp only [hexQuad?, ha, hb, hc, hd, Option.bind_eq_bind, Option.bind_some, Option.pure_def]

/-- A letter escape is no escape by number. So the reader can tell the two
from the first letter. -/
theorem ne_of_shortEscape? {c e : CodePoint} (h : shortEscape? e = some c) :
    e ≠ CodePoint.ofChar 'u' := by
  rintro rfl
  have hnone : shortEscape? (CodePoint.ofChar 'u') = none := by decide
  exact nomatch hnone.symm.trans h

/-- A string that does not begin with a second half of a pair gives no
escape for one: neither what is written plainly nor an escape for
anything else is taken for it. -/
theorem lowEscape?_append {t s : Text} (h : SpellsString t s)
    (ht : ∀ c ∈ t.head?, c.isLowSurrogate = false) (rest : Text) :
    lowEscape? (s ++ .quoteSign :: rest) = none := by
  cases h with
  | nil => cases rest <;> rfl
  | @cons c t piece s hc hs =>
      have hlow : c.isLowSurrogate = false := ht c rfl
      rw [List.append_assoc]
      cases hc with
      | plain _ _ hslash =>
          -- Only `c` is left of the escape, and it is no backslash.
          cases hrest : s ++ .quoteSign :: rest with
          | nil => rfl
          | cons next rest' => simp only [List.cons_append, List.nil_append, lowEscape?, hslash,
              false_and, if_false]
      | @letter e he =>
          simp only [List.cons_append, List.nil_append, lowEscape?, ne_of_shortEscape? he,
            and_false, if_false]
      | number hunit =>
          obtain ⟨next, rest', hrest⟩ := exists_cons_of_closing s rest
          -- An escape by number is looked at, and what it spells is no second half.
          simp only [List.cons_append, lowEscape?, and_self, if_true, hrest,
            hexQuad?_append hunit, CodePoint.ofNatD_val, hlow, Bool.false_eq_true, if_false]
      -- A pair begins with a first half, which is no second one.
      | @pair high low quad quad' hhigh hhigh' _ _ _ hunit _ =>
          have hval := CodePoint.val_ofNatD (show high < 0x110000 by omega)
          have hno : (CodePoint.ofNatD high).isLowSurrogate = false := by
            simp only [CodePoint.isLowSurrogate, hval, Bool.and_eq_false_iff,
              decide_eq_false_iff_not]
            omega
          simp only [List.cons_append, List.append_assoc, lowEscape?, and_self, if_true,
            hexQuad?_append hunit, hno, Bool.false_eq_true, if_false]

/-- Two units that make a pair are read as the code point of the
pair. -/
theorem pairedUnit_append {high low : Nat} {quad' : Text} (hhigh : 0xD800 ≤ high)
    (hhigh' : high ≤ 0xDBFF) (hlow : 0xDC00 ≤ low) (hlow' : low ≤ 0xDFFF)
    (hunit : SpellsUnit low quad') (next : CodePoint) (rest : Text) :
    pairedUnit (CodePoint.ofNatD high)
        (.backslash :: CodePoint.ofChar 'u' :: (quad' ++ next :: rest))
      = (CodePoint.ofNatD (0x10000 + (high - 0xD800) * 0x400 + (low - 0xDC00)), next :: rest) := by
  have hvalHigh := CodePoint.val_ofNatD (show high < 0x110000 by omega)
  have hvalLow := CodePoint.val_ofNatD (show low < 0x110000 by omega)
  have hisHigh : (CodePoint.ofNatD high).isHighSurrogate = true := by
    simp only [CodePoint.isHighSurrogate, hvalHigh, Bool.and_eq_true, decide_eq_true_eq]
    omega
  have hisLow : (CodePoint.ofNatD low).isLowSurrogate = true := by
    simp only [CodePoint.isLowSurrogate, hvalLow, Bool.and_eq_true, decide_eq_true_eq]
    omega
  simp only [pairedUnit, hisHigh, if_true, lowEscape?, and_self, hexQuad?_append hunit, hisLow,
    joinSurrogates, hvalHigh, hvalLow]

/-- The escape that spells a code point is read as it, whatever spelled
string comes behind it. A first half by itself is the case to watch: no
second half may follow, or both would be read as one. -/
theorem readEscape_append {d : Dialect} (opening : Text) {c : CodePoint} {t escape s : Text}
    (hc : SpellsPoint c (.backslash :: escape)) (hs : SpellsString t s)
    (ht : LegibleText d (c :: t)) (rest : Text) (hplain : escape ≠ []) :
    readEscape d opening (escape ++ (s ++ .quoteSign :: rest))
      = .ok (c, s ++ .quoteSign :: rest) := by
  obtain ⟨⟨hpair, -⟩, hwhole⟩ := ht
  cases hc with
  | plain => exact absurd rfl hplain
  | letter he =>
      simp only [List.cons_append, List.nil_append, readEscape, ne_of_shortEscape? he, if_false,
        he]
  | @number quad hunit =>
      obtain ⟨next, rest', hrest⟩ := exists_cons_of_closing s rest
      -- A first half by itself stays one: `hpair` says that no second half follows it.
      have hpaired : pairedUnit c (s ++ .quoteSign :: rest) = (c, s ++ .quoteSign :: rest) := by
        by_cases hhigh : c.isHighSurrogate = true
        · simp only [pairedUnit, hhigh, if_true, lowEscape?_append hs (hpair hhigh)]
        · simp only [pairedUnit, hhigh, if_false, Bool.false_eq_true]
      have htakes : (c.isSurrogate && !d.takesHalves) = false := by
        cases htakes : d.takesHalves with
        | true => simp
        | false => simp [hwhole htakes c List.mem_cons_self]
      rw [hrest] at hpaired ⊢
      simp only [List.cons_append, readEscape, if_true, hexQuad?_append hunit,
        CodePoint.ofNatD_val, hpaired, htakes, Bool.false_eq_true, if_false]
  | @pair high low quad quad' hhigh hhigh' hlow hlow' hval hunit hunit' =>
      obtain ⟨next, rest', hrest⟩ := exists_cons_of_closing s rest
      have hpaired := pairedUnit_append hhigh hhigh' hlow hlow' hunit' next rest'
      rw [← hval, CodePoint.ofNatD_val] at hpaired
      -- A pair makes a code point beyond all surrogates.
      have hno : c.isSurrogate = false := by
        simp only [CodePoint.isSurrogate, hval, Bool.and_eq_false_iff, decide_eq_false_iff_not]
        omega
      rw [hrest]
      simp only [List.cons_append, List.append_assoc, readEscape, if_true,
        hexQuad?_append hunit, hpaired, hno, Bool.false_and, Bool.false_eq_true, if_false]

/-- A spelled code point begins with a backslash or is written
plainly. -/
theorem SpellsPoint.plain_or_escape {c : CodePoint} {piece : Text} (h : SpellsPoint c piece) :
    (piece = [c] ∧ 0x20 ≤ c.val ∧ c ≠ .quoteSign ∧ c ≠ .backslash)
      ∨ ∃ escape, piece = .backslash :: escape ∧ escape ≠ [] := by
  cases h with
  | plain hlow hquote hslash => exact .inl ⟨rfl, hlow, hquote, hslash⟩
  | letter => exact .inr ⟨_, rfl, by simp⟩
  | number => exact .inr ⟨_, rfl, by simp⟩
  | pair => exact .inr ⟨_, rfl, by simp⟩

/-- A spelled string is read up to its closing mark. Induction on the
spelling; each piece is a code point that stands for itself or an escape,
and the mark is neither. -/
theorem readStringFrom_append {d : Dialect} (opening : Text) {t s : Text} (h : SpellsString t s)
    (ht : LegibleText d t) (rest : Text) :
    ∀ (fuel : Nat) (read : Text), s.length < fuel →
      readStringFrom d opening fuel read (s ++ .quoteSign :: rest)
        = .ok (read.reverse ++ t, rest) := by
  induction h with
  | nil =>
      intro fuel read hfuel
      obtain ⟨fuel, rfl⟩ := Nat.exists_eq_add_one_of_ne_zero (Nat.ne_zero_of_lt hfuel)
      simp only [List.nil_append, readStringFrom, if_true, List.append_nil]
  | @cons c t piece s hc hs ih =>
      intro fuel read hfuel
      have htail : LegibleText d t :=
        ⟨ht.1.2, fun hd x hx => ht.2 hd x (List.mem_cons_of_mem _ hx)⟩
      obtain ⟨fuel, rfl⟩ := Nat.exists_eq_add_one_of_ne_zero (Nat.ne_zero_of_lt hfuel)
      -- Every piece has a code point at least, so one step of fuel is enough for it.
      have hlen : (piece ++ s).length = piece.length + s.length := List.length_append
      rcases hc.plain_or_escape with ⟨rfl, hlow, hquote, hslash⟩ | ⟨escape, rfl, hne⟩
      · have hge : ¬ c.val < 0x20 := by omega
        simp only [List.cons_append, List.nil_append, readStringFrom, hquote, hslash, hge, if_false]
        rw [ih htail fuel (c :: read) (by simp at hlen hfuel; omega)]
        simp
      · have hescape := readEscape_append opening hc hs ht rest hne
        rw [List.cons_append, List.cons_append, List.append_assoc]
        simp only [readStringFrom, hescape, if_true]
        rw [if_neg (by decide), ih htail fuel (c :: read) (by simp at hlen hfuel; omega)]
        simp

/-- A spelled string is read behind its opening mark. It ends at the first
quotation mark that is not escaped, whatever follows. -/
theorem readString_append {d : Dialect} {t s : Text} (h : SpellsString t s)
    (ht : LegibleText d t) (rest : Text) :
    readString d (s ++ .quoteSign :: rest) = .ok (t, rest) := by
  have hlen : s.length < (s ++ CodePoint.quoteSign :: rest).length + 1 := by
    simp only [List.length_append]; omega
  simpa only [readString, List.reverse_nil, List.nil_append]
    using readStringFrom_append (.quoteSign :: (s ++ .quoteSign :: rest)) h ht rest _ [] hlen

/-! ### Words and numbers -/

/-- A number does not go on with this. -/
def Ends (rest : Text) : Prop :=
  ∀ c ∈ rest.head?, c.isDigit = false ∧ c ≠ CodePoint.ofChar '.' ∧ c ≠ CodePoint.ofChar 'e'
    ∧ c ≠ CodePoint.ofChar 'E'

/-- What follows a value is not taken for a part of it. Only a number
can go on. -/
def Follows : Json → Text → Prop
  | .int _, rest => Ends rest
  | _, _ => True

/-- Anything may follow a number that cannot be a part of one. -/
theorem Ends.follows {rest : Text} (h : Ends rest) (j : Json) : Follows j rest := by
  cases j with
  | int => exact h
  | _ => exact trivial

/-- Where a number ends no digit follows. -/
theorem Ends.not_isDigit {rest : Text} (h : Ends rest) : ∀ c ∈ rest.head?, c.isDigit = false :=
  fun c hc => (h c hc).1

/-- Digits are cut off where no digit follows, all of them at once. Both
conditions are needed: the first for what is taken, the second for where it
ends. -/
theorem spanDigits_append {digits rest : Text} (hd : ∀ c ∈ digits, c.isDigit = true)
    (hrest : ∀ c ∈ rest.head?, c.isDigit = false) :
    spanDigits (digits ++ rest) = (digits, rest) := by
  have hstop : rest.takeWhile CodePoint.isDigit = [] ∧ rest.dropWhile CodePoint.isDigit = rest := by
    cases rest with
    | nil => exact ⟨rfl, rfl⟩
    | cons c rest =>
        have hc : c.isDigit = false := hrest c rfl
        exact ⟨by simp [hc], by simp [hc]⟩
  rw [spanDigits, List.takeWhile_append_of_pos hd, List.dropWhile_append_of_pos hd, hstop.1,
    hstop.2, List.append_nil]

/-- Where a number ends there is no fraction. -/
theorem readFraction_of_ends {rest : Text} (h : Ends rest) : readFraction rest = ([], rest) := by
  cases rest with
  | nil => rfl
  | cons c rest => simp only [readFraction, (h c rfl).2.1, false_and, if_false]

/-- Where a number ends there is no exponent: no letter for one may stand
there. -/
theorem readExponent_of_ends {rest : Text} (h : Ends rest) :
    readExponent rest = (none, rest) := by
  cases rest with
  | nil => rfl
  | cons c rest => simp only [readExponent, (h c rfl).2.2, false_or, if_false]

/-- All digits of a number are read as its whole part: a leading zero
is all there is of zero. -/
theorem readWhole?_append (n : Nat) {rest : Text} (h : Ends rest) :
    readWhole? (Text.ofNat n ++ rest) = some (Text.ofNat n, rest) := by
  cases hdigits : Text.ofNat n with
  | nil => exact absurd hdigits (Text.ofNat_ne_nil n)
  | cons c t =>
      have hall : ∀ x ∈ c :: t, x.isDigit = true := hdigits ▸ Text.isDigit_of_mem_ofNat n
      -- A zero in front is the whole number, so the digits are not cut off one by one.
      by_cases hz : c = CodePoint.ofChar '0'
      · have hn : n = 0 := Text.eq_zero_of_head?_ofNat (by rw [hdigits, hz]; rfl)
        rw [hn, show Text.ofNat 0 = [CodePoint.ofChar '0'] from rfl, List.cons.injEq] at hdigits
        simp only [List.cons_append, readWhole?, hz, if_true, ← hdigits.2, List.nil_append]
      · simp only [List.cons_append, readWhole?, hz, if_false, hall c List.mem_cons_self, if_true]
        rw [← List.cons_append, spanDigits_append hall h.not_isDigit]

/-- The digits of a number are read as the number, if they are not too many
and the number ends behind them. -/
theorem readUnsigned_append {d : Dialect} (start : Text) (negative : Bool) (n : Nat) {rest : Text}
    (hlen : (Text.ofNat n).length ≤ digitLimit) (h : Ends rest) :
    readUnsigned d start negative (Text.ofNat n ++ rest)
      = .ok (.int (if negative then -(n : Int) else n), rest) := by
  have hlong : isTooLong d true (Text.ofNat n) = false := by
    simp only [isTooLong, Bool.or_true, Bool.true_and, decide_eq_false_iff_not]
    omega
  simp only [readUnsigned, readWhole?_append n h, readFraction_of_ends h, readExponent_of_ends h,
    List.isEmpty_nil, Option.isNone_none, Bool.and_self, hlong, Bool.false_eq_true, if_false,
    if_true, Text.digitsValue_ofNat]

/-- No word has a digit for one of its first two code points. -/
theorem words_isDigit :
    ∀ w ∈ words, 2 ≤ w.1.length ∧ ∀ c ∈ w.1.take 2, c.isDigit = false := by
  decide

/-- No word begins like a number, with a digit or with a sign and a
digit. -/
theorem find?_words_eq_none {s : Text} (h : ∃ c ∈ s.take 2, c.isDigit = true) :
    words.find? (fun w => w.1.isPrefixOf s) = none := by
  refine List.find?_eq_none.mpr fun w hw hprefix => ?_
  obtain ⟨hlen, hdigits⟩ := words_isDigit w hw
  obtain ⟨c, hc, hdigit⟩ := h
  obtain ⟨t, rfl⟩ := List.isPrefixOf_iff_prefix.mp hprefix
  rw [List.take_append_of_le_length hlen] at hc
  exact absurd hdigit (by simp [hdigits c hc])

/-- An integer is read from its digits, with a sign in front of those of a
negative one. -/
theorem readPlain_int {d : Dialect} {n : Int} {rest : Text}
    (hlen : (Text.ofNat n.natAbs).length ≤ digitLimit) (h : Ends rest) :
    readPlain d (Text.ofInt n ++ rest) = .ok (.int n, rest) := by
  obtain ⟨c, t, hdigits⟩ := List.exists_cons_of_ne_nil (Text.ofNat_ne_nil n.natAbs)
  have hc : c.isDigit = true :=
    Text.isDigit_of_mem_ofNat n.natAbs c (hdigits ▸ List.mem_cons_self)
  cases n with
  | ofNat n =>
      replace hdigits : Text.ofNat n = c :: t := hdigits
      have hsign : c ≠ CodePoint.ofChar '-' := by
        rintro rfl
        exact absurd hc (by decide)
      -- Words are tried first, and a number is none.
      have hwords := find?_words_eq_none (s := c :: (t ++ rest)) ⟨c, by simp, hc⟩
      have hread := readUnsigned_append (d := d) (c :: (t ++ rest)) false n hlen h
      rw [hdigits, List.cons_append] at hread
      rw [Text.ofInt, hdigits, List.cons_append]
      simp only [readPlain, hwords, hsign, if_false, hread, Bool.false_eq_true]
      rfl
  | negSucc n =>
      replace hdigits : Text.ofNat (n + 1) = c :: t := hdigits
      have hwords := find?_words_eq_none (s := CodePoint.ofChar '-' :: c :: (t ++ rest))
        ⟨c, by simp, hc⟩
      have hread := readUnsigned_append (d := d) (CodePoint.ofChar '-' :: c :: (t ++ rest)) true
        (n + 1) hlen h
      rw [hdigits, List.cons_append] at hread
      rw [Text.ofInt, hdigits, List.cons_append, List.cons_append]
      simp only [readPlain, hwords, if_true, hread]
      rfl

/-! ### Blanks -/

/-- Blanks are skipped, all of them, up to the first code point that is
none. -/
theorem skipSpace_append {blanks : Text} (h : Blanks blanks) (s : Text) :
    skipSpace (blanks ++ s) = skipSpace s := by
  rw [skipSpace, List.dropWhile_append_of_pos h, skipSpace]

/-- What is no blank is not skipped. -/
theorem skipSpace_cons {c : CodePoint} (h : isSpace c = false) (s : Text) :
    skipSpace (c :: s) = c :: s := by
  simp [skipSpace, h]

/-- Behind blanks a number ends if it ends behind them: a blank is neither a
digit nor a mark that a number goes on with. -/
theorem ends_append {blanks s : Text} (h : Blanks blanks) (hs : Ends s) : Ends (blanks ++ s) := by
  cases blanks with
  | nil => exact hs
  | cons c blanks =>
      intro x hx
      rw [List.cons_append, List.head?_cons, Option.mem_some_iff] at hx
      subst hx
      have hc : isSpace c = true := h c List.mem_cons_self
      have hval : c.val = 0x20 ∨ c.val = 0x09 ∨ c.val = 0x0A ∨ c.val = 0x0D := by
        simpa [isSpace, or_assoc] using hc
      refine ⟨?_, ?_, ?_, ?_⟩
      · simp only [CodePoint.isDigit, Bool.and_eq_false_iff, decide_eq_false_iff_not]
        omega
      all_goals
        rintro rfl
        exact absurd hval (by decide)

/-- A number ends at the marks of a container, which are what can stand
behind a value besides blanks. -/
theorem ends_mark {c : CodePoint} (h : c ∈ [CodePoint.ofChar ',', CodePoint.ofChar ']',
    CodePoint.ofChar '\x7d']) (s : Text) : Ends (c :: s) := by
  have key : ∀ c ∈ [CodePoint.ofChar ',', CodePoint.ofChar ']', CodePoint.ofChar '\x7d'],
      c.isDigit = false ∧ c ≠ CodePoint.ofChar '.' ∧ c ≠ CodePoint.ofChar 'e'
        ∧ c ≠ CodePoint.ofChar 'E' := by decide
  intro x hx
  rw [List.head?_cons, Option.mem_some_iff] at hx
  exact hx ▸ key c h

/-! ### Containers -/

/-- A text that begins with something that is neither blank nor the
end of a container. -/
def Starts (t : Text) : Prop :=
  ∃ c s, t = c :: s ∧ isSpace c = false ∧ ∀ container : Container, c ≠ container.closing

/-- Nothing of a value is skipped as blank. -/
theorem Starts.skipSpace_append {t blanks : Text} (h : Starts t) (hb : Blanks blanks) (s : Text) :
    skipSpace (blanks ++ (t ++ s)) = t ++ s := by
  obtain ⟨c, s', rfl, hc, -⟩ := h
  rw [Json.skipSpace_append hb, List.cons_append, skipSpace_cons hc]

/-- Items are read one after the other up to the end of their array, given
that each is read. Induction on the items behind the first. Fuel is enough
if it is more than their number, since every item takes one step. -/
theorem readItems_append {readOne : Text → ReadResult Json} (rest : Text) (ps : List ItemPart) :
    ∀ (p : ItemPart), (∀ q ∈ p :: ps, q.IsPadded) → (∀ q ∈ p :: ps, Starts q.text) →
      (∀ q ∈ p :: ps, ∀ s, Ends s → readOne (q.text ++ s) = .ok (q.value, s)) →
      ∀ (fuel : Nat) (read : List Json), ps.length < fuel →
        readItems readOne fuel read (p.text ++ (p.after
            ++ (Text.separated "," (ps.map ItemPart.padded) ++ CodePoint.ofChar ']' :: rest)))
          = .ok (.arr (read.reverse ++ (p :: ps).map ItemPart.value), rest) := by
  induction ps with
  | nil =>
      intro p hpad _ hone fuel read hfuel
      obtain ⟨fuel, rfl⟩ := Nat.exists_eq_add_one_of_ne_zero (Nat.ne_zero_of_lt hfuel)
      have hafter : Blanks p.after := (hpad p List.mem_cons_self).2
      have hread := hone p List.mem_cons_self (p.after ++ CodePoint.ofChar ']' :: rest)
        (ends_append hafter (ends_mark (by decide) rest))
      have hskip : skipSpace (p.after ++ CodePoint.ofChar ']' :: rest)
          = CodePoint.ofChar ']' :: rest := by
        rw [skipSpace_append hafter, skipSpace_cons (by decide)]
      simp only [List.map_nil, Text.separated, List.flatMap_nil, List.nil_append, readItems, hread,
        hskip, if_true]
      simp
  | cons q ps ih =>
      intro p hpad hstart hone fuel read hfuel
      obtain ⟨fuel, rfl⟩ := Nat.exists_eq_add_one_of_ne_zero (Nat.ne_zero_of_lt hfuel)
      have hafter : Blanks p.after := (hpad p List.mem_cons_self).2
      have hbefore : Blanks q.before := (hpad q (by simp)).1
      have htail := ih q (fun x hx => hpad x (List.mem_cons_of_mem _ hx))
        (fun x hx => hstart x (List.mem_cons_of_mem _ hx))
        (fun x hx => hone x (List.mem_cons_of_mem _ hx)) fuel (p.value :: read)
        (by simp only [List.length_cons] at hfuel; omega)
      -- Behind the first item stand its blanks, a comma, and the padded second one.
      let more := q.text ++ (q.after
        ++ (Text.separated "," (ps.map ItemPart.padded) ++ CodePoint.ofChar ']' :: rest))
      have hsplit : Text.separated "," ((q :: ps).map ItemPart.padded)
            ++ CodePoint.ofChar ']' :: rest
          = CodePoint.ofChar ',' :: (q.before ++ more) := by
        simp only [more, Text.separated, List.map_cons, List.flatMap_cons, ItemPart.padded,
          List.append_assoc]
        rfl
      have hread := hone p List.mem_cons_self
        (p.after ++ CodePoint.ofChar ',' :: (q.before ++ more))
        (ends_append hafter (ends_mark (by decide) _))
      have hskip : skipSpace (p.after ++ CodePoint.ofChar ',' :: (q.before ++ more))
          = CodePoint.ofChar ',' :: (q.before ++ more) := by
        rw [skipSpace_append hafter, skipSpace_cons (by decide)]
      have hnext : skipSpace (q.before ++ more) = more :=
        (hstart q (by simp)).skipSpace_append hbefore _
      have hcomma : CodePoint.ofChar ',' ≠ CodePoint.ofChar ']' := by decide
      rw [hsplit]
      simp only [readItems, hread, hskip, hcomma, if_false, if_true, hnext]
      rw [htail]
      simp

/-- One member in front of more text, behind its first blanks. -/
def MemberPart.followedBy (p : MemberPart) (s : Text) : Text :=
  .quoteSign :: (p.keyText ++ .quoteSign :: (p.after ++ CodePoint.ofChar ':'
    :: (p.item.before ++ (p.item.text ++ (p.item.after ++ s)))))

/-- A member that ends at a comma or at the end of its object is read up to
there. Blanks may stand around the key, the colon and the value. -/
theorem readMembers_step {d : Dialect} {readOne : Text → ReadResult Json} {p : MemberPart}
    (hpad : p.IsPadded) (hkey : LegibleText d p.key) (hstart : Starts p.item.text)
    (hone : ∀ s, Ends s → readOne (p.item.text ++ s) = .ok (p.item.value, s)) {c : CodePoint}
    (hc : c ∈ [CodePoint.ofChar ',', CodePoint.ofChar ']', CodePoint.ofChar '\x7d'])
    (fuel : Nat) (read : Members) (s : Text) :
    readMembers d readOne (fuel + 1) read (p.followedBy (c :: s))
      = if c = CodePoint.ofChar '\x7d' then .ok (.obj (ofMembers (p.member :: read).reverse), s)
        else if c = CodePoint.ofChar ',' then
          readMembers d readOne fuel (p.member :: read) (skipSpace s)
        else .error (.malformed .expectingComma (c :: s)) := by
  obtain ⟨-, hafterKey, ⟨hbefore, hafter⟩, hspelled⟩ := hpad
  have hblank : isSpace c = false := by
    have key : ∀ c ∈ [CodePoint.ofChar ',', CodePoint.ofChar ']', CodePoint.ofChar '\x7d'],
        isSpace c = false := by decide
    exact key c hc
  have hcolon : ∀ t,
      skipSpace (p.after ++ CodePoint.ofChar ':' :: t) = CodePoint.ofChar ':' :: t := by
    intro t
    rw [skipSpace_append hafterKey, skipSpace_cons (by decide)]
  have hitem : skipSpace (p.item.before ++ (p.item.text ++ (p.item.after ++ c :: s)))
      = p.item.text ++ (p.item.after ++ c :: s) := hstart.skipSpace_append hbefore _
  have hread := hone (p.item.after ++ c :: s) (ends_append hafter (ends_mark hc s))
  have hskip : skipSpace (p.item.after ++ c :: s) = c :: s := by
    rw [skipSpace_append hafter, skipSpace_cons hblank]
  simp only [MemberPart.followedBy, readMembers, ne_eq, not_true_eq_false, if_false,
    readString_append hspelled hkey, hcolon, hitem, hread, hskip]
  rfl

/-- Members are read one after the other up to the end of their object.
Induction on the members behind the first; each of them is one step
(`readMembers_step`). -/
theorem readMembers_append {d : Dialect} {readOne : Text → ReadResult Json} (rest : Text)
    (ps : List MemberPart) :
    ∀ (p : MemberPart), (∀ q ∈ p :: ps, q.IsPadded) → (∀ q ∈ p :: ps, LegibleText d q.key) →
      (∀ q ∈ p :: ps, Starts q.item.text) →
      (∀ q ∈ p :: ps, ∀ s, Ends s → readOne (q.item.text ++ s) = .ok (q.item.value, s)) →
      ∀ (fuel : Nat) (read : Members), ps.length < fuel →
        readMembers d readOne fuel read (p.followedBy
            (Text.separated "," (ps.map MemberPart.padded) ++ CodePoint.ofChar '\x7d' :: rest))
          = .ok (.obj (ofMembers (read.reverse ++ (p :: ps).map MemberPart.member)), rest) := by
  induction ps with
  | nil =>
      intro p hpad hkey hstart hone fuel read hfuel
      obtain ⟨fuel, rfl⟩ := Nat.exists_eq_add_one_of_ne_zero (Nat.ne_zero_of_lt hfuel)
      have hstep := readMembers_step (hpad p List.mem_cons_self) (hkey p List.mem_cons_self)
        (hstart p List.mem_cons_self) (hone p List.mem_cons_self)
        (c := CodePoint.ofChar '\x7d') (by decide) fuel read rest
      simp only [List.map_nil, Text.separated, List.flatMap_nil, List.nil_append, hstep, if_true]
      simp
  | cons q ps ih =>
      intro p hpad hkey hstart hone fuel read hfuel
      obtain ⟨fuel, rfl⟩ := Nat.exists_eq_add_one_of_ne_zero (Nat.ne_zero_of_lt hfuel)
      let more := q.followedBy
        (Text.separated "," (ps.map MemberPart.padded) ++ CodePoint.ofChar '\x7d' :: rest)
      have htail := ih q (fun x hx => hpad x (List.mem_cons_of_mem _ hx))
        (fun x hx => hkey x (List.mem_cons_of_mem _ hx))
        (fun x hx => hstart x (List.mem_cons_of_mem _ hx))
        (fun x hx => hone x (List.mem_cons_of_mem _ hx)) fuel (p.member :: read)
        (by simp only [List.length_cons] at hfuel; omega)
      -- Behind the first member stand a comma and the padded second one.
      have hsplit : Text.separated "," ((q :: ps).map MemberPart.padded)
            ++ CodePoint.ofChar '\x7d' :: rest
          = CodePoint.ofChar ',' :: (q.before ++ more) := by
        simp only [more, Text.separated, List.map_cons, List.flatMap_cons, MemberPart.padded,
          ItemPart.padded, MemberPart.followedBy, quotedText, List.append_assoc,
          List.cons_append, List.nil_append]
        rfl
      have hbefore : Blanks q.before := (hpad q (by simp)).1
      have hnext : skipSpace (q.before ++ more) = more := by
        rw [skipSpace_append hbefore]
        exact skipSpace_cons (by decide) _
      have hstep := readMembers_step (hpad p List.mem_cons_self) (hkey p List.mem_cons_self)
        (hstart p List.mem_cons_self) (hone p List.mem_cons_self)
        (c := CodePoint.ofChar ',') (by decide) fuel read (q.before ++ more)
      have hcomma : CodePoint.ofChar ',' ≠ CodePoint.ofChar '\x7d' := by decide
      rw [hsplit, hstep, if_neg hcomma, if_pos rfl, hnext]
      show readMembers d readOne fuel (p.member :: read) more = _
      rw [htail]
      simp

/-! ### Values -/

/-- A digit starts a text: it is no blank, and it closes no container. -/
theorem starts_of_isDigit {c : CodePoint} (h : c.isDigit = true) (s : Text) : Starts (c :: s) := by
  have hval : 0x30 ≤ c.val ∧ c.val ≤ 0x39 := by simpa [CodePoint.isDigit] using h
  refine ⟨c, s, rfl, ?_, fun container => ?_⟩
  · simp only [isSpace, Bool.or_eq_false_iff, beq_eq_false_iff_ne, ne_eq]
    omega
  · rintro rfl
    cases container <;> exact absurd hval (by decide)

/-- What a value can begin with, apart from digits. -/
def openings : List CodePoint :=
  [CodePoint.ofChar 'n', CodePoint.ofChar 't', CodePoint.ofChar 'f', CodePoint.ofChar 'N',
    CodePoint.ofChar 'I', CodePoint.ofChar '-', .quoteSign, CodePoint.ofChar '[',
    CodePoint.ofChar '\x7b']

/-- Each of these marks starts a text of a value, so it is no blank and
closes nothing. -/
theorem starts_of_mem_openings {c : CodePoint} (h : c ∈ openings) (s : Text) :
    Starts (c :: s) := by
  have key : ∀ c ∈ openings,
      isSpace c = false ∧ c ≠ Container.array.closing ∧ c ≠ Container.object.closing := by
    decide
  refine ⟨c, s, rfl, (key c h).1, fun container => ?_⟩
  cases container with
  | array => exact (key c h).2.1
  | object => exact (key c h).2.2

/-- Every text of a value starts with something that is neither blank nor a
closing mark. So blanks in front of it can be skipped, and a list or an
object is seen not to be empty. -/
theorem Spells.starts {j : Json} {t : Text} (h : Spells j t) : Starts t := by
  have starts : ∀ c ∈ openings, ∀ s, Starts (c :: s) := fun c hc s => starts_of_mem_openings hc s
  cases h with
  | null => exact starts _ (by decide) _
  | bool b => cases b <;> exact starts _ (by decide) _
  | int n =>
      cases n with
      | ofNat n =>
          obtain ⟨c, t, hdigits⟩ := List.exists_cons_of_ne_nil (Text.ofNat_ne_nil n)
          rw [Text.ofInt, hdigits]
          exact starts_of_isDigit
            (Text.isDigit_of_mem_ofNat n c (hdigits ▸ List.mem_cons_self)) t
      | negSucc n => exact starts _ (by decide) _
  | str => exact starts _ (by decide) _
  | emptyArr => exact starts _ (by decide) _
  | arr => exact starts _ (by decide) _
  | emptyObj => exact starts _ (by decide) _
  | obj => exact starts _ (by decide) _

/-- A container without content is read as such. Blanks between its marks
are no content. -/
theorem readContainer_blanks (content : Container → Text → ReadResult Json)
    (container : Container) {blanks : Text} (h : Blanks blanks) (rest : Text) :
    readContainer content container (blanks ++ container.closing :: rest)
      = .ok (container.empty, rest) := by
  have hclosing : isSpace container.closing = false := by cases container <;> decide
  simp only [readContainer, skipSpace_append h, skipSpace_cons hclosing, if_true]

/-- Content that starts is read as content. Behind the blanks stands
something that is not the closing mark. -/
theorem readContainer_starts (content : Container → Text → ReadResult Json)
    (container : Container) {blanks t : Text} (h : Blanks blanks) (ht : Starts t) (s : Text) :
    readContainer content container (blanks ++ (t ++ s)) = content container (t ++ s) := by
  have hskip := ht.skipSpace_append h s
  obtain ⟨c, t, rfl, -, hc⟩ := ht
  rw [List.cons_append] at hskip ⊢
  simp only [readContainer, hskip, hc container, if_false]

/-- A word or a number that is a value is read by itself, however the
inside of a container is read. -/
theorem readWith_int {d : Dialect} (inside : Container → Text → ReadResult Json) {n : Int}
    {rest : Text} (hlen : (Text.ofNat n.natAbs).length ≤ digitLimit) (h : Ends rest) :
    readWith d inside (Text.ofInt n ++ rest) = .ok (.int n, rest) := by
  obtain ⟨c, s, hs, hc⟩ : ∃ c s, Text.ofInt n = c :: s
      ∧ (c.isDigit = true ∨ c = CodePoint.ofChar '-') := by
    cases n with
    | ofNat n =>
        obtain ⟨c, t, hdigits⟩ := List.exists_cons_of_ne_nil (Text.ofNat_ne_nil n)
        exact ⟨c, t, hdigits,
          .inl (Text.isDigit_of_mem_ofNat n c (hdigits ▸ List.mem_cons_self))⟩
    | negSucc n => exact ⟨_, _, rfl, .inr rfl⟩
  have hplain := readPlain_int (d := d) hlen h
  have hmarks : c ≠ .quoteSign ∧ c ≠ CodePoint.ofChar '\x7b' ∧ c ≠ CodePoint.ofChar '[' := by
    refine ⟨?_, ?_, ?_⟩ <;> rintro rfl <;> exact absurd hc (by decide)
  rw [hs, List.cons_append] at hplain ⊢
  simp only [readWith, hmarks.1, hmarks.2.1, hmarks.2.2, if_false, hplain]

/-- A value that is no container is read by itself, however the inside
of a container is read. -/
theorem readWith_scalar {d : Dialect} (inside : Container → Text → ReadResult Json) {j : Json}
    (hj : Legible d 0 j) {t : Text} (h : Spells j t) {rest : Text} (hrest : Follows j rest) :
    readWith d inside (t ++ rest) = .ok (j, rest) := by
  cases h with
  | null => rfl
  | bool b => cases b <;> rfl
  | int n => exact readWith_int inside hj hrest
  | @str u s hs =>
      have hread := readString_append hs hj rest
      rw [quotedText, List.cons_append, List.cons_append, List.append_assoc]
      simp only [readWith, if_true]
      rw [show s ++ ([.quoteSign] ++ rest) = s ++ .quoteSign :: rest from rfl, hread]
  | emptyArr => exact hj.elim
  | arr => exact hj.elim
  | emptyObj => exact hj.elim
  | obj => exact hj.elim

/-- Content that starts is read with the reader of its parts, which may
take as many steps as the content is long. -/
theorem readContent_starts {d : Dialect} (readOne : Text → ReadResult Json) {t : Text}
    (ht : Starts t) (s : Text) :
    readContent d readOne .array (t ++ s)
        = readItems readOne ((t ++ s).length + 1) [] (t ++ s)
      ∧ readContent d readOne .object (t ++ s)
        = readMembers d readOne ((t ++ s).length + 1) [] (t ++ s) := by
  obtain ⟨c, t, rfl, -, -⟩ := ht
  exact ⟨rfl, rfl⟩

/-- An array that has items is read if its items are, each with any blanks
around it. What is assumed of the reader of single values is the hypothesis
of the induction on depth. -/
theorem readContainer_array {d : Dialect} {readOne : Text → ReadResult Json}
    {parts : List ItemPart} (hne : parts ≠ []) (hpad : ∀ p ∈ parts, p.IsPadded)
    (hstart : ∀ p ∈ parts, Starts p.text)
    (hone : ∀ p ∈ parts, ∀ s, Ends s → readOne (p.text ++ s) = .ok (p.value, s)) (rest : Text) :
    readContainer (readContent d readOne) .array
        (Text.joinWith "," (parts.map ItemPart.padded) ++ CodePoint.ofChar ']' :: rest)
      = .ok (.arr (parts.map ItemPart.value), rest) := by
  obtain ⟨p, ps, rfl⟩ := List.exists_cons_of_ne_nil hne
  have hlen := Text.length_le_length_separated "," (by decide)
    (ps.map ItemPart.padded)
  rw [List.length_map] at hlen
  rw [List.map_cons, Text.joinWith_cons, ItemPart.padded]
  simp only [List.append_assoc]
  rw [readContainer_starts _ _ (hpad p List.mem_cons_self).1 (hstart p List.mem_cons_self),
    (readContent_starts readOne (hstart p List.mem_cons_self) _).1,
    readItems_append rest ps p hpad hstart hone _ [] (by simp only [List.length_append]; omega)]
  rfl

/-- An object that has members is read if their values are. No two keys may
be the same, since the last of them would be the one that counts. -/
theorem readContainer_object {d : Dialect} {readOne : Text → ReadResult Json}
    {parts : List MemberPart} (hne : parts ≠ []) (hpad : ∀ p ∈ parts, p.IsPadded)
    (hkeys : (Members.keys (parts.map MemberPart.member)).Nodup)
    (hkey : ∀ p ∈ parts, LegibleText d p.key) (hstart : ∀ p ∈ parts, Starts p.item.text)
    (hone : ∀ p ∈ parts, ∀ s, Ends s → readOne (p.item.text ++ s) = .ok (p.item.value, s))
    (rest : Text) :
    readContainer (readContent d readOne) .object
        (Text.joinWith "," (parts.map MemberPart.padded) ++ CodePoint.ofChar '\x7d' :: rest)
      = .ok (.obj (parts.map MemberPart.member), rest) := by
  obtain ⟨p, ps, rfl⟩ := List.exists_cons_of_ne_nil hne
  have hlen := Text.length_le_length_separated "," (by decide)
    (ps.map MemberPart.padded)
  rw [List.length_map] at hlen
  let s := Text.separated "," (ps.map MemberPart.padded) ++ CodePoint.ofChar '\x7d' :: rest
  -- The first member begins with a quotation mark behind its blanks.
  have hsplit : Text.joinWith "," ((p :: ps).map MemberPart.padded)
          ++ CodePoint.ofChar '\x7d' :: rest
        = p.before ++ ([CodePoint.quoteSign] ++ (p.followedBy s).tail) := by
    simp only [s, List.map_cons, Text.joinWith_cons, MemberPart.padded, ItemPart.padded,
      MemberPart.followedBy, quotedText, List.append_assoc, List.cons_append, List.nil_append,
      List.tail_cons]
  have hquote : Starts [.quoteSign] :=
    ⟨_, _, rfl, by decide, fun container => by cases container <;> decide⟩
  rw [hsplit, readContainer_starts _ _ (hpad p List.mem_cons_self).1 hquote,
    (readContent_starts readOne hquote _).2]
  have hread := readMembers_append rest ps p hpad hkey hstart hone
    (([CodePoint.quoteSign] ++ (p.followedBy s).tail).length + 1) []
    (by simp only [s, MemberPart.followedBy, List.tail_cons, List.length_append,
          List.length_cons]; omega)
  rw [List.reverse_nil, List.nil_append, ofMembers_of_nodup hkeys] at hread
  exact hread

/-- **What is spelled is read.** From the front of a text that goes on
behind it, the reader takes a legible value and nothing else.
Induction on how deep containers may nest; each level reads its parts
with the level below. -/
theorem readValue_append {d : Dialect} {depth : Nat} {j : Json} (hj : Legible d depth j)
    {t : Text} (h : Spells j t) {rest : Text} (hrest : Follows j rest) :
    readValue d depth (t ++ rest) = .ok (j, rest) := by
  induction depth generalizing j t rest with
  | zero => exact readWith_scalar _ hj h hrest
  | succ depth ih =>
      cases h with
      | null => exact readWith_scalar _ (show Legible d 0 .null from trivial) .null hrest
      | bool b =>
          exact readWith_scalar _ (show Legible d 0 (.bool b) from trivial) (.bool b) hrest
      | int n => exact readWith_scalar _ (show Legible d 0 (.int n) from hj) (.int n) hrest
      | @str u _ hs => exact readWith_scalar _ (show Legible d 0 (.str u) from hj) (.str hs) hrest
      | emptyArr hs =>
          rw [List.cons_append, List.cons_append, List.append_assoc]
          exact readContainer_blanks _ .array hs rest
      | arr hne hpad hitems =>
          rw [List.cons_append, List.cons_append, List.append_assoc]
          refine readContainer_array hne hpad (fun p hp => (hitems p hp).starts) ?_ rest
          intro p hp s hs
          exact ih (hj p.value (List.mem_map.mpr ⟨p, hp, rfl⟩)) (hitems p hp) (hs.follows _)
      | emptyObj hs =>
          rw [List.cons_append, List.cons_append, List.append_assoc]
          exact readContainer_blanks _ .object hs rest
      | obj hne hpad hvalues =>
          obtain ⟨hkeys, hmembers⟩ := hj
          rw [List.cons_append, List.cons_append, List.append_assoc]
          refine readContainer_object hne hpad hkeys ?_ (fun p hp => (hvalues p hp).starts) ?_ rest
          · intro p hp
            exact (hmembers p.member (List.mem_map.mpr ⟨p, hp, rfl⟩)).1
          · intro p hp s hs
            exact ih (hmembers p.member (List.mem_map.mpr ⟨p, hp, rfl⟩)).2 (hvalues p hp)
              (hs.follows _)

/-! ### Whole texts -/

/-- What is parsed was read from the front, behind blanks: to parse a text
is to read a value from it and to find nothing else behind. -/
theorem exists_readFront_of_parse {t : Text} {value : Json} (h : parse t = .ok value) :
    ∃ left, readFront .common (skipSpace t) = .ok (value, left) := by
  rw [parse, read] at h
  split at h
  · next found hfound =>
    obtain rfl := Except.ok.inj h
    split at hfound
    · cases hfound
    split at hfound
    · cases hfound
    next found left hfront =>
    split at hfound
    · exact ⟨left, Except.ok.inj hfound ▸ hfront⟩
    · cases hfound
  · cases h

/-- A text that is read to its end is parsed. It must not begin with a mark
for the order of bytes, for that is refused. -/
theorem parse_of_readFront {t : Text} {value : Json} (hstart : Starts t)
    (hmark : t.head? ≠ some .byteOrderMark) (h : readFront .common t = .ok (value, [])) :
    parse t = .ok value := by
  have hskip := hstart.skipSpace_append blanks_nil []
  rw [List.nil_append, List.append_nil] at hskip
  rw [parse, read, if_neg hmark, hskip, h]
  rfl

end Json

end DocScribe
