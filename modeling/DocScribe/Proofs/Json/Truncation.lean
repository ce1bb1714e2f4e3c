import DocScribe.Proofs.Json.Reading

/-!
# `DocScribe.Proofs.Json.Truncation`: what is cut off is not read

A text of a value that is cut off before its end is malformed:
`readValue_of_cut`. Only of a number something can be cut off so that a
number is left, and nothing stands behind it then. The other faults of
a reading, an integer that is too long or containers that nest too deep,
do not come up in a part of what can be read as a whole.

A string has no closing mark where it is cut off. What the reader makes
of the code points before the cut is not said here: an escape may be
torn, and half of a surrogate pair may have lost the other half. Instead,
a string that is read is read in the same way when more text follows
(`readStringFrom_extend`), so a closing mark that is found in a part would
be found in the whole, and the whole is known to have just the one at its
end. Containers are taken apart like in `Proofs/Json/Reading.lean`, at
the item or member in which the cut falls.
-/

set_option autoImplicit false

namespace DocScribe.Json

/-- A reading that ends at a fault of the text. -/
def Faulty {α : Type} (result : ReadResult α) : Prop :=
  ∃ fault left, result = .error (.malformed fault left)

/-- A beginning of two texts in a row is one of the first, or it reaches
into the second. -/
theorem cut_append {a b cut : Text} (h : cut <+: a ++ b) :
    cut <+: a ∨ ∃ c cut', cut = a ++ c :: cut' ∧ c :: cut' <+: b := by
  obtain ⟨more, hmore⟩ := h
  rcases List.append_eq_append_iff.mp hmore with ⟨w, hw, -⟩ | ⟨w, hw, hb⟩
  · exact .inl ⟨w, hw.symm⟩
  · cases w with
    | nil => exact .inl ⟨[], by rw [hw, List.append_nil, List.append_nil]⟩
    | cons c cut' => exact .inr ⟨c, cut', hw, more, hb.symm⟩

/-! ### Strings -/

/-- Four digits are the same with more text behind them: they are counted
from the front. -/
theorem hexQuad?_extend {s rest : Text} {unit : CodePoint} (h : hexQuad? s = some (unit, rest))
    (more : Text) : hexQuad? (s ++ more) = some (unit, rest ++ more) := by
  match s with
  | [] => exact nomatch h
  | [_] => exact nomatch h
  | [_, _] => exact nomatch h
  | [_, _, _] => exact nomatch h
  | [_, _, _, _] => exact nomatch h
  | a :: b :: c :: d :: next :: s =>
      simp only [hexQuad?, Option.bind_eq_bind, Option.bind_eq_some_iff, Option.pure_def,
        Option.some.injEq, Prod.mk.injEq, List.cons_append] at h ⊢
      obtain ⟨p, hp, q, hq, r, hr, t, ht, hunit, hrest⟩ := h
      exact ⟨p, hp, q, hq, r, hr, t, ht, hunit, by rw [← hrest, List.cons_append]⟩

/-- So is an escape for a second half, which is complete where it is
found. -/
theorem lowEscape?_extend {s rest : Text} {low : CodePoint} (h : lowEscape? s = some (low, rest))
    (more : Text) : lowEscape? (s ++ more) = some (low, rest ++ more) := by
  rcases s with _ | ⟨a, _ | ⟨b, s⟩⟩
  · cases h
  · cases h
  · simp only [lowEscape?, List.cons_append] at h ⊢
    split at h
    · next hmarks =>
      rw [if_pos hmarks]
      cases hquad : hexQuad? s with
      | none =>
          rw [hquad] at h
          cases h
      | some found =>
          obtain ⟨unit, rest'⟩ := found
          rw [hquad] at h
          rw [hexQuad?_extend hquad more]
          dsimp only at h ⊢
          split at h
          · next hlow =>
            obtain ⟨rfl, rfl⟩ := Prod.mk.inj (Option.some.inj h)
            rw [if_pos hlow]
          · cases h
    · cases h

variable {d : Dialect} {opening : Text}

/-- All faults of an escape are faults of the text: nothing in an escape is
limited. -/
theorem exists_of_readEscape_error {s : Text} {e : ReadError}
    (h : readEscape d opening s = .error e) : ∃ fault left, e = .malformed fault left := by
  rw [readEscape.eq_def] at h
  split at h
  · exact ⟨_, _, (Except.error.inj h).symm⟩
  · split at h
    · split at h
      · exact ⟨_, _, (Except.error.inj h).symm⟩
      · dsimp only at h
        split at h
        · exact ⟨_, _, (Except.error.inj h).symm⟩
        · exact nomatch h
    · split at h
      · exact nomatch h
      · exact ⟨_, _, (Except.error.inj h).symm⟩

/-- All faults of a string are faults of the text: it is no string, or not a
whole one. The limits of the reader play no part in it. Induction on the
fuel. -/
theorem exists_of_readStringFrom_error (fuel : Nat) {read s : Text} {e : ReadError}
    (h : readStringFrom d opening fuel read s = .error e) :
    ∃ fault left, e = .malformed fault left := by
  induction fuel generalizing read s with
  | zero => exact ⟨_, _, (Except.error.inj h).symm⟩
  | succ fuel ih =>
      cases s with
      | nil => exact ⟨_, _, (Except.error.inj h).symm⟩
      | cons c rest =>
          rw [readStringFrom] at h
          split at h
          · cases h
          split at h
          · split at h
            · next hescape => exact exists_of_readEscape_error (Except.error.inj h ▸ hescape)
            · exact ih h
          split at h
          · exact ⟨_, _, (Except.error.inj h).symm⟩
          · exact ih h

/-- An escape for a second half begins with its two marks. If one of them is
cut off, the first half stands alone. -/
theorem marks_of_lowEscape? {a b : CodePoint} {s : Text} (h : lowEscape? (a :: b :: s) ≠ none) :
    a = .backslash ∧ b = CodePoint.ofChar 'u' := by
  rw [lowEscape?] at h
  split at h
  · next hmarks => exact hmarks
  · exact absurd rfl h

/-- Where the second half of a pair comes only with more text, what is
there of its escape is no string. -/
theorem readStringFrom_of_torn {s more : Text} (hnone : lowEscape? s = none)
    (hsome : lowEscape? (s ++ more) ≠ none) (fuel : Nat) (read : Text) :
    ∃ e, readStringFrom d opening fuel read s = .error e := by
  have hslash : CodePoint.backslash ≠ .quoteSign := by decide
  cases fuel with
  | zero => exact ⟨_, rfl⟩
  | succ fuel =>
      rcases s with _ | ⟨a, _ | ⟨b, s⟩⟩
      · exact ⟨_, rfl⟩
      · cases more with
        | nil => exact absurd rfl hsome
        | cons b more =>
            -- A single backslash is there, and no escape behind it.
            obtain ⟨rfl, -⟩ := marks_of_lowEscape? hsome
            simp only [readStringFrom, hslash, if_false, if_true, readEscape]
            exact ⟨_, rfl⟩
      · obtain ⟨rfl, rfl⟩ := marks_of_lowEscape? hsome
        -- Whole digits would be those of a second half with more text as well.
        have hquad : hexQuad? s = none := by
          cases hquad : hexQuad? s with
          | none => rfl
          | some found =>
              obtain ⟨unit, rest⟩ := found
              simp only [List.cons_append, lowEscape?, and_self, if_true, hquad,
                hexQuad?_extend hquad] at hnone hsome
              split at hnone
              · cases hnone
              · next hlow => exact absurd (if_neg hlow) hsome
        simp only [readStringFrom, hslash, if_false, if_true, readEscape, hquad]
        exact ⟨_, rfl⟩

/-- Half of a pair finds its other half, or none, in the same way when more
text follows, unless no string can be read behind it. -/
theorem pairedUnit_extend (d : Dialect) (opening : Text) (unit : CodePoint) (s more : Text) :
    pairedUnit unit (s ++ more) = ((pairedUnit unit s).1, (pairedUnit unit s).2 ++ more)
      ∨ ∀ fuel read, ∃ e, readStringFrom d opening fuel read (pairedUnit unit s).2 = .error e := by
  by_cases hhigh : unit.isHighSurrogate = true
  · simp only [pairedUnit, hhigh, if_true]
    cases hlow : lowEscape? s with
    | some found =>
        obtain ⟨low, rest⟩ := found
        exact .inl (by rw [lowEscape?_extend hlow])
    | none =>
        -- The other half may come with more text: then its escape is torn here.
        cases hmore : lowEscape? (s ++ more) with
        | none => exact .inl rfl
        | some found => exact .inr (readStringFrom_of_torn hlow (hmore ▸ Option.some_ne_none _))
  · have hself : ∀ s, pairedUnit unit s = (unit, s) := fun s => by
      simp only [pairedUnit, hhigh, if_false, Bool.false_eq_true]
    exact .inl (by rw [hself, hself])

/-- An escape is read in the same way when more text follows, unless no
string can be read behind it. The exception is a first half whose second
half has been cut apart: with the rest it makes another code point. -/
theorem readEscape_extend {s rest : Text} {unit : CodePoint}
    (h : readEscape d opening s = .ok (unit, rest)) (opening' more : Text) :
    readEscape d opening' (s ++ more) = .ok (unit, rest ++ more)
      ∨ ∀ fuel read, ∃ e, readStringFrom d opening fuel read rest = .error e := by
  cases s with
  | nil => cases h
  | cons c s =>
      rw [List.cons_append]
      rw [readEscape] at h ⊢
      split at h
      · next hmark =>
        rw [if_pos hmark]
        cases hquad : hexQuad? s with
        | none =>
            rw [hquad] at h
            cases h
        | some found =>
            obtain ⟨unit', rest'⟩ := found
            rw [hquad] at h
            rw [hexQuad?_extend hquad]
            -- The four digits stay as they are; only what is paired with them may differ.
            have hextend := pairedUnit_extend d opening unit' rest' more
            dsimp only at h ⊢
            cases hpaired : pairedUnit unit' rest' with
            | mk unit rest =>
                rw [hpaired] at h hextend
                split at h
                · cases h
                · next htakes =>
                  obtain ⟨rfl, rfl⟩ := Prod.mk.inj (Except.ok.inj h)
                  refine hextend.imp_left fun hsame => ?_
                  rw [hsame, if_neg htakes]
      · next hmark =>
        rw [if_neg hmark]
        refine .inl ?_
        cases hshort : shortEscape? c with
        | none =>
            rw [hshort] at h
            cases h
        | some unit' =>
            rw [hshort] at h
            obtain ⟨rfl, rfl⟩ := Prod.mk.inj (Except.ok.inj h)
            rfl

/-- A string that is read is read in the same way when more text
follows. -/
theorem readStringFrom_extend (opening' more : Text) {fuel fuel' : Nat} {read s t rest : Text}
    (h : readStringFrom d opening fuel read s = .ok (t, rest)) (hfuel : fuel ≤ fuel') :
    readStringFrom d opening' fuel' read (s ++ more) = .ok (t, rest ++ more) := by
  induction fuel generalizing fuel' read s with
  | zero => cases h
  | succ fuel ih =>
      obtain ⟨fuel', rfl⟩ := Nat.exists_eq_add_of_lt hfuel
      cases s with
      | nil => cases h
      | cons c s =>
          rw [List.cons_append]
          rw [readStringFrom] at h ⊢
          split at h
          · next hquote =>
            obtain ⟨rfl, rfl⟩ := Prod.mk.inj (Except.ok.inj h)
            rw [if_pos hquote]
          · next hquote =>
            rw [if_neg hquote]
            split at h
            · next hslash =>
              rw [if_pos hslash]
              cases hescape : readEscape d opening s with
              | error e =>
                  rw [hescape] at h
                  cases h
              | ok found =>
                  obtain ⟨unit, rest'⟩ := found
                  rw [hescape] at h
                  rcases readEscape_extend hescape opening' more with hsame | hnever
                  · rw [hsame]
                    exact ih h (Nat.le_add_right _ _)
                  · -- The escape would be another one with more text, but no string is read here.
                    obtain ⟨e, he⟩ := hnever fuel (unit :: read)
                    cases he.symm.trans h
            · next hslash =>
              rw [if_neg hslash]
              split at h
              · cases h
              · next hlow =>
                rw [if_neg hlow]
                exact ih h (Nat.le_add_right _ _)

/-- A string that is cut off before its closing mark is malformed. If it
could be read, it could also be read as a part of the whole, and would end
there at a mark that the whole does not have. -/
theorem readString_of_cut {t s cut : Text} (hs : SpellsString t s) (ht : LegibleText d t)
    (hcut : cut <+: s) : Faulty (readString d cut) := by
  obtain ⟨more, rfl⟩ := hcut
  cases hread : readString d cut with
  | error e =>
      obtain ⟨fault, left, rfl⟩ := exists_of_readStringFrom_error _ hread
      exact ⟨fault, left, rfl⟩
  | ok found =>
      obtain ⟨u, rest⟩ := found
      have hwhole := readString_append hs ht []
      rw [List.append_assoc] at hwhole
      have hextend : readString d (cut ++ (more ++ [CodePoint.quoteSign]))
          = .ok (u, rest ++ (more ++ [CodePoint.quoteSign])) :=
        readStringFrom_extend _ _ hread (by simp only [List.length_append]; omega)
      -- In the whole string nothing is left behind the closing mark.
      have hleft := (Prod.mk.inj (Except.ok.inj (hextend.symm.trans hwhole))).2
      exact absurd hleft (by simp)

/-! ### Words and numbers -/

/-- A reading that cannot be that of a value which was cut off: it is
malformed, or it is a number and nothing is left. -/
def CutShort (j : Json) (result : ReadResult Json) : Prop :=
  Faulty result ∨ ∃ n m, j = .int n ∧ result = .ok (.int m, [])

/-- What neither is a word nor begins like a string, a container or a
number is malformed. -/
theorem readWith_of_no_start (inside : Container → Text → ReadResult Json) {s : Text}
    (hword : (words.find? fun w => w.1.isPrefixOf s).isNone = true)
    (hwhole : (readWhole? s).isNone = true)
    (hmarks : ∀ c ∈ s.head?, c ≠ .quoteSign ∧ c ≠ CodePoint.ofChar '\x7b'
      ∧ c ≠ CodePoint.ofChar '[' ∧ c ≠ CodePoint.ofChar '-') : Faulty (readWith d inside s) := by
  cases s with
  | nil => exact ⟨_, _, rfl⟩
  | cons c rest =>
      obtain ⟨hquote, hobject, harray, hminus⟩ := hmarks c rfl
      rw [Option.isNone_iff_eq_none] at hword hwhole
      simp only [readWith, hquote, hobject, harray, if_false, readPlain, hword, hminus,
        readUnsigned, hwhole]
      exact ⟨_, _, rfl⟩

/-- A word that is cut off is malformed: none of the words begins with
another, and none is short enough to be one. -/
theorem readWith_of_cut_word (inside : Container → Text → ReadResult Json) {word cut : Text}
    (hword : word ∈ [Text.ofString "null", Text.ofString "true", Text.ofString "false"])
    (hcut : cut <+: word) (hne : cut ≠ word) : Faulty (readWith d inside cut) := by
  -- The beginnings of three short words, one by one.
  have key : ∀ word ∈ [Text.ofString "null", Text.ofString "true", Text.ofString "false"],
      ∀ n < word.length, (words.find? fun w => w.1.isPrefixOf (word.take n)).isNone = true
        ∧ (readWhole? (word.take n)).isNone = true
        ∧ ∀ c ∈ (word.take n).head?, c ≠ .quoteSign ∧ c ≠ CodePoint.ofChar '\x7b'
          ∧ c ≠ CodePoint.ofChar '[' ∧ c ≠ CodePoint.ofChar '-' := by decide
  have hlen : cut.length < word.length := by
    refine Nat.lt_of_le_of_ne hcut.length_le fun heq => hne ?_
    exact hcut.eq_of_length heq
  have htake : cut = word.take cut.length := List.prefix_iff_eq_take.mp hcut
  obtain ⟨hnone, hwhole, hmarks⟩ := key word hword cut.length hlen
  rw [← htake] at hnone hwhole hmarks
  exact readWith_of_no_start inside hnone hwhole hmarks

/-- Digits of which the first is no zero are a number, and all of them are
taken for it. -/
theorem readUnsigned_digits (start : Text) (negative : Bool) {c : CodePoint} {digits : Text}
    (hdigits : ∀ x ∈ c :: digits, x.isDigit = true) (hzero : c ≠ CodePoint.ofChar '0')
    (hlen : (c :: digits).length ≤ digitLimit) :
    ∃ m, readUnsigned d start negative (c :: digits) = .ok (.int m, []) := by
  have hspan : spanDigits (c :: digits ++ []) = (c :: digits, []) :=
    spanDigits_append hdigits (by simp)
  rw [List.append_nil] at hspan
  have hlong : isTooLong d true (c :: digits) = false := by
    simp only [isTooLong, Bool.or_true, Bool.true_and, decide_eq_false_iff_not]
    omega
  have hwhole : readWhole? (c :: digits) = some (c :: digits, []) := by
    simp only [readWhole?, hzero, if_false, hdigits c List.mem_cons_self, if_true, hspan]
  simp only [readUnsigned, hwhole, readFraction, readExponent, List.isEmpty_nil,
    Option.isNone_none, Bool.and_self, hlong, Bool.false_eq_true, if_false, if_true]
  exact ⟨_, rfl⟩

/-- A beginning of the digits of a number that is not all of them does
not begin with a zero. -/
theorem ne_zero_of_cut {n : Nat} {c : CodePoint} {digits : Text}
    (hcut : c :: digits <+: Text.ofNat n) (hne : c :: digits ≠ Text.ofNat n) :
    c ≠ CodePoint.ofChar '0' := by
  rintro rfl
  obtain ⟨more, hmore⟩ := hcut
  have hzero : n = 0 := Text.eq_zero_of_head?_ofNat (by rw [← hmore]; rfl)
  rw [hzero, show Text.ofNat 0 = [CodePoint.ofChar '0'] from rfl, List.cons_append,
    List.cons.injEq, List.append_eq_nil_iff] at hmore
  rw [hzero, hmore.2.1] at hne
  exact hne rfl

/-- Behind a digit, and behind a sign in front of one, a number is
read. -/
theorem readWith_of_digit (inside : Container → Text → ReadResult Json) {c : CodePoint}
    (hc : c.isDigit = true) (s : Text) :
    readWith d inside (c :: s) = readUnsigned d (c :: s) false (c :: s)
      ∧ readWith d inside (CodePoint.ofChar '-' :: c :: s)
        = readUnsigned d (CodePoint.ofChar '-' :: c :: s) true (c :: s) := by
  have hmarks : c ≠ .quoteSign ∧ c ≠ CodePoint.ofChar '\x7b' ∧ c ≠ CodePoint.ofChar '['
      ∧ c ≠ CodePoint.ofChar '-' := by
    refine ⟨?_, ?_, ?_, ?_⟩ <;> rintro rfl <;> exact absurd hc (by decide)
  have hsign : CodePoint.ofChar '-' ≠ .quoteSign ∧ CodePoint.ofChar '-' ≠ CodePoint.ofChar '\x7b'
      ∧ CodePoint.ofChar '-' ≠ CodePoint.ofChar '[' := by decide
  have hword := find?_words_eq_none (s := c :: s) ⟨c, by simp, hc⟩
  have hword' := find?_words_eq_none (s := CodePoint.ofChar '-' :: c :: s) ⟨c, by simp, hc⟩
  constructor
  · simp only [readWith, hmarks, if_false, readPlain, hword]
  · simp only [readWith, hsign, if_false, readPlain, hword', if_true]

/-- A number that is cut off is malformed or a number: a sign alone is
nothing, and some of the digits are digits of another number. -/
theorem readWith_of_cut_int (inside : Container → Text → ReadResult Json) {n : Int} {cut : Text}
    (hlen : (Text.ofNat n.natAbs).length ≤ digitLimit) (hcut : cut <+: Text.ofInt n)
    (hne : cut ≠ Text.ofInt n) : CutShort (.int n) (readWith d inside cut) := by
  -- Some digits, but not all of them, behind a sign or not.
  have hnumber : ∀ (m : Nat) (c : CodePoint) (digits : Text), c :: digits <+: Text.ofNat m →
      c :: digits ≠ Text.ofNat m → (Text.ofNat m).length ≤ digitLimit → c.isDigit = true
        ∧ ∀ start negative, ∃ k, readUnsigned d start negative (c :: digits)
          = .ok (.int k, []) := by
    intro m c digits hcut hne hlen
    have hdigits : ∀ x ∈ c :: digits, x.isDigit = true :=
      fun x hx => Text.isDigit_of_mem_ofNat m x (hcut.subset hx)
    exact ⟨hdigits c List.mem_cons_self, fun start negative => readUnsigned_digits start negative
      hdigits (ne_zero_of_cut hcut hne) (Nat.le_trans hcut.length_le hlen)⟩
  cases n with
  | ofNat n =>
      cases cut with
      | nil => exact .inl ⟨_, _, rfl⟩
      | cons c digits =>
          obtain ⟨hc, hread⟩ := hnumber n c digits hcut hne hlen
          obtain ⟨k, hk⟩ := hread (c :: digits) false
          exact .inr ⟨_, k, rfl, (readWith_of_digit inside hc digits).1.trans hk⟩
  | negSucc n =>
      rcases List.prefix_cons_iff.mp hcut with rfl | ⟨cut, rfl, hdigits⟩
      · exact .inl ⟨_, _, rfl⟩
      cases cut with
      | nil => exact .inl ⟨_, _, rfl⟩
      | cons c digits =>
          obtain ⟨hc, hread⟩ := hnumber (n + 1) c digits hdigits
            (fun heq => hne (congrArg (CodePoint.ofChar '-' :: ·) heq)) hlen
          obtain ⟨k, hk⟩ := hread (CodePoint.ofChar '-' :: c :: digits) true
          exact .inr ⟨_, k, rfl, (readWith_of_digit inside hc digits).2.trans hk⟩

/-! ### Items and members -/

/-- Nothing is left of blanks that are skipped, if they are cut off in their
midst. -/
theorem skipSpace_of_cut {blanks cut : Text} (h : Blanks blanks) (hcut : cut <+: blanks) :
    skipSpace cut = [] := by
  have hblanks : Blanks cut := fun c hc => h c (hcut.subset hc)
  have hskip := skipSpace_append hblanks []
  rwa [List.append_nil] at hskip

/-- What begins a text that starts is not skipped, also if the text is cut
off behind it. -/
theorem Starts.skipSpace_cut {t s cut : Text} {c : CodePoint} (h : Starts t)
    (hcut : c :: cut <+: t ++ s) : skipSpace (c :: cut) = c :: cut := by
  obtain ⟨x, t, rfl, hx, -⟩ := h
  obtain ⟨rfl, -⟩ := List.cons_prefix_cons.mp hcut
  exact skipSpace_cons hx cut

/-- A reading that ends at a fault, or with nothing but blanks left. -/
def RunsOut (result : ReadResult Json) : Prop :=
  Faulty result ∨ ∃ value rest, result = .ok (value, rest) ∧ skipSpace rest = []

/-- A reading of a value that was cut off ends at a fault, or the text is
used up. -/
theorem CutShort.runsOut {j : Json} {result : ReadResult Json} (h : CutShort j result) :
    RunsOut result := by
  rcases h with hfaulty | ⟨_, m, -, hnumber⟩
  · exact .inl hfaulty
  · exact .inr ⟨.int m, [], hnumber, rfl⟩

/-- How the items of a container are read: each as it is written, and
none of them if it is cut off. -/
structure ItemPart.IsRead (readOne : Text → ReadResult Json) (p : ItemPart) : Prop where
  padded : p.IsPadded
  starts : Starts p.text
  whole : ∀ s, Ends s → readOne (p.text ++ s) = .ok (p.value, s)
  cut : ∀ cut, cut <+: p.text → cut ≠ p.text → CutShort p.value (readOne cut)

variable {readOne : Text → ReadResult Json}

/-- An item and what separates it from the next one, cut off: the reading
runs out with the item, or goes on behind a comma. The cases are where the
cut falls: in the blanks before the item, in the item, in the blanks behind
it, or behind the comma. -/
theorem ItemPart.IsRead.of_cut {p : ItemPart} (h : p.IsRead readOne) (pieces : List Text)
    {cut : Text} (hcut : cut <+: p.padded ++ Text.separated "," pieces) :
    RunsOut (readOne (skipSpace cut))
      ∨ ∃ piece more cut' rest, pieces = piece :: more
        ∧ cut' <+: piece ++ Text.separated "," more
        ∧ readOne (skipSpace cut) = .ok (p.value, rest)
        ∧ skipSpace rest = CodePoint.ofChar ',' :: cut' := by
  obtain ⟨⟨hbefore, hafter⟩, hstart, hwhole, hshort⟩ := h
  rw [ItemPart.padded, List.append_assoc, List.append_assoc] at hcut
  rcases cut_append hcut with hblank | ⟨c, cut', rfl, hitem⟩
  · -- The cut falls in the blanks before the item, so nothing is there of it.
    have hne : [] ≠ p.text := by
      obtain ⟨x, t, htext, -⟩ := hstart
      rw [htext]
      exact (List.cons_ne_nil x t).symm
    rw [skipSpace_of_cut hbefore hblank]
    exact .inl (hshort [] List.nil_prefix hne).runsOut
  rw [skipSpace_append hbefore, hstart.skipSpace_cut hitem]
  rcases cut_append hitem with htext | ⟨x, left, heq, hleft⟩
  · -- The cut falls in the item or right behind it.
    refine .inl ?_
    by_cases hall : c :: cut' = p.text
    · have hread := hwhole [] (by simp [Ends])
      rw [List.append_nil, ← hall] at hread
      exact .inr ⟨p.value, [], hread, rfl⟩
    · exact (hshort _ htext hall).runsOut
  rw [heq]
  rcases cut_append hleft with hblank | ⟨comma, next, heq', hnext⟩
  · -- The cut falls in the blanks behind the item.
    have hblanks : Blanks (x :: left) := fun y hy => hafter y (hblank.subset hy)
    have hends : Ends (x :: left) := by
      have hends := ends_append hblanks (s := []) (by simp [Ends])
      rwa [List.append_nil] at hends
    exact .inl (.inr ⟨p.value, x :: left, hwhole _ hends, skipSpace_of_cut hafter hblank⟩)
  cases pieces with
  | nil => exact absurd (List.prefix_nil.mp hnext) (List.cons_ne_nil _ _)
  | cons piece more =>
      -- The comma is there, and the cut falls in what stands behind it.
      have hsep : Text.separated "," (piece :: more)
          = CodePoint.ofChar ',' :: (piece ++ Text.separated "," more) := by
        simp only [Text.separated, List.flatMap_cons, List.append_assoc]
        rfl
      rw [hsep] at hnext
      obtain ⟨rfl, hpiece⟩ := List.cons_prefix_cons.mp hnext
      have hends : Ends (x :: left) := heq' ▸ ends_append hafter (ends_mark (by decide) next)
      refine .inr ⟨piece, more, next, x :: left, rfl, hpiece, hwhole _ hends, ?_⟩
      rw [heq', skipSpace_append hafter, skipSpace_cons (by decide)]

/-- An array is malformed where the reading of an item runs out: what is
missing is a comma, a bracket or the item. -/
theorem readItems_of_runsOut {s : Text} (h : RunsOut (readOne s)) (fuel : Nat)
    (read : List Json) : Faulty (readItems readOne (fuel + 1) read s) := by
  rw [readItems]
  rcases h with ⟨fault, left, hfaulty⟩ | ⟨value, rest, hone, hskip⟩
  · rw [hfaulty]
    exact ⟨fault, left, rfl⟩
  · simp only [hone, hskip]
    exact ⟨_, _, rfl⟩

/-- Items that are cut off anywhere are malformed as an array. Induction
on the items behind the first. -/
theorem readItems_of_cut (ps : List ItemPart) :
    ∀ p : ItemPart, (∀ q ∈ p :: ps, q.IsRead readOne) →
      ∀ (fuel : Nat) (read : List Json) (cut : Text),
        cut <+: p.padded ++ Text.separated "," (ps.map ItemPart.padded) →
        Faulty (readItems readOne fuel read (skipSpace cut)) := by
  induction ps with
  | nil =>
      intro p hread fuel read cut hcut
      cases fuel with
      | zero => exact ⟨_, _, rfl⟩
      | succ fuel =>
          rcases (hread p List.mem_cons_self).of_cut _ hcut with hout | ⟨_, _, _, _, hno, -⟩
          · exact readItems_of_runsOut hout fuel read
          · exact nomatch hno
  | cons q ps ih =>
      intro p hread fuel read cut hcut
      cases fuel with
      | zero => exact ⟨_, _, rfl⟩
      | succ fuel =>
          rcases (hread p List.mem_cons_self).of_cut _ hcut with
            hout | ⟨_, _, next, rest, hpieces, hnext, hone, hskip⟩
          · exact readItems_of_runsOut hout fuel read
          · -- The first item is there with its comma, and the cut falls behind it.
            obtain ⟨rfl, rfl⟩ := List.cons.inj hpieces
            have hcomma : CodePoint.ofChar ',' ≠ CodePoint.ofChar ']' := by decide
            have htail := ih q (fun x hx => hread x (List.mem_cons_of_mem _ hx)) fuel
              (p.value :: read) next hnext
            simp only [readItems, hone, hskip, hcomma, if_false, if_true]
            exact htail

/-- How the members of an object are read. -/
structure MemberPart.IsRead (d : Dialect) (readOne : Text → ReadResult Json) (p : MemberPart) :
    Prop where
  padded : p.IsPadded
  key : LegibleText d p.key
  item : p.item.IsRead readOne

/-- A member and what separates it from the next one, cut off: the reading
is malformed, or goes on behind a comma. Up to the colon there is nothing of
a value to read; from there on the member is cut off like an item. -/
theorem MemberPart.IsRead.of_cut {p : MemberPart} (h : p.IsRead d readOne) (pieces : List Text)
    {cut : Text} (hcut : cut <+: p.padded ++ Text.separated "," pieces) (fuel : Nat)
    (read : Members) :
    Faulty (readMembers d readOne (fuel + 1) read (skipSpace cut))
      ∨ ∃ piece more next, pieces = piece :: more
        ∧ next <+: piece ++ Text.separated "," more
        ∧ readMembers d readOne (fuel + 1) read (skipSpace cut)
          = readMembers d readOne fuel (p.member :: read) (skipSpace next) := by
  obtain ⟨⟨hbefore, hafter, -, hspelled⟩, hkey, hitem⟩ := h
  have hsplit : p.padded ++ Text.separated "," pieces
      = p.before ++ (.quoteSign :: (p.keyText ++ .quoteSign :: (p.after ++ CodePoint.ofChar ':'
        :: (p.item.padded ++ Text.separated "," pieces)))) := by
    simp only [MemberPart.padded, quotedText, List.append_assoc, List.cons_append,
      List.nil_append]
  rw [hsplit] at hcut
  -- A cut in front of the value leaves no member to read.
  rcases cut_append hcut with hblank | ⟨mark, cut', rfl, hquoted⟩
  · rw [skipSpace_of_cut hbefore hblank]
    exact .inl ⟨_, _, rfl⟩
  obtain ⟨rfl, hname⟩ := List.cons_prefix_cons.mp hquoted
  rw [skipSpace_append hbefore, skipSpace_cons (by decide)]
  rcases cut_append hname with htorn | ⟨mark, cut'', rfl, hclosed⟩
  · -- The cut falls in the name.
    obtain ⟨fault, left, hfaulty⟩ := readString_of_cut hspelled hkey htorn
    simp only [readMembers, ne_eq, not_true_eq_false, if_false, hfaulty]
    exact .inl ⟨_, _, rfl⟩
  obtain ⟨rfl, hcolon⟩ := List.cons_prefix_cons.mp hclosed
  simp only [readMembers, ne_eq, not_true_eq_false, if_false, readString_append hspelled hkey]
  rcases cut_append hcolon with hblank | ⟨mark, cut, rfl, hvalue⟩
  · rw [skipSpace_of_cut hafter hblank]
    exact .inl ⟨_, _, rfl⟩
  obtain ⟨rfl, hpadded⟩ := List.cons_prefix_cons.mp hvalue
  rw [skipSpace_append hafter, skipSpace_cons (by decide)]
  simp only [not_true_eq_false, if_false]
  -- From here on the member is cut off like an item.
  rcases hitem.of_cut pieces hpadded with
    hout | ⟨piece, more, next, rest, hpieces, hnext, hone, hskip⟩
  · rcases hout with ⟨fault, left, hfaulty⟩ | ⟨value, rest, hone, hskip⟩
    · rw [hfaulty]
      exact .inl ⟨_, _, rfl⟩
    · simp only [hone, hskip]
      exact .inl ⟨_, _, rfl⟩
  · refine .inr ⟨piece, more, next, hpieces, hnext, ?_⟩
    have hcomma : CodePoint.ofChar ',' ≠ CodePoint.ofChar '\x7d' := by decide
    simp only [hone, hskip, hcomma, if_false, if_true]
    rfl

/-- Members that are cut off anywhere are malformed as an object.
Induction on the members behind the first. -/
theorem readMembers_of_cut (ps : List MemberPart) :
    ∀ p : MemberPart, (∀ q ∈ p :: ps, q.IsRead d readOne) →
      ∀ (fuel : Nat) (read : Members) (cut : Text),
        cut <+: p.padded ++ Text.separated "," (ps.map MemberPart.padded) →
        Faulty (readMembers d readOne fuel read (skipSpace cut)) := by
  induction ps with
  | nil =>
      intro p hread fuel read cut hcut
      cases fuel with
      | zero => exact ⟨_, _, rfl⟩
      | succ fuel =>
          rcases (hread p List.mem_cons_self).of_cut _ hcut fuel read with
            hfaulty | ⟨_, _, _, hno, -⟩
          · exact hfaulty
          · exact nomatch hno
  | cons q ps ih =>
      intro p hread fuel read cut hcut
      cases fuel with
      | zero => exact ⟨_, _, rfl⟩
      | succ fuel =>
          rcases (hread p List.mem_cons_self).of_cut _ hcut fuel read with
            hfaulty | ⟨_, _, next, hpieces, hnext, hmore⟩
          · exact hfaulty
          · obtain ⟨rfl, rfl⟩ := List.cons.inj hpieces
            rw [hmore]
            exact ih q (fun x hx => hread x (List.mem_cons_of_mem _ hx)) fuel _ next hnext

/-! ### Values -/

/-- Of a container that is cut off, the content is read: there is no
closing mark in front of it. -/
theorem readContainer_of_cut {content : Container → Text → ReadResult Json} {container : Container}
    {blanks t s cut : Text} (hblanks : Blanks blanks) (hstart : Starts t)
    (hcut : cut <+: blanks ++ (t ++ s)) :
    readContainer content container cut = content container (skipSpace cut) := by
  rcases cut_append hcut with hblank | ⟨c, cut', rfl, hstarted⟩
  · rw [readContainer, skipSpace_of_cut hblanks hblank]
  · rw [readContainer, skipSpace_append hblanks, hstart.skipSpace_cut hstarted]
    obtain ⟨x, t, rfl, -, hclosing⟩ := hstart
    obtain ⟨rfl, -⟩ := List.cons_prefix_cons.mp hstarted
    exact if_neg (hclosing container)

/-- Content that is nothing is malformed. -/
theorem readContent_nil (d : Dialect) (readOne : Text → ReadResult Json) (container : Container) :
    Faulty (readContent d readOne container []) := by
  cases container <;> exact ⟨_, _, rfl⟩

/-- An empty container that is cut off is malformed. Where its closing mark
should be, the text is at its end. -/
theorem readContainer_of_cut_blanks (container : Container) {blanks cut : Text}
    (hblanks : Blanks blanks) (hcut : cut <+: blanks) :
    Faulty (readContainer (readContent d readOne) container cut) := by
  rw [readContainer, skipSpace_of_cut hblanks hcut]
  exact readContent_nil d readOne container

/-- An array with items that is cut off is malformed, wherever the cut falls
in it. -/
theorem readContainer_of_cut_array {parts : List ItemPart} (hne : parts ≠ [])
    (hread : ∀ p ∈ parts, p.IsRead readOne) {cut : Text}
    (hcut : cut <+: Text.joinWith "," (parts.map ItemPart.padded)) :
    Faulty (readContainer (readContent d readOne) .array cut) := by
  obtain ⟨p, ps, rfl⟩ := List.exists_cons_of_ne_nil hne
  obtain ⟨hpad, hstart, -, -⟩ := hread p List.mem_cons_self
  rw [List.map_cons, Text.joinWith_cons] at hcut
  have hitems := fun fuel read => readItems_of_cut ps p hread fuel read cut hcut
  -- The fuel is that of the text which is left, whatever that may be.
  rw [ItemPart.padded, List.append_assoc, List.append_assoc] at hcut
  rw [readContainer_of_cut hpad.1 hstart hcut]
  cases hskip : skipSpace cut with
  | nil => exact readContent_nil d readOne .array
  | cons c s =>
      rw [hskip] at hitems
      exact hitems ((c :: s).length + 1) []

/-- An object with members that is cut off is malformed. Unlike in an array,
the cut may fall in a key or around the colon. -/
theorem readContainer_of_cut_object {parts : List MemberPart} (hne : parts ≠ [])
    (hread : ∀ p ∈ parts, p.IsRead d readOne) {cut : Text}
    (hcut : cut <+: Text.joinWith "," (parts.map MemberPart.padded)) :
    Faulty (readContainer (readContent d readOne) .object cut) := by
  obtain ⟨p, ps, rfl⟩ := List.exists_cons_of_ne_nil hne
  obtain ⟨hpad, -, -⟩ := hread p List.mem_cons_self
  have hquote : Starts [.quoteSign] :=
    ⟨_, _, rfl, by decide, fun container => by cases container <;> decide⟩
  rw [List.map_cons, Text.joinWith_cons] at hcut
  have hmembers := fun fuel read => readMembers_of_cut ps p hread fuel read cut hcut
  have hquoted : cut <+: p.before ++ ([.quoteSign] ++ (p.keyText ++ ([.quoteSign] ++ (p.after
      ++ CodePoint.ofChar ':' :: (p.item.padded
        ++ Text.separated "," (ps.map MemberPart.padded)))))) := by
    simpa only [MemberPart.padded, quotedText, List.append_assoc, List.cons_append,
      List.nil_append] using hcut
  rw [readContainer_of_cut hpad.1 hquote hquoted]
  cases hskip : skipSpace cut with
  | nil => exact readContent_nil d readOne .object
  | cons c s =>
      rw [hskip] at hmembers
      exact hmembers ((c :: s).length + 1) []

/-- A value that is no container, cut off: a word and a string are malformed
then, and a number may be a shorter one. -/
theorem readWith_of_cut_scalar (inside : Container → Text → ReadResult Json) {j : Json}
    (hj : Legible d 0 j) {t cut : Text} (h : Spells j t) (hcut : cut <+: t) (hne : cut ≠ t) :
    CutShort j (readWith d inside cut) := by
  cases h with
  | null => exact .inl (readWith_of_cut_word inside (by decide) hcut hne)
  | bool b => cases b <;> exact .inl (readWith_of_cut_word inside (by decide) hcut hne)
  | int n => exact readWith_of_cut_int inside hj hcut hne
  | @str u s hs =>
      refine .inl ?_
      rcases List.prefix_cons_iff.mp hcut with rfl | ⟨cut', rfl, hcut'⟩
      · exact ⟨_, _, rfl⟩
      rcases List.prefix_concat_iff.mp hcut' with rfl | hinside
      · exact absurd rfl hne
      obtain ⟨fault, left, hfaulty⟩ := readString_of_cut hs hj hinside
      simp only [readWith, if_true, hfaulty]
      exact ⟨_, _, rfl⟩
  | emptyArr => exact hj.elim
  | arr => exact hj.elim
  | emptyObj => exact hj.elim
  | obj => exact hj.elim

/-- A text between the marks of a container, cut off: nothing is there
of it, or its opening mark and a beginning of what stands inside. -/
theorem cut_container {opening closing : CodePoint} {inside cut : Text}
    (hcut : cut <+: opening :: inside ++ [closing]) (hne : cut ≠ opening :: inside ++ [closing]) :
    cut = [] ∨ ∃ cut', cut = opening :: cut' ∧ cut' <+: inside := by
  rcases List.prefix_cons_iff.mp hcut with rfl | ⟨cut', rfl, hcut'⟩
  · exact .inl rfl
  · rcases List.prefix_concat_iff.mp hcut' with rfl | hinside
    · exact absurd rfl hne
    · exact .inr ⟨cut', rfl, hinside⟩

/-- **What is cut off is not read.** A text of a legible value that is
cut off is malformed, unless the value is a number and a number is left.
Induction on how deep containers may nest. -/
theorem readValue_of_cut {depth : Nat} {j : Json} (hj : Legible d depth j) {t cut : Text}
    (h : Spells j t) (hcut : cut <+: t) (hne : cut ≠ t) :
    CutShort j (readValue d depth cut) := by
  induction depth generalizing j t cut with
  | zero => exact readWith_of_cut_scalar _ hj h hcut hne
  | succ depth ih =>
      cases h with
      | null =>
          have hscalar : Legible d 0 .null := trivial
          exact readWith_of_cut_scalar _ hscalar .null hcut hne
      | bool b =>
          have hscalar : Legible d 0 (.bool b) := trivial
          exact readWith_of_cut_scalar _ hscalar (.bool b) hcut hne
      | int n =>
          have hscalar : Legible d 0 (.int n) := hj
          exact readWith_of_cut_scalar _ hscalar (.int n) hcut hne
      | @str u _ hs =>
          have hscalar : Legible d 0 (.str u) := hj
          exact readWith_of_cut_scalar _ hscalar (.str hs) hcut hne
      | emptyArr hs =>
          refine .inl ?_
          rcases cut_container hcut hne with rfl | ⟨cut, rfl, hinside⟩
          · exact ⟨_, _, rfl⟩
          · exact readContainer_of_cut_blanks .array hs hinside
      | arr hparts hpad hitems =>
          refine .inl ?_
          rcases cut_container hcut hne with rfl | ⟨cut, rfl, hinside⟩
          · exact ⟨_, _, rfl⟩
          refine readContainer_of_cut_array hparts (fun p hp => ?_) hinside
          -- An item is read by the level below, whole or cut off.
          have hvalue := hj p.value (List.mem_map.mpr ⟨p, hp, rfl⟩)
          exact ⟨hpad p hp, (hitems p hp).starts,
            fun s hs => readValue_append hvalue (hitems p hp) (hs.follows _),
            fun cut hcut hne => ih hvalue (hitems p hp) hcut hne⟩
      | emptyObj hs =>
          refine .inl ?_
          rcases cut_container hcut hne with rfl | ⟨cut, rfl, hinside⟩
          · exact ⟨_, _, rfl⟩
          · exact readContainer_of_cut_blanks .object hs hinside
      | obj hparts hpad hvalues =>
          refine .inl ?_
          obtain ⟨-, hmembers⟩ := hj
          rcases cut_container hcut hne with rfl | ⟨cut, rfl, hinside⟩
          · exact ⟨_, _, rfl⟩
          refine readContainer_of_cut_object hparts (fun p hp => ?_) hinside
          obtain ⟨hkey, hvalue⟩ := hmembers p.member (List.mem_map.mpr ⟨p, hp, rfl⟩)
          refine ⟨hpad p hp, hkey, (hpad p hp).2.2.1, (hvalues p hp).starts, ?_, ?_⟩
          · exact fun s hs => readValue_append hvalue (hvalues p hp) (hs.follows _)
          · exact fun cut hcut hne => ih hvalue (hvalues p hp) hcut hne

end DocScribe.Json
