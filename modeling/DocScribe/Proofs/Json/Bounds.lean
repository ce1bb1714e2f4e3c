import DocScribe.Proofs.Json.Objects
import DocScribe.Proofs.Json.Strings
import Mathlib.Data.List.TakeWhile

/-!
# `DocScribe.Proofs.Json.Bounds`: what a value that was read is like

A value that was read nests no deeper than the reader goes, its integers
have no more digits than an integer may have, and no object in it has a
key twice (`fits_of_readValue`). So it can be written again, whatever the
dialect (`isWritable_of_readValue`). In contrast to `Legible`, doubles are
values like the others and nothing is asked of the strings.

Of a text without surrogates no string is read in which the first half of
a surrogate pair stands directly in front of a second half
(`unpaired_of_readValue`): halves can only come from escapes then, and the
reader joins two of them.
-/

set_option autoImplicit false

namespace DocScribe.Json

variable {d : Dialect}

/-! ### Nesting, digits and keys -/

/-- A value with containers nested at most `depth` deep, no integer that
is too long and no key twice. -/
def Fits : Nat → Json → Prop
  | _, .null => True
  | _, .bool _ => True
  | _, .int n => (Text.ofNat n.natAbs).length ≤ digitLimit
  | _, .float _ => True
  | _, .str _ => True
  | 0, .arr _ => False
  | 0, .obj _ => False
  | depth + 1, .arr items => ∀ item ∈ items, Fits depth item
  | depth + 1, .obj members =>
    (members.map Prod.fst).Nodup ∧ ∀ m ∈ members, Fits depth m.2

/-- A value fits if it may nest deeper than it does: the bound is on what
may be inside, and a looser one is kept too. Induction on the depth. -/
theorem Fits.succ {depth : Nat} {j : Json} (h : Fits depth j) : Fits (depth + 1) j := by
  induction depth generalizing j with
  | zero =>
      cases j with
      | arr items => exact h.elim
      | obj members => exact h.elim
      | _ => exact h
  | succ depth ih =>
      cases j with
      | arr items => exact fun item hitem => ih (h item hitem)
      | obj members => exact ⟨h.1, fun m hm => ih (h.2 m hm)⟩
      | _ => exact h

/-- A value that holds no others fits in on any level. The one bound that is
left for it is the length of an integer. -/
theorem fits_of_isBare {j : Json} (h : j.isBare = true)
    (hint : ∀ n, j = .int n → (Text.ofNat n.natAbs).length ≤ digitLimit) (depth : Nat) :
    Fits depth j := by
  cases j with
  | int n => cases depth <;> exact hint n rfl
  | str t => exact nomatch h
  | arr items => exact nomatch h
  | obj members => exact nomatch h
  | _ => cases depth <;> exact trivial

/-- A number is no longer than its digits are many. It may be shorter,
because of zeros in front. -/
theorem length_ofNat_digitsValue_le {t : Text} (hne : t ≠ []) (ht : ∀ c ∈ t, c.isDigit = true) :
    (Text.ofNat (Text.digitsValue t)).length ≤ t.length := by
  rw [Text.ofNat, List.length_map]
  exact (Nat.length_toDigits_le_iff (by decide) (List.length_pos_iff.mpr hne)).mpr
    (Text.digitsValue_lt ht)

/-- The whole part of a number is made of digits, one of them at least. It
is a single zero, or it begins with another digit and goes on as long as
there are any. -/
theorem digits_of_readWhole? {s whole rest : Text} (h : readWhole? s = some (whole, rest)) :
    whole ≠ [] ∧ ∀ c ∈ whole, c.isDigit = true := by
  cases s with
  | nil => cases h
  | cons c s =>
      rw [readWhole?] at h
      split at h
      · next hzero =>
        obtain ⟨rfl, -⟩ := Prod.mk.inj (Option.some.inj h)
        refine ⟨List.cons_ne_nil _ _, fun x hx => ?_⟩
        rw [List.mem_singleton.mp hx, hzero]
        decide
      split at h
      · next hdigit =>
        obtain ⟨rfl, -⟩ := Prod.mk.inj (Option.some.inj h)
        refine ⟨?_, fun x hx => List.mem_takeWhile_imp hx⟩
        rw [List.takeWhile_cons_of_pos hdigit]
        exact List.cons_ne_nil _ _
      · cases h

/-- An integer that was read is not too long: what is too long is refused
before its value is looked at. A zero at the front ends the number, so the
digits of the value are those that were read. -/
theorem length_of_readUnsigned {start s rest : Text} {negative : Bool} {n : Int}
    (h : readUnsigned d start negative s = .ok (.int n, rest)) :
    (Text.ofNat n.natAbs).length ≤ digitLimit := by
  rw [readUnsigned.eq_def] at h
  split at h
  · cases h
  next whole behind hwhole =>
  obtain ⟨hne, hdigits⟩ := digits_of_readWhole? hwhole
  dsimp only at h
  split at h
  · cases h
  next hshort =>
  split at h
  · next hinteger =>
    rw [hinteger] at hshort
    have hlen : whole.length ≤ digitLimit := by
      simpa only [isTooLong, Bool.or_true, Bool.true_and, decide_eq_true_eq, Nat.not_lt]
        using hshort
    -- The sign adds nothing to the digits.
    have hn : n.natAbs = Text.digitsValue whole := by
      rw [← Json.int.inj (Prod.mk.inj (Except.ok.inj h)).1]
      split
      · rw [Int.natAbs_neg, Int.natAbs_natCast]
      · rw [Int.natAbs_natCast]
    rw [hn]
    exact (length_ofNat_digitsValue_le hne hdigits).trans hlen
  · cases (Prod.mk.inj (Except.ok.inj h)).1

/-- Numbers and words nest nothing, so they fit whatever depth is left. This
is where the bound on integers comes from; the bound on nesting comes from
the containers. -/
theorem fits_of_readPlain {s rest : Text} {value : Json}
    (h : readPlain d s = .ok (value, rest)) (depth : Nat) : Fits depth value := by
  refine fits_of_isBare (isBare_of_readPlain h) (fun n hn => ?_) depth
  have hwords : ∀ w ∈ words, ∀ n, w.2 ≠ .int n := by
    intro w hw n hn
    simp only [words, List.mem_cons, List.not_mem_nil, or_false] at hw
    rcases hw with rfl | rfl | rfl | rfl | rfl | rfl <;> cases hn
  rw [readPlain.eq_def] at h
  split at h
  · next w hw =>
    have hvalue := (Prod.mk.inj (Except.ok.inj h)).1
    exact absurd (hvalue.trans hn) (hwords w (List.mem_of_find?_eq_some hw) n)
  · split at h
    · split at h
      · exact length_of_readUnsigned (hn ▸ h)
      · exact length_of_readUnsigned (hn ▸ h)
    · cases h

/-- The bounds are kept to all through the reader, so whatever was read
fits. They hold of dialects that count empty containers as well. -/
theorem tracks_fits (hd : d.countsEmpty = true) :
    Tracks d (fun _ => True) (fun _ => True) Fits where
  ends _ _ := trivial
  string _ _ := trivial
  str {depth _} _ := by cases depth <;> exact trivial
  plain {depth _ _ _} h := fits_of_readPlain h depth
  arr h := h
  obj {depth written} h := by
    refine ⟨nodup_keys_ofMembers written, fun m hm => ?_⟩
    exact (forall_ofMembers (P := fun _ => True) (Q := Fits depth) h m hm).2
  beyond hcounts := absurd hd (by simp [hcounts])

/-- What was read keeps to the bounds of the reader. -/
theorem fits_of_readValue (hd : d.countsEmpty = true) {depth : Nat} {s rest : Text} {value : Json}
    (h : readValue d depth s = .ok (value, rest)) : Fits depth value :=
  ((tracks_fits hd).readValue depth trivial h).1

/-- A value within the bounds can be written: the bound on the digits of
an integer is the same where it is written. -/
theorem Fits.isWritable {depth : Nat} {j : Json} (h : Fits depth j) : j.isWritable = true := by
  induction depth generalizing j with
  | zero =>
      cases j with
      | int n => exact decide_eq_true h
      | arr items => exact h.elim
      | obj members => exact h.elim
      | _ => rfl
  | succ depth ih =>
      cases j with
      | int n => exact decide_eq_true h
      | arr items => exact isWritable_arr.mpr fun item hitem => ih (h item hitem)
      | obj members => exact isWritable_obj.mpr fun m hm => ih (h.2 m hm)
      | _ => rfl

/-- That values can be written is kept up all through the reader, in
every dialect. -/
theorem tracks_isWritable (d : Dialect) :
    Tracks d (fun _ => True) (fun _ => True) fun _ value => value.isWritable = true where
  ends _ _ := trivial
  string _ _ := trivial
  str _ := rfl
  plain h := (fits_of_readPlain h 0).isWritable
  arr := isWritable_arr.mpr
  obj {_ written} h := isWritable_obj.mpr fun m hm =>
    (forall_ofMembers (P := fun _ => True) (Q := fun value => value.isWritable = true) h m hm).2
  beyond _ container := by cases container <;> rfl

/-- What was read can be written. -/
theorem isWritable_of_readValue {depth : Nat} {s rest : Text} {value : Json}
    (h : readValue d depth s = .ok (value, rest)) : value.isWritable = true :=
  ((tracks_isWritable d).readValue depth trivial h).1

/-! ### Halves of surrogate pairs -/

/-- Both halves of a pair are joined to a code point beyond the surrogates,
whichever halves they are. -/
theorem not_isSurrogate_joinSurrogates {high low : CodePoint} (hhigh : high.isHighSurrogate = true)
    (hlow : low.isLowSurrogate = true) : (joinSurrogates high low).isSurrogate = false := by
  simp only [CodePoint.isHighSurrogate, CodePoint.isLowSurrogate, Bool.and_eq_true,
    decide_eq_true_eq] at hhigh hlow
  have hval : (joinSurrogates high low).val
      = 0x10000 + (high.val - 0xD800) * 0x400 + (low.val - 0xDC00) :=
    CodePoint.val_ofNatD (by omega)
  simp only [CodePoint.isSurrogate, hval, Bool.and_eq_false_iff, decide_eq_false_iff_not]
  omega

/-- No escape of one letter stands for a surrogate. There are eight of them,
and all stand for ASCII. -/
theorem not_isSurrogate_of_shortEscape?_eq {e c : CodePoint} (h : shortEscape? e = some c) :
    c.isSurrogate = false := by
  rw [shortEscape?] at h
  split at h
  · next hmark =>
    obtain rfl := Option.some.inj h
    rcases hmark with rfl | rfl | rfl <;> decide
  iterate 5
    split at h
    · exact Option.some.inj h ▸ by decide
  cases h

/-- What is no half of a pair is neither a first nor a second one. The two
kinds together are all surrogates. -/
theorem halves_of_not_isSurrogate {c : CodePoint} (h : c.isSurrogate = false) :
    c.isHighSurrogate = false ∧ c.isLowSurrogate = false := by
  simp only [CodePoint.isSurrogate, CodePoint.isHighSurrogate, CodePoint.isLowSurrogate,
    Bool.and_eq_false_iff, decide_eq_false_iff_not] at h ⊢
  omega

/-- The second half of an escaped pair is a low surrogate. Any other escape
is left where it is, to be read by itself. -/
theorem isLowSurrogate_of_lowEscape? {s rest : Text} {low : CodePoint}
    (h : lowEscape? s = some (low, rest)) : low.isLowSurrogate = true := by
  rw [lowEscape?.eq_def] at h
  split at h
  · split at h
    · split at h
      · split at h
        · next hlow => exact (Prod.mk.inj (Option.some.inj h)).1 ▸ hlow
        · cases h
      · cases h
    · cases h
  · cases h

/-- Four digits that stand for a half of a pair: for a first half if no
escape for a second half comes behind them, for a second half if they do
not make such an escape themselves. -/
theorem halves_of_pairedUnit {unit c : CodePoint} {behind rest : Text}
    (h : pairedUnit unit behind = (c, rest)) :
    (c.isHighSurrogate = true → lowEscape? rest = none)
      ∧ (unit.isLowSurrogate = false → c.isLowSurrogate = false) := by
  rw [pairedUnit] at h
  split at h
  · next hhigh =>
    split at h
    · next low rest' hlow =>
      obtain ⟨rfl, -⟩ := Prod.mk.inj h
      -- Both halves together are one code point, and no half any more.
      have hjoined := halves_of_not_isSurrogate
        (not_isSurrogate_joinSurrogates hhigh (isLowSurrogate_of_lowEscape? hlow))
      exact ⟨fun hc => absurd hc (by simp [hjoined.1]), fun _ => hjoined.2⟩
    · next hnone =>
      obtain ⟨rfl, rfl⟩ := Prod.mk.inj h
      exact ⟨fun _ => hnone, fun hlow => hlow⟩
  · next hhigh =>
    obtain ⟨rfl, rfl⟩ := Prod.mk.inj h
    exact ⟨fun hc => absurd hc hhigh, fun hlow => hlow⟩

/-- Where an escape gives a first half, no escape for a second half comes
behind it. Where it gives a second half, it is an escape for one. -/
theorem halves_of_readEscape {opening s rest : Text} {c : CodePoint}
    (h : readEscape d opening s = .ok (c, rest)) :
    (c.isHighSurrogate = true → lowEscape? rest = none)
      ∧ (lowEscape? (.backslash :: s) = none → c.isLowSurrogate = false) := by
  rw [readEscape.eq_def] at h
  split at h
  · cases h
  next letter s =>
  split at h
  · next hletter =>
    split at h
    · cases h
    next unit behind hquad =>
    dsimp only at h
    split at h
    · cases h
    obtain ⟨hfirst, hsecond⟩ := halves_of_pairedUnit (Except.ok.inj h)
    refine ⟨hfirst, fun hnone => hsecond ?_⟩
    -- An escape by number is looked at as one for a second half.
    simp only [lowEscape?, hletter, and_self, if_true, hquad] at hnone
    split at hnone
    · cases hnone
    · next hlow => exact Bool.eq_false_iff.mpr hlow
  · split at h
    · next hletter =>
      obtain ⟨rfl, rfl⟩ := Prod.mk.inj (Except.ok.inj h)
      have hno := halves_of_not_isSurrogate (not_isSurrogate_of_shortEscape?_eq hletter)
      exact ⟨fun hc => absurd hc (by simp [hno.1]), fun _ => hno.2⟩
    · cases h

/-- What is read of a string in a text without surrogates. Induction on
the fuel; a second half comes first only if its escape does. -/
theorem unpaired_of_readStringFrom {opening : Text} (fuel : Nat) {read s t rest : Text}
    (hs : IsWhole s) (h : readStringFrom d opening fuel read s = .ok (t, rest)) :
    ∃ u, t = read.reverse ++ u ∧ Unpaired u
      ∧ (lowEscape? s = none → ∀ c ∈ u.head?, c.isLowSurrogate = false) := by
  induction fuel generalizing read s with
  | zero => cases h
  | succ fuel ih =>
      cases s with
      | nil => cases h
      | cons c s =>
          rw [isWhole_cons_iff] at hs
          rw [readStringFrom] at h
          split at h
          · obtain ⟨rfl, -⟩ := Prod.mk.inj (Except.ok.inj h)
            exact ⟨[], by simp, trivial, by simp⟩
          split at h
          · next hslash =>
            split at h
            · cases h
            next unit behind hescape =>
            -- A first half is left alone only where no escape for a second half follows.
            obtain ⟨hfirst, hsecond⟩ := halves_of_readEscape hescape
            obtain ⟨u, rfl, hu, hhead⟩ :=
              ih (isWhole_of_subset (readEscape_suffix hescape).subset hs.2) h
            refine ⟨unit :: u, by simp, ⟨fun hhigh => hhead (hfirst hhigh), hu⟩, fun hnone => ?_⟩
            rw [hslash] at hnone
            intro x hx
            obtain rfl := Option.some.inj hx
            exact hsecond hnone
          split at h
          · cases h
          · -- A code point that stands for itself is no half.
            obtain ⟨u, rfl, hu, -⟩ := ih hs.2 h
            have hno := halves_of_not_isSurrogate hs.1
            refine ⟨c :: u, by simp, ⟨fun hhigh => absurd hhigh (by simp [hno.1]), hu⟩, fun _ => ?_⟩
            intro x hx
            obtain rfl := Option.some.inj hx
            exact hno.2

/-- Words and numbers hold no strings, so nothing about strings has to be
known of them. -/
theorem strings_of_readPlain {s rest : Text} {value : Json}
    (h : readPlain d s = .ok (value, rest)) : value.strings = [] := by
  have hbare := isBare_of_readPlain h
  cases value with
  | str t => exact nomatch hbare
  | arr items => exact nomatch hbare
  | obj members => exact nomatch hbare
  | _ => rfl

/-- No halves of pairs meet in what is read of a text without
surrogates. -/
theorem tracks_unpaired (d : Dialect) :
    Tracks d IsWhole Unpaired fun _ value => ∀ t ∈ value.strings, Unpaired t where
  ends hs hrest := isWhole_of_subset hrest.subset hs
  string hs h := by
    obtain ⟨u, rfl, hu, -⟩ := unpaired_of_readStringFrom _ hs h
    exact hu
  str := forall_strings_str.mpr
  plain h := by
    rw [strings_of_readPlain h]
    exact List.forall_mem_nil _
  arr := forall_strings_arr.mpr
  obj h := forall_strings_obj.mpr
    (forall_ofMembers (Q := fun value => ∀ t ∈ value.strings, Unpaired t) h)
  beyond _ container := by cases container <;> exact List.forall_mem_nil _

/-- The strings of a value that was read from a whole text hold no pair of
surrogates in halves: two halves that meet in an escape are read as the code
point that they stand for. -/
theorem unpaired_of_readValue {depth : Nat} {s rest : Text} {value : Json} (hs : IsWhole s)
    (h : readValue d depth s = .ok (value, rest)) : ∀ t ∈ value.strings, Unpaired t :=
  ((tracks_unpaired d).readValue depth hs h).1

end DocScribe.Json
