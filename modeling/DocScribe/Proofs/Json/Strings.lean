import DocScribe.Proofs.Json.Wholeness
import DocScribe.Proofs.Json.Writing
import DocScribe.Proofs.Text.Trimming

/-!
# `DocScribe.Proofs.Json.Strings`: surrogates in what is written

The only part of a value that a surrogate can hide in is a string, be it a
key or a value (`Json.strings`). So the text of a value has a surrogate
exactly if one of its strings has and the style writes strings as they are
(`isWhole_writeAt_iff`): a style that escapes everything beyond ASCII never
writes one.

In contrast to `Spells.isWhole`, nothing is asked of the value: it need not
be legible to anybody.
-/

set_option autoImplicit false

namespace DocScribe.Json

/-! ### Texts -/

/-- A text is whole if both parts of it are. -/
theorem isWhole_append_iff {s t : Text} : IsWhole (s ++ t) ↔ IsWhole s ∧ IsWhole t :=
  List.forall_mem_append

/-- The first code point and the rest. -/
theorem isWhole_cons_iff {c : CodePoint} {t : Text} :
    IsWhole (c :: t) ↔ c.isSurrogate = false ∧ IsWhole t :=
  List.forall_mem_cons

/-- A text that is put together of many is whole if all of them are, and
only then. There is nothing between them that could spoil it. -/
theorem isWhole_flatMap_iff {α : Type} {f : α → Text} {as : List α} :
    IsWhole (as.flatMap f) ↔ ∀ a ∈ as, IsWhole (f a) := by
  constructor
  · intro h a ha c hc
    exact h c (List.mem_flatMap.mpr ⟨a, ha, hc⟩)
  · intro h c hc
    obtain ⟨a, ha, hc⟩ := List.mem_flatMap.mp hc
    exact h a ha c hc

/-- Texts that are joined by something whole are whole together if each of
them is, however many separators come between. -/
theorem isWhole_joinWith_iff {sep : Text} (hsep : IsWhole sep) {pieces : List Text} :
    IsWhole (Text.joinWith sep pieces) ↔ ∀ piece ∈ pieces, IsWhole piece := by
  cases pieces with
  | nil => simp [Text.joinWith, isWhole_nil]
  | cons piece pieces =>
      rw [Text.joinWith_cons, isWhole_append_iff, Text.separated, isWhole_flatMap_iff,
        List.forall_mem_cons]
      refine and_congr_right fun _ => forall₂_congr fun next _ => ?_
      rw [isWhole_append_iff, and_iff_right hsep]

/-- A text between two others without surrogates. -/
theorem isWhole_between_iff {before after : Text} (hbefore : IsWhole before)
    (hafter : IsWhole after) {t : Text} : IsWhole (before ++ t ++ after) ↔ IsWhole t := by
  rw [isWhole_append_iff, isWhole_append_iff, and_iff_right hbefore, and_iff_left hafter]

/-- One code point again and again, which is whole if this one is no
surrogate. -/
theorem isWhole_replicate {c : CodePoint} (hc : c.isSurrogate = false) (n : Nat) :
    IsWhole (List.replicate n c) := by
  intro d hd
  rw [(List.mem_replicate.mp hd).2]
  exact hc

/-- What is taken from a text has no surrogates that the text has not. -/
theorem isWhole_of_subset {s t : Text} (h : s ⊆ t) (ht : IsWhole t) : IsWhole s :=
  fun c hc => ht c (h hc)

/-- A surrogate is no blank, so it stays where blanks are dropped, and
nothing else could bring one in. -/
theorem isWhole_trimEnd_iff {t : Text} : IsWhole t.trimEnd ↔ IsWhole t := by
  refine ⟨fun h c hc => ?_, isWhole_of_subset (Text.dropEndWhile_isPrefix _ t).subset⟩
  cases hblank : c.isBlank with
  | false => exact h c (Text.mem_dropEndWhile hc hblank)
  | true =>
      simp only [CodePoint.isBlank, CodePoint.isWhiteSpace, Bool.or_eq_true, Bool.and_eq_true,
        decide_eq_true_eq, beq_iff_eq] at hblank
      exact not_isSurrogate_of_lt (by omega)

/-! ### Numbers -/

/-- The text of a number is whole: digits are no surrogates. -/
theorem isWhole_ofNat (n : Nat) : IsWhole (Text.ofNat n) := fun c hc =>
  not_isSurrogate_of_isDigit (Text.isDigit_of_mem_ofNat n c hc)

/-- Zeros in front of a text bring in no surrogates. -/
theorem isWhole_padZeros {t : Text} (ht : IsWhole t) (width : Nat) :
    IsWhole (Text.padZeros width t) :=
  isWhole_append (isWhole_replicate (by decide) _) ht

/-- A decimal is written with digits, a point, a letter and signs, in each
of the layouts. None of them is a surrogate. -/
theorem isWhole_decimal (layout : DecimalLayout) (d : Magnitude.Decimal) :
    IsWhole (layout.write d) := by
  have hdigits := isWhole_ofNat d.digits
  have hzeros (n : Nat) : IsWhole (List.replicate n (CodePoint.ofChar '0')) :=
    isWhole_replicate (by decide) n
  have hplaces {t : Text} (ht : IsWhole t) : IsWhole (DecimalLayout.places t) :=
    isWhole_of_subset (Text.dropEndWhile_isPrefix _ t).subset ht
  have htake {t : Text} (ht : IsWhole t) (n : Nat) : IsWhole (t.take n) :=
    isWhole_of_subset (List.take_subset n t) ht
  have hdrop {t : Text} (ht : IsWhole t) (n : Nat) : IsWhole (t.drop n) :=
    isWhole_of_subset (List.drop_subset n t) ht
  -- What stands behind a point, if there is a point.
  have hpointless {whole : Text} (hwhole : IsWhole whole) :
      IsWhole (if layout.keepsPoint then whole ++ ".0" else whole) := by
    split
    · exact isWhole_append hwhole (by decide)
    · exact hwhole
  have hfraction {whole fraction : Text} (hwhole : IsWhole whole) (hfraction : IsWhole fraction) :
      IsWhole (whole ++ "." ++ DecimalLayout.places fraction) :=
    isWhole_append (isWhole_append hwhole (by decide)) (hplaces hfraction)
  rw [DecimalLayout.write.eq_def]
  dsimp only
  split
  · have hpoint : IsWhole (if (DecimalLayout.places ((Text.ofNat d.digits).drop 1)).isEmpty then []
        else CodePoint.ofChar '.' :: DecimalLayout.places ((Text.ofNat d.digits).drop 1)) := by
      split
      · exact isWhole_nil
      · exact isWhole_cons (by decide) (hplaces (hdrop hdigits 1))
    have hsign (b : Bool) : IsWhole (if b then ("-" : Text) else "+") := by cases b <;> decide
    refine isWhole_append (isWhole_append (isWhole_append (isWhole_append (htake hdigits 1)
      hpoint) (by decide)) ?_) (isWhole_padZeros (isWhole_ofNat _) 2)
    split <;> decide
  split
  · split
    · exact hpointless (by decide)
    · exact hfraction (by decide) (isWhole_append (hzeros _) hdigits)
  · have hpadded (n : Nat) := isWhole_append hdigits (hzeros n)
    split
    · exact hpointless (htake (hpadded _) _)
    · exact hfraction (htake (hpadded _) _) (hdrop (hpadded _) _)

/-- A number is written in digits and marks of ASCII; so are the words for
those that have no digits. -/
theorem isWhole_writeDouble (x : Double) : IsWhole (writeDouble x) := by
  have hsign (negative : Bool) : IsWhole (Double.signText negative) := by
    cases negative <;> decide
  cases x with
  | nan => exact isWhole_of_subset (List.Subset.refl _) (by decide)
  | infinite negative => exact isWhole_append (hsign negative) (by decide)
  | finite negative m => exact isWhole_append (hsign negative) (isWhole_decimal _ _)

/-! ### Strings -/

/-- An escape by number is ASCII, whatever code point it names: of a code
point beyond the first plane it has both halves, each as four digits. -/
theorem isWhole_numberEscape (c : CodePoint) : IsWhole (numberEscape c) := by
  have hunit {n : Nat} (hn : n < 0x10000) : IsWhole (unitEscape n) :=
    isWhole_append (by decide) (spellsUnit_hex hn).isWhole
  have hlt := c.val_lt
  rw [numberEscape]
  split
  · next h => exact hunit h
  · exact isWhole_append (hunit (by omega)) (hunit (by omega))

/-- A surrogate is written as it is unless everything is escaped. All other
code points are written without one, escaped or not. -/
theorem isWhole_stringChar_iff {escapesAll : Bool} {c : CodePoint} :
    IsWhole (stringChar escapesAll c) ↔ escapesAll = true ∨ c.isSurrogate = false := by
  by_cases hc : c.isSurrogate = false
  · exact iff_of_true ((spellsPoint_stringChar escapesAll c).isWhole hc) (.inr hc)
  · have hrange : 0xD800 ≤ c.val := by
      simp only [CodePoint.isSurrogate, Bool.and_eq_false_iff, decide_eq_false_iff_not] at hc
      omega
    -- So far beyond ASCII only the last two ways of writing are left.
    have hplain : stringChar escapesAll c = if escapesAll then numberEscape c else [c] := by
      have hne (d : CodePoint) (hd : d.val < 0xD800) : c ≠ d := by
        rintro rfl
        omega
      rw [stringChar, if_neg (not_or.mpr ⟨hne _ (by decide), hne _ (by decide)⟩),
        if_neg (hne _ (by decide)), if_neg (hne _ (by decide)), if_neg (hne _ (by decide)),
        if_neg (by omega), if_neg (by omega)]
      cases escapesAll with
      | true => rw [if_pos (.inr ⟨rfl, by omega⟩), if_pos rfl]
      | false => rw [if_neg (by simp; omega), if_neg Bool.false_ne_true]
    rw [hplain]
    cases escapesAll with
    | true => exact iff_of_true (isWhole_numberEscape c) (.inl rfl)
    | false =>
        simp only [Bool.false_eq_true, if_false, false_or, isWhole_cons_iff, isWhole_nil,
          and_true]

/-- A string is written without surrogates if they are escaped or it has
none. -/
theorem isWhole_writeString_iff {escapesAll : Bool} {t : Text} :
    IsWhole (writeString escapesAll t) ↔ escapesAll = true ∨ IsWhole t := by
  rw [writeString_eq, quotedText, ← List.singleton_append,
    isWhole_between_iff (by decide) (by decide), isWhole_flatMap_iff]
  cases escapesAll with
  | true => exact iff_of_true (fun _ _ => isWhole_stringChar_iff.mpr (.inl rfl)) (.inl rfl)
  | false =>
      simp only [isWhole_stringChar_iff, Bool.false_eq_true, false_or]
      exact Iff.rfl

/-! ### Values -/

mutual

/-- The strings of a value: keys and values. -/
def strings : Json → List Text
  | .null => []
  | .bool _ => []
  | .int _ => []
  | .float _ => []
  | .str t => [t]
  | .arr items => stringsOfItems items
  | .obj members => stringsOfMembers members

/-- The strings of the items of an array. -/
def stringsOfItems : List Json → List Text
  | [] => []
  | item :: items => strings item ++ stringsOfItems items

/-- The strings of the members of an object. -/
def stringsOfMembers : List (Text × Json) → List Text
  | [] => []
  | (key, value) :: members => key :: strings value ++ stringsOfMembers members

end

section

variable {P : Text → Prop}

/-- What holds of the strings in a text holds of the text. -/
theorem forall_strings_str {t : Text} : (∀ s ∈ (Json.str t).strings, P s) ↔ P t := by
  rw [strings, List.forall_mem_singleton]

/-- What holds of those in a list holds of all items. A list has no strings
of its own. -/
theorem forall_strings_arr {items : List Json} :
    (∀ t ∈ (Json.arr items).strings, P t) ↔ ∀ item ∈ items, ∀ t ∈ item.strings, P t := by
  rw [strings]
  induction items with
  | nil => simp [stringsOfItems]
  | cons item items ih =>
      rw [stringsOfItems, List.forall_mem_append, List.forall_mem_cons, ih]

/-- In an object the keys count as strings as well. So a property of all
strings of an object is one of its keys and one of its values. -/
theorem forall_strings_obj {members : Members} :
    (∀ t ∈ (Json.obj members).strings, P t)
      ↔ ∀ m ∈ members, P m.1 ∧ ∀ t ∈ m.2.strings, P t := by
  rw [strings]
  induction members with
  | nil => simp [stringsOfMembers]
  | cons m members ih =>
      rw [stringsOfMembers, List.cons_append, List.forall_mem_cons, List.forall_mem_append,
        List.forall_mem_cons, ih, and_assoc]

end

/-- No string of the value has a surrogate. -/
def HasWholeStrings (j : Json) : Prop := ∀ t ∈ j.strings, IsWhole t

/-- A text, as a value. -/
theorem hasWholeStrings_str {t : Text} : HasWholeStrings (.str t) ↔ IsWhole t :=
  forall_strings_str

/-- A truth value has no strings. -/
theorem hasWholeStrings_bool (b : Bool) : HasWholeStrings (.bool b) := by
  rw [HasWholeStrings, strings]
  exact List.forall_mem_nil _

/-- A list, item by item. -/
theorem hasWholeStrings_arr {items : List Json} :
    HasWholeStrings (.arr items) ↔ ∀ item ∈ items, item.HasWholeStrings :=
  forall_strings_arr

/-- An object, with its keys. -/
theorem hasWholeStrings_obj {members : Members} :
    HasWholeStrings (.obj members) ↔ ∀ m ∈ members, IsWhole m.1 ∧ m.2.HasWholeStrings :=
  forall_strings_obj

/-- Line breaks, commas and blanks around the parts of a container do not
count. -/
theorem isWhole_enclose_iff {style : Style} {level : Nat} {opening closing : CodePoint}
    (hopening : opening.isSurrogate = false) (hclosing : closing.isSurrogate = false)
    {parts : List Text} :
    IsWhole (style.enclose level opening closing parts) ↔ ∀ part ∈ parts, IsWhole part := by
  have hbreak (level : Nat) : IsWhole (style.break level) := (blanks_break style level).isWhole
  have hbetween : IsWhole (style.between (level + 1)) := by
    obtain ⟨blanks, hblanks, heq⟩ := exists_between style (level + 1)
    exact heq ▸ isWhole_cons (by decide) hblanks.isWhole
  by_cases hne : parts = []
  · rw [hne]
    exact iff_of_true (isWhole_cons hopening (isWhole_cons hclosing isWhole_nil))
      (List.forall_mem_nil _)
  · rw [enclose_of_ne_nil _ _ _ _ hne, ← List.singleton_append,
      isWhole_between_iff (isWhole_cons hopening isWhole_nil) (isWhole_cons hclosing isWhole_nil),
      isWhole_between_iff (hbreak _) (hbreak _), isWhole_joinWith_iff hbetween]

section

variable (style : Style)

mutual

/-- The text of a value has a surrogate exactly if that of one of its
strings has. -/
theorem isWhole_writeAt_iff (level : Nat) : (j : Json) →
    (IsWhole (writeAt style level j) ↔ ∀ t ∈ j.strings, IsWhole (writeString style.escapesAll t))
  | .null => by
    rw [writeAt, strings]
    exact iff_of_true (by decide) (List.forall_mem_nil _)
  | .bool b => by
    rw [strings]
    refine iff_of_true ?_ (List.forall_mem_nil _)
    cases b <;> rw [writeAt] <;> decide
  | .int n => by
    rw [writeAt, strings]
    exact iff_of_true (isWhole_ofInt n) (List.forall_mem_nil _)
  | .float x => by
    rw [writeAt, strings]
    exact iff_of_true (isWhole_writeDouble x) (List.forall_mem_nil _)
  | .str t => by
    rw [writeAt, strings, List.forall_mem_singleton]
  | .arr items => by
    rw [writeAt, strings, isWhole_enclose_iff (by decide) (by decide)]
    exact isWhole_writeItems_iff (level + 1) items
  | .obj members => by
    rw [writeAt, strings, isWhole_enclose_iff (by decide) (by decide)]
    exact isWhole_writeMembers_iff (level + 1) members

/-- The items of a list, each on its own. -/
theorem isWhole_writeItems_iff (level : Nat) : (items : List Json) →
    ((∀ part ∈ writeItems style level items, IsWhole part)
      ↔ ∀ t ∈ stringsOfItems items, IsWhole (writeString style.escapesAll t))
  | [] => by rw [writeItems, stringsOfItems]; simp
  | item :: items => by
    rw [writeItems, stringsOfItems, List.forall_mem_cons, List.forall_mem_append,
      isWhole_writeAt_iff level item, isWhole_writeItems_iff level items]

/-- The members of an object. A key is written as a string of the same
style, so it counts like any other string. -/
theorem isWhole_writeMembers_iff (level : Nat) : (members : List (Text × Json)) →
    ((∀ part ∈ writeMembers style level members, IsWhole part)
      ↔ ∀ t ∈ stringsOfMembers members, IsWhole (writeString style.escapesAll t))
  | [] => by rw [writeMembers, stringsOfMembers]; simp
  | (key, value) :: members => by
    have hcolon : IsWhole ": " := by decide
    rw [writeMembers, stringsOfMembers, List.forall_mem_cons, List.cons_append,
      List.forall_mem_cons, List.forall_mem_append, isWhole_append_iff, isWhole_append_iff,
      and_iff_left hcolon, isWhole_writeAt_iff level value, isWhole_writeMembers_iff level members,
      and_assoc]

end

end

/-- A style that escapes everything writes no surrogate, whatever it is
given. -/
theorem isWhole_write_of_escapesAll {style : Style} (h : style.escapesAll = true) (j : Json) :
    IsWhole (j.write style) :=
  (isWhole_writeAt_iff style 0 j).mpr fun _ _ => isWhole_writeString_iff.mpr (.inl h)

/-- A style that escapes no more than it has to writes the surrogates of
the strings. -/
theorem isWhole_write_iff {style : Style} (h : style.escapesAll = false) (j : Json) :
    IsWhole (j.write style) ↔ j.HasWholeStrings := by
  rw [write, isWhole_writeAt_iff]
  refine forall₂_congr fun t _ => ?_
  rw [isWhole_writeString_iff, h, or_iff_right Bool.false_ne_true]

end DocScribe.Json
