import Mathlib.Data.List.Find
import DocScribe.Proofs.Json.Truncation

/-!
# `DocScribe.Proofs.Json.Extension`: a text with more behind it

What a reader makes of a text that ends with the mark that closes an
object, it also makes of that text with anything behind it:
`carries_readFront`. A value that is read is read again, and what was
left of the text is left with the addition behind it; a limit that is
exceeded is exceeded again. Only a fault of the text may turn out to be
none.

The closing mark is what makes this true. Behind the last code point of
another text a number could go on, or a blank, or a word. A number or a
word that is read in a text with a closing mark ends in front of the
mark at the latest, so nothing that stands behind the mark is seen
(`readUnsigned_append_end`).
-/

set_option autoImplicit false

namespace DocScribe.Json

/-- The mark that closes an object. -/
abbrev objectEnd : CodePoint := Container.object.closing

/-- A text that ends with the mark that closes an object. -/
def Closed (s : Text) : Prop := ∃ u, s = u ++ [objectEnd]

/-- An end of a closed text is closed, unless nothing is left: the closing
mark is the last one of both. -/
theorem Closed.of_suffix {s t : Text} (h : Closed s) (hsuffix : t <:+ s) : t = [] ∨ Closed t := by
  obtain ⟨u, rfl⟩ := h
  rcases List.suffix_concat_iff.mp hsuffix with rfl | ⟨v, rfl, -⟩
  · exact .inl rfl
  · exact .inr ⟨v, rfl⟩

/-- A closed text is not empty, for it has a closing mark at its end. -/
theorem Closed.exists_cons {s : Text} (h : Closed s) : ∃ c rest, s = c :: rest := by
  obtain ⟨u, rfl⟩ := h
  cases u with
  | nil => exact ⟨_, _, rfl⟩
  | cons c u => exact ⟨c, u ++ [objectEnd], rfl⟩

/-- Behind any mark but that one, the rest of the text ends with it, too. If
the mark in front were the last one of the text, it would be the closing
mark. -/
theorem Closed.tail {c : CodePoint} {rest : Text} (h : Closed (c :: rest)) (hc : c ≠ objectEnd) :
    Closed rest := by
  rcases h.of_suffix (List.suffix_cons c rest) with rfl | hrest
  · obtain ⟨u, hu⟩ := h
    cases u with
    | nil => exact absurd (List.cons.inj hu).1 hc
    | cons d u => exact absurd (List.cons.inj hu).2.symm (by simp)
  · exact hrest

/-- The blanks in front of such a text are skipped, and none at its
end. -/
theorem Closed.skipSpace_append {s : Text} (h : Closed s) (more : Text) :
    Closed (skipSpace s) ∧ skipSpace (s ++ more) = skipSpace s ++ more := by
  have hmark : isSpace objectEnd = false := by decide
  obtain ⟨u, rfl⟩ := h
  have hskip : skipSpace (u ++ [objectEnd]) ≠ [] := by
    rw [skipSpace, List.dropWhile_append]
    split
    · simp [hmark]
    · simp
  constructor
  · have hclosed : Closed (u ++ [objectEnd]) := ⟨u, rfl⟩
    exact (hclosed.of_suffix (List.dropWhile_suffix _)).resolve_left hskip
  · rw [skipSpace, List.dropWhile_append, if_neg]
    · rfl
    · rwa [List.isEmpty_iff]

/-- Behind the blanks such a text goes on, with more behind it as without.
The closing mark is no blank, so there is always something left. -/
theorem Closed.exists_skipSpace {s : Text} (h : Closed s) (more : Text) :
    ∃ c rest, Closed (c :: rest) ∧ skipSpace s = c :: rest
      ∧ skipSpace (s ++ more) = c :: (rest ++ more) := by
  obtain ⟨hclosed, hskip⟩ := h.skipSpace_append more
  obtain ⟨c, rest, heq⟩ := hclosed.exists_cons
  exact ⟨c, rest, heq ▸ hclosed, heq, by rw [hskip, heq, List.cons_append]⟩

/-- How a reading of a text with more behind it compares with that of the
text alone: the same was read or exceeded, or the text alone is
malformed. -/
inductive Carries {α : Type} (more : Text) : ReadResult α → ReadResult α → Prop where
  | faulty (fault : Fault) (left : Text) (result : ReadResult α) :
      Carries more (.error (.malformed fault left)) result
  | tooLong (digits : Nat) :
      Carries more (.error (.integerTooLong digits)) (.error (.integerTooLong digits))
  | tooDeep (container : Container) :
      Carries more (.error (.nestingTooDeep container)) (.error (.nestingTooDeep container))
  | read (a : α) (rest : Text) (hrest : rest = [] ∨ Closed rest) :
      Carries more (.ok (a, rest)) (.ok (a, rest ++ more))

variable {α : Type} {more : Text}

/-- What is malformed with more behind it is malformed alone: more text may
mend a fault, but it makes none. -/
theorem Carries.faulty_of_faulty {result result' : ReadResult α} (h : Carries more result result')
    (hfaulty : Faulty result') : Faulty result := by
  obtain ⟨fault, left, heq⟩ := hfaulty
  cases h with
  | faulty fault left => exact ⟨fault, left, rfl⟩
  | tooLong => exact nomatch heq
  | tooDeep => exact nomatch heq
  | read => exact nomatch heq

/-! ### Strings -/

/-- Four digits of an escape are taken from the front of the text, and there
has to be something behind them: shorter texts give none. -/
theorem hexQuad?_suffix {s rest : Text} {unit : CodePoint} (h : hexQuad? s = some (unit, rest)) :
    rest <:+ s := by
  match s with
  | [] => exact nomatch h
  | [_] => exact nomatch h
  | [_, _] => exact nomatch h
  | [_, _, _] => exact nomatch h
  | [_, _, _, _] => exact nomatch h
  | a :: b :: c :: d :: next :: s =>
      simp only [hexQuad?, Option.bind_eq_bind, Option.bind_eq_some_iff, Option.pure_def,
        Option.some.injEq, Prod.mk.injEq] at h
      obtain ⟨_, -, _, -, _, -, _, -, -, rfl⟩ := h
      exact List.suffix_append [a, b, c, d] _

/-- The second half of a pair is taken from the front, if it follows. Where
none does, nothing is taken. -/
theorem pairedUnit_suffix (unit : CodePoint) (s : Text) : (pairedUnit unit s).2 <:+ s := by
  have hself : s <:+ s := List.suffix_refl s
  rw [pairedUnit]
  split
  · split
    · next low rest hlow =>
      rw [lowEscape?.eq_def] at hlow
      split at hlow
      · next a b s =>
        split at hlow
        · split at hlow
          · next c rest' hquad =>
            split at hlow
            · obtain ⟨rfl, rfl⟩ := Prod.mk.inj (Option.some.inj hlow)
              exact (hexQuad?_suffix hquad).trans (List.suffix_append [a, b] s)
            · cases hlow
          · cases hlow
        · cases hlow
      · cases hlow
    · exact hself
  · exact hself

variable {d : Dialect} {opening : Text}

/-- So an escape leaves an end of its text. It takes a letter, or a letter
with four digits, or two such escapes that make up a pair. -/
theorem readEscape_suffix {s rest : Text} {unit : CodePoint}
    (h : readEscape d opening s = .ok (unit, rest)) : rest <:+ s := by
  rw [readEscape.eq_def] at h
  split at h
  · cases h
  · next c s =>
    split at h
    · split at h
      · cases h
      · next unit' rest' hquad =>
        dsimp only at h
        split at h
        · cases h
        · have hpaired := pairedUnit_suffix unit' rest'
          rw [Except.ok.inj h] at hpaired
          exact (hpaired.trans (hexQuad?_suffix hquad)).trans (List.suffix_cons c s)
    · split at h
      · obtain ⟨rfl, rfl⟩ := Prod.mk.inj (Except.ok.inj h)
        exact List.suffix_cons c s
      · cases h

/-- What is left behind a string is an end of the text. The induction is on
the fuel, which counts the code points that may still come. -/
theorem readStringFrom_suffix (fuel : Nat) {read s t rest : Text}
    (h : readStringFrom d opening fuel read s = .ok (t, rest)) : rest <:+ s := by
  induction fuel generalizing read s with
  | zero => cases h
  | succ fuel ih =>
      cases s with
      | nil => cases h
      | cons c s =>
          rw [readStringFrom] at h
          split at h
          · obtain ⟨-, rfl⟩ := Prod.mk.inj (Except.ok.inj h)
            exact List.suffix_cons c s
          split at h
          · split at h
            · cases h
            · next hescape =>
              exact ((ih h).trans (readEscape_suffix hescape)).trans (List.suffix_cons c s)
          split at h
          · cases h
          · exact (ih h).trans (List.suffix_cons c s)

/-- A string is carried: a quotation mark that closes it in the text alone
closes it in the longer one, and a text that ends first was malformed. -/
theorem carries_readString {s : Text} (hs : Closed s) :
    Carries more (readString d s) (readString d (s ++ more)) := by
  cases hread : readString d s with
  | error e =>
      obtain ⟨fault, left, rfl⟩ := exists_of_readStringFrom_error _ hread
      exact .faulty fault left _
  | ok found =>
      obtain ⟨t, rest⟩ := found
      have hextend : readString d (s ++ more) = .ok (t, rest ++ more) :=
        readStringFrom_extend _ _ hread (by simp only [List.length_append]; omega)
      rw [hextend]
      exact .read t rest (hs.of_suffix (readStringFrom_suffix _ hread))

/-! ### Numbers and words -/

/-- Digits end in front of the closing mark, which is none: the same are
taken with more text behind it. -/
theorem spanDigits_append_end (u v : Text) :
    spanDigits (u ++ objectEnd :: v) = ((spanDigits u).1, (spanDigits u).2 ++ objectEnd :: v) := by
  have hmark : ¬ CodePoint.isDigit objectEnd = true := by decide
  rw [spanDigits, spanDigits, List.takeWhile_append, List.dropWhile_append,
    List.takeWhile_cons_of_neg hmark, List.dropWhile_cons_of_neg hmark]
  refine Prod.ext ?_ ?_
  · show (if _ then u ++ [] else u.takeWhile CodePoint.isDigit) = u.takeWhile CodePoint.isDigit
    split
    · next hall =>
      rw [List.append_nil]
      exact ((List.takeWhile_prefix _).eq_of_length hall).symm
    · rfl
  · show (if _ then objectEnd :: v else u.dropWhile CodePoint.isDigit ++ objectEnd :: v)
      = u.dropWhile CodePoint.isDigit ++ objectEnd :: v
    split
    · next hnone => rw [List.isEmpty_iff.mp hnone, List.nil_append]
    · rfl

/-- A fraction ends at the closing mark at the latest, and so does a point
without digits. -/
theorem readFraction_append_end (u v : Text) :
    readFraction (u ++ objectEnd :: v)
      = ((readFraction u).1, (readFraction u).2 ++ objectEnd :: v) := by
  cases u with
  | nil => rfl
  | cons c u =>
      rw [List.cons_append, readFraction, readFraction, spanDigits_append_end]
      split <;> rfl

/-- A sign is not the closing mark, so it is read alike with that mark and
any text behind it. -/
theorem readSign_append_end (u v : Text) :
    readSign (u ++ objectEnd :: v) = ((readSign u).1, (readSign u).2 ++ objectEnd :: v) := by
  cases u with
  | nil => rfl
  | cons c u =>
      rw [List.cons_append, readSign, readSign]
      split
      · rfl
      · split <;> rfl

/-- An exponent is read alike with the closing mark behind it. Its digits
end in front of the mark, as that is no digit. -/
theorem readExponent_append_end (u v : Text) :
    readExponent (u ++ objectEnd :: v)
      = ((readExponent u).1, (readExponent u).2 ++ objectEnd :: v) := by
  cases u with
  | nil => rfl
  | cons c u =>
      simp only [List.cons_append, readExponent, readSign_append_end, spanDigits_append_end]
      split
      · split <;> rfl
      · rfl

/-- The whole part of a number is read alike with the closing mark behind
it, for the same reason. -/
theorem readWhole?_append_end (u v : Text) :
    readWhole? (u ++ objectEnd :: v)
      = (readWhole? u).map fun w => (w.1, w.2 ++ objectEnd :: v) := by
  cases u with
  | nil => rfl
  | cons c u =>
      rw [List.cons_append, readWhole?, readWhole?, ← List.cons_append, spanDigits_append_end]
      split
      · rfl
      · split <;> rfl

/-- A number in front of the mark is read in the same way whatever
stands behind the mark. -/
theorem readUnsigned_append_end (start start' : Text) (negative : Bool) (u : Text) :
    Carries more (readUnsigned d start negative (u ++ [objectEnd]))
      (readUnsigned d start' negative (u ++ objectEnd :: more)) := by
  cases hwhole : readWhole? u with
  | none =>
      simp only [readUnsigned, readWhole?_append_end, hwhole, Option.map_none]
      exact .faulty _ _ _
  | some found =>
      obtain ⟨whole, rest⟩ := found
      simp only [readUnsigned, readWhole?_append_end, hwhole, Option.map_some,
        readFraction_append_end, readExponent_append_end]
      -- What is left begins at the mark at the latest, so the addition stands behind it.
      have hleft : ∀ left : Text, left ++ objectEnd :: more = (left ++ [objectEnd]) ++ more :=
        fun left => by rw [List.append_assoc, List.singleton_append]
      split
      · exact .tooLong _
      split
      · rw [hleft]
        exact .read _ _ (.inr ⟨_, rfl⟩)
      · rw [hleft]
        exact .read _ _ (.inr ⟨_, rfl⟩)

/-- A word does not reach over the mark, so it is found in front of it or
not at all. -/
theorem isPrefixOf_append_end {word : Text} (hword : objectEnd ∉ word) (u v : Text) :
    word.isPrefixOf (u ++ objectEnd :: v) = word.isPrefixOf u := by
  rw [Bool.eq_iff_iff, List.isPrefixOf_iff_prefix, List.isPrefixOf_iff_prefix]
  refine ⟨fun h => ?_, fun h => h.trans (List.prefix_append u _)⟩
  rcases cut_append h with hfirst | ⟨c, w, rfl, hmark⟩
  · exact hfirst
  · obtain ⟨rfl, -⟩ := List.cons_prefix_cons.mp hmark
    exact absurd (List.mem_append_right u List.mem_cons_self) hword

/-- No word that stands for a value has a closing mark in it. -/
theorem words_objectEnd : ∀ w ∈ words, objectEnd ∉ w.1 := by
  decide

/-- Numbers and words are carried: what stands behind the closing mark is
not looked at. -/
theorem carries_readPlain (u : Text) :
    Carries more (readPlain d (u ++ [objectEnd])) (readPlain d (u ++ objectEnd :: more)) := by
  have hfind : ∀ v, words.find? (fun w => w.1.isPrefixOf (u ++ objectEnd :: v))
      = words.find? (fun w => w.1.isPrefixOf u) :=
    fun v => List.find?_congr fun w hw => isPrefixOf_append_end (words_objectEnd w hw) u v
  rw [readPlain.eq_def, readPlain.eq_def, hfind, hfind]
  cases hword : words.find? (fun w => w.1.isPrefixOf u) with
  | some w =>
      -- The word stands in front of the mark, so the mark is still there behind it.
      have hprefix : w.1.isPrefixOf u = true := (List.find?_eq_some_iff_append.mp hword).1
      have hlen : w.1.length ≤ u.length := (List.isPrefixOf_iff_prefix.mp hprefix).length_le
      dsimp only
      rw [List.drop_append_of_le_length hlen, List.drop_append_of_le_length hlen,
        show objectEnd :: more = [objectEnd] ++ more from rfl, ← List.append_assoc]
      exact .read _ _ (.inr ⟨_, rfl⟩)
  | none =>
      cases u with
      | nil => exact .faulty _ _ _
      | cons c u =>
          simp only [List.cons_append]
          split
          · exact readUnsigned_append_end _ _ _ u
          · exact readUnsigned_append_end _ _ _ (c :: u)

/-! ### Containers -/

variable {readOne : Text → ReadResult Json}

/-- Items are carried if single values are. The longer text has more fuel to
go on with, which makes no difference since the shorter one does not run out
of it. -/
theorem carries_readItems
    (hone : ∀ s, Closed s → Carries more (readOne s) (readOne (s ++ more))) {fuel fuel' : Nat}
    (hfuel : fuel ≤ fuel') (read : List Json) {s : Text} (hs : Closed s) :
    Carries more (readItems readOne fuel read s) (readItems readOne fuel' read (s ++ more)) := by
  induction fuel generalizing fuel' read s with
  | zero => exact .faulty _ _ _
  | succ fuel ih =>
      obtain ⟨fuel', rfl⟩ := Nat.exists_eq_add_of_lt hfuel
      have hitem := hone s hs
      rw [readItems, readItems]
      generalize readOne s = one, readOne (s ++ more) = one' at hitem
      cases hitem with
      | faulty fault left => exact .faulty fault left _
      | tooLong digits => exact .tooLong digits
      | tooDeep container => exact .tooDeep container
      | read item rest hrest =>
          -- An item with nothing behind it does not end the array: the text alone is malformed.
          rcases hrest with rfl | hrest
          · exact .faulty _ _ _
          obtain ⟨c, rest', hclosed, hskip, hskip'⟩ := hrest.exists_skipSpace more
          simp only [hskip, hskip']
          split
          · exact .read _ _ (hclosed.of_suffix (List.suffix_cons c rest'))
          split
          · next hcomma =>
            have htail := hclosed.tail (hcomma ▸ by decide)
            obtain ⟨hnext, hbegin⟩ := htail.skipSpace_append more
            rw [hbegin]
            exact ih (by omega) _ hnext
          · exact .faulty _ _ _

/-- The name, the colon, the value and what stands behind it are read one
after the other, and at each of them the text alone is malformed or goes
on. -/
theorem carries_readMembers
    (hone : ∀ s, Closed s → Carries more (readOne s) (readOne (s ++ more))) {fuel fuel' : Nat}
    (hfuel : fuel ≤ fuel') (read : Members) {s : Text} (hs : Closed s) :
    Carries more (readMembers d readOne fuel read s)
      (readMembers d readOne fuel' read (s ++ more)) := by
  induction fuel generalizing fuel' read s with
  | zero => exact .faulty _ _ _
  | succ fuel ih =>
      obtain ⟨fuel', rfl⟩ := Nat.exists_eq_add_of_lt hfuel
      obtain ⟨q, s, rfl⟩ := hs.exists_cons
      rw [List.cons_append, readMembers, readMembers]
      split
      · exact .faulty _ _ _
      next hquote =>
      have hkey : Carries more (readString d s) (readString d (s ++ more)) :=
        carries_readString (hs.tail (not_not.mp hquote ▸ by decide))
      generalize readString d s = key, readString d (s ++ more) = key' at hkey
      cases hkey with
      | faulty fault left => exact .faulty fault left _
      | tooLong digits => exact .tooLong digits
      | tooDeep container => exact .tooDeep container
      | read key rest hrest =>
          rcases hrest with rfl | hrest
          · exact .faulty _ _ _
          obtain ⟨c, rest', hclosed, hskip, hskip'⟩ := hrest.exists_skipSpace more
          simp only [hskip, hskip']
          split
          · exact .faulty _ _ _
          next hcolon =>
          have htail := hclosed.tail (not_not.mp hcolon ▸ by decide)
          obtain ⟨hnext, hbegin⟩ := htail.skipSpace_append more
          have hvalue := hone _ hnext
          rw [hbegin]
          generalize readOne (skipSpace rest') = one, readOne (skipSpace rest' ++ more) = one'
            at hvalue
          cases hvalue with
          | faulty fault left => exact .faulty fault left _
          | tooLong digits => exact .tooLong digits
          | tooDeep container => exact .tooDeep container
          | read value rest'' hrest =>
              rcases hrest with rfl | hrest
              · exact .faulty _ _ _
              obtain ⟨next, tail, hclosed, hskip, hskip'⟩ := hrest.exists_skipSpace more
              simp only [hskip, hskip']
              split
              · exact .read _ _ (hclosed.of_suffix (List.suffix_cons next tail))
              split
              · next hcomma =>
                have htail := hclosed.tail (hcomma ▸ by decide)
                obtain ⟨hnext, hbegin⟩ := htail.skipSpace_append more
                rw [hbegin]
                exact ih (by omega) _ hnext
              · exact .faulty _ _ _

/-- What stands inside of a container is carried if single values are, be it
items or members. -/
theorem carries_readContent
    (hone : ∀ s, Closed s → Carries more (readOne s) (readOne (s ++ more)))
    (container : Container) {s : Text} (hs : Closed s) :
    Carries more (readContent d readOne container s)
      (readContent d readOne container (s ++ more)) := by
  obtain ⟨c, s, rfl⟩ := hs.exists_cons
  have hfuel : (c :: s).length + 1 ≤ (c :: s ++ more).length + 1 := by
    simp only [List.length_append]
    omega
  cases container with
  | array => exact carries_readItems hone hfuel [] hs
  | object => exact carries_readMembers hone hfuel [] hs

/-- A container is carried if its content is. Behind the blanks there is
either the closing mark, or the content, of which the same is assumed. -/
theorem carries_readContainer {content : Container → Text → ReadResult Json}
    {container : Container}
    (hcontent : ∀ s, Closed s → Carries more (content container s) (content container (s ++ more)))
    {s : Text} (hs : Closed s) :
    Carries more (readContainer content container s)
      (readContainer content container (s ++ more)) := by
  obtain ⟨c, rest, hclosed, hskip, hskip'⟩ := hs.exists_skipSpace more
  rw [readContainer, readContainer, hskip, hskip']
  dsimp only
  split
  · exact .read _ _ (hclosed.of_suffix (List.suffix_cons c rest))
  · exact hcontent _ hclosed

/-! ### Values -/

/-- Any value is carried if what stands inside of containers is. The first
code point tells what is to be read, and it is the same in both texts. -/
theorem carries_readWith {inside : Container → Text → ReadResult Json}
    (hinside : ∀ container s, Closed s →
      Carries more (inside container s) (inside container (s ++ more)))
    {s : Text} (hs : Closed s) :
    Carries more (readWith d inside s) (readWith d inside (s ++ more)) := by
  obtain ⟨c, rest, rfl⟩ := hs.exists_cons
  rw [List.cons_append, readWith, readWith]
  split
  · next hquote =>
    have hstring : Carries more (readString d rest) (readString d (rest ++ more)) :=
      carries_readString (hs.tail (hquote ▸ by decide))
    generalize readString d rest = one, readString d (rest ++ more) = one' at hstring
    cases hstring with
    | faulty fault left => exact .faulty fault left _
    | tooLong digits => exact .tooLong digits
    | tooDeep container => exact .tooDeep container
    | read t rest' hrest => exact .read _ _ hrest
  split
  · next hobject => exact hinside .object rest (hs.tail (hobject ▸ by decide))
  split
  · next harray => exact hinside .array rest (hs.tail (harray ▸ by decide))
  · -- Neither a string nor a container: here the closing mark is what matters.
    obtain ⟨u, hu⟩ := hs
    rw [← List.cons_append, hu, List.append_assoc]
    exact carries_readPlain u

/-- Where containers nest too deep both readings exceed the limit, unless
the container is empty in both. -/
theorem carries_readBeyond (container : Container) {s : Text} (hs : Closed s) :
    Carries more (readBeyond d container s) (readBeyond d container (s ++ more)) := by
  rw [readBeyond, readBeyond]
  split
  · exact .tooDeep container
  · exact carries_readContainer (fun _ _ => .tooDeep container) hs

/-- The value at the front of a closed text is the same with more text
behind it. Induction on how deep containers may nest. -/
theorem carries_readValue (depth : Nat) {s : Text} (hs : Closed s) :
    Carries more (readValue d depth s) (readValue d depth (s ++ more)) := by
  induction depth generalizing s with
  | zero => exact carries_readWith (fun container _ => carries_readBeyond container) hs
  | succ depth ih =>
      refine carries_readWith (fun container _ hinside => ?_) hs
      exact carries_readContainer
        (fun _ hcontent => carries_readContent (fun _ => ih) container hcontent) hinside

/-- **A value at the front of a text is read alike with more behind it.**
The text has to end with the mark that closes an object. -/
theorem carries_readFront {s : Text} (hs : Closed s) (more : Text) :
    Carries more (readFront d s) (readFront d (s ++ more)) :=
  carries_readValue d.nesting hs

end DocScribe.Json
