import DocScribe.Proofs.Json.Bounds
import DocScribe.Proofs.Json.Doubles

/-!
# `DocScribe.Proofs.Json.RoundTrip`: values read back

A value within the bounds of the reader is read back from its text,
doubles included, if no string in it has the first half of a surrogate
pair directly in front of a second half (`readValue_writeAt`). Such a
string does not come back where everything beyond ASCII is escaped: both
halves are written as escapes, and the reader makes one code point of two
escapes next to each other. So for texts of one line the condition is
exact (`parse_write_iff`).
-/

set_option autoImplicit false

namespace DocScribe.Json

variable {d : Dialect} {style : Style}

/-! ### What a text begins with -/

/-- The text of a double begins with a digit, a sign or the letter of a
word. -/
theorem exists_cons_writeDouble (x : Double) :
    ∃ c s, writeDouble x = c :: s ∧ (c.isDigit = true ∨ c ∈ openings)
      ∧ c ≠ .quoteSign ∧ c ≠ CodePoint.ofChar '\x7b' ∧ c ≠ CodePoint.ofChar '[' := by
  cases x with
  | nan => exact ⟨_, _, rfl, .inr (by decide), by decide⟩
  | infinite negative => cases negative <;> exact ⟨_, _, rfl, .inr (by decide), by decide⟩
  | finite negative m =>
      cases negative with
      | true => exact ⟨_, _, rfl, .inr (by decide), by decide⟩
      | false =>
          obtain ⟨n, e, hspells, -⟩ := exists_spellsDecimal_shortest m
          obtain ⟨c, s, htext, hc⟩ := hspells.exists_cons
          refine ⟨c, s, htext, .inl hc, ?_, ?_, ?_⟩ <;> rintro rfl <;> exact absurd hc (by decide)

/-- What is written begins with a digit or with what else values begin with,
in either layout. So it is not empty, and does not begin with a mark of the
byte order. -/
theorem exists_cons_writeAt (style : Style) (level : Nat) (j : Json) :
    ∃ c s, writeAt style level j = c :: s ∧ (c.isDigit = true ∨ c ∈ openings) := by
  -- A number begins with a digit, and a container with its opening mark in either layout.
  have hnat (n : Nat) : ∃ c s, Text.ofNat n = c :: s ∧ (c.isDigit = true ∨ c ∈ openings) := by
    obtain ⟨c, s, hdigits⟩ := List.exists_cons_of_ne_nil (Text.ofNat_ne_nil n)
    exact ⟨c, s, hdigits, .inl (Text.isDigit_of_mem_ofNat n c (hdigits ▸ List.mem_cons_self))⟩
  have henclose {opening closing : CodePoint} (parts : List Text) (h : opening ∈ openings) :
      ∃ c s, style.enclose level opening closing parts = c :: s
        ∧ (c.isDigit = true ∨ c ∈ openings) := by
    rw [Style.enclose]
    split
    · exact ⟨_, _, rfl, .inr h⟩
    · exact ⟨_, _, rfl, .inr h⟩
  cases j with
  | null => rw [writeAt]; exact ⟨_, _, rfl, .inr (by decide)⟩
  | bool b => cases b <;> rw [writeAt] <;> exact ⟨_, _, rfl, .inr (by decide)⟩
  | int n =>
      rw [writeAt]
      cases n with
      | ofNat n => exact hnat n
      | negSucc n => exact ⟨_, _, rfl, .inr (by decide)⟩
  | float x =>
      obtain ⟨c, s, htext, hc, -⟩ := exists_cons_writeDouble x
      rw [writeAt]
      exact ⟨c, s, htext, hc⟩
  | str t => rw [writeAt]; exact ⟨_, _, rfl, .inr (by decide)⟩
  | arr items => rw [writeAt]; exact henclose _ (by decide)
  | obj members => rw [writeAt]; exact henclose _ (by decide)

/-- What is written starts a text: it begins with a mark, a letter or a
digit, and never with a blank. -/
theorem starts_writeAt (style : Style) (level : Nat) (j : Json) :
    Starts (writeAt style level j) := by
  obtain ⟨c, s, htext, hdigit | hopening⟩ := exists_cons_writeAt style level j
  · exact htext ▸ starts_of_isDigit hdigit s
  · exact htext ▸ starts_of_mem_openings hopening s

/-! ### Reading what is written -/

/-- A double is read by itself, however the inside of a container is
read. -/
theorem readWith_writeDouble (hd : d.limitsAll = false)
    (inside : Container → Text → ReadResult Json) (x : Double) {rest : Text} (hrest : Ends rest) :
    readWith d inside (writeDouble x ++ rest) = .ok (.float x, rest) := by
  obtain ⟨c, s, htext, -, hquote, hbrace, hbracket⟩ := exists_cons_writeDouble x
  have hplain := readPlain_writeDouble hd x hrest
  rw [htext, List.cons_append] at hplain ⊢
  simp only [readWith, hquote, hbrace, hbracket, if_false, hplain]

/-- A value that is no container is read by itself, whatever reads the
inside of containers. -/
theorem readWith_writeAt (hhalves : d.takesHalves = true) (hlimits : d.limitsAll = false)
    (inside : Container → Text → ReadResult Json) (level : Nat) {j : Json} (hfits : Fits 0 j)
    (hstrings : ∀ t ∈ j.strings, Unpaired t) {rest : Text} (hrest : Ends rest) :
    readWith d inside (writeAt style level j ++ rest) = .ok (j, rest) := by
  cases j with
  | null => rw [writeAt]; exact readWith_scalar inside (j := .null) trivial .null trivial
  | bool b =>
      have hspells : Spells (.bool b) (writeAt style level (.bool b)) := by
        cases b <;> rw [writeAt] <;> exact .bool _
      exact readWith_scalar inside (j := .bool b) trivial hspells trivial
  | int n => rw [writeAt]; exact readWith_int inside hfits hrest
  | float x =>
      rw [writeAt]
      exact readWith_writeDouble hlimits inside x hrest
  | str t =>
      have hlegible : LegibleText d t :=
        ⟨forall_strings_str.mp hstrings, fun hno => absurd hhalves (by simp [hno])⟩
      rw [writeAt, writeString_eq]
      exact readWith_scalar inside (j := .str t) hlegible (.str (spellsString_flatMap _ t)) trivial
  | arr items => exact hfits.elim
  | obj members => exact hfits.elim

/-- A value is read from its text, on every level of indentation. Induction
on how deep containers may nest: a container is written as its parts with
the blanks of the layout, and each part is read with the level below. Halves
of surrogate pairs may be in the strings, as long as no two of them meet. -/
theorem readValue_writeAt (hhalves : d.takesHalves = true) (hlimits : d.limitsAll = false)
    {depth : Nat} (level : Nat) {j : Json} (hfits : Fits depth j)
    (hstrings : ∀ t ∈ j.strings, Unpaired t) {rest : Text} (hrest : Ends rest) :
    readValue d depth (writeAt style level j ++ rest) = .ok (j, rest) := by
  induction depth generalizing j level rest with
  | zero => exact readWith_writeAt hhalves hlimits _ level hfits hstrings hrest
  | succ depth ih =>
      cases j with
      | null => exact readWith_writeAt (j := .null) hhalves hlimits _ level trivial hstrings hrest
      | bool b =>
          exact readWith_writeAt (j := .bool b) hhalves hlimits _ level trivial hstrings hrest
      | int n => exact readWith_writeAt (j := .int n) hhalves hlimits _ level hfits hstrings hrest
      | float x =>
          exact readWith_writeAt (j := .float x) hhalves hlimits _ level trivial hstrings hrest
      | str t =>
          exact readWith_writeAt (j := .str t) hhalves hlimits _ level trivial hstrings hrest
      | arr items =>
          rw [forall_strings_arr] at hstrings
          by_cases hne : items = []
          · subst hne
            rw [writeAt, writeItems_eq_map]
            exact readContainer_blanks (readContent d (readValue d depth)) .array blanks_nil rest
          -- The items as they are written, with the blanks of the layout around them.
          obtain ⟨parts, hparts, hvalues, hpad, htext, heq⟩ := exists_itemParts style level hne
          have hmem : ∀ p ∈ parts, p.value ∈ items := fun p hp =>
            hvalues ▸ List.mem_map_of_mem hp
          rw [heq, List.cons_append, List.cons_append, List.append_assoc, ← hvalues]
          refine readContainer_array hparts hpad (fun p hp => ?_) (fun p hp s hs => ?_) rest
          · exact htext p hp ▸ starts_writeAt style (level + 1) p.value
          · rw [htext p hp]
            exact ih (level + 1) (hfits _ (hmem p hp)) (hstrings _ (hmem p hp)) hs
      | obj members =>
          rw [forall_strings_obj] at hstrings
          by_cases hne : members = []
          · subst hne
            rw [writeAt, writeMembers_eq_map]
            exact readContainer_blanks (readContent d (readValue d depth)) .object blanks_nil rest
          obtain ⟨parts, hparts, hmembers, hpad, htext, heq⟩ := exists_memberParts style level hne
          obtain ⟨hkeys, hvalues⟩ := hfits
          have hmem : ∀ p ∈ parts, p.member ∈ members := fun p hp =>
            hmembers ▸ List.mem_map_of_mem hp
          rw [heq, List.cons_append, List.cons_append, List.append_assoc, ← hmembers]
          refine readContainer_object hparts hpad (hmembers ▸ hkeys) (fun p hp => ?_)
            (fun p hp => ?_) (fun p hp s hs => ?_) rest
          · exact ⟨(hstrings _ (hmem p hp)).1, fun hno => absurd hhalves (by simp [hno])⟩
          · exact htext p hp ▸ starts_writeAt style (level + 1) p.item.value
          · rw [htext p hp]
            exact ih (level + 1) (hvalues _ (hmem p hp)) (hstrings _ (hmem p hp)).2 hs

/-! ### Whole texts -/

/-- A text of one line gives its value back if no halves of a pair meet in a
string, and only then. Halves that meet are written as two escapes, which
are read as the one code point that they make. -/
theorem parse_write_iff {j : Json} (hfits : Fits Dialect.common.nesting j) :
    parse (j.write .oneLine) = .ok j ↔ ∀ t ∈ j.strings, Unpaired t := by
  have hstart := starts_writeAt .oneLine 0 j
  constructor
  · intro h
    obtain ⟨left, hread⟩ := exists_readFront_of_parse h
    have hskip := hstart.skipSpace_append blanks_nil []
    rw [List.nil_append, List.append_nil] at hskip
    rw [write, hskip] at hread
    exact unpaired_of_readValue (isWhole_write_of_escapesAll rfl j) hread
  · intro hstrings
    have hread : readFront .common (writeAt .oneLine 0 j ++ []) = .ok (j, []) :=
      readValue_writeAt rfl rfl 0 hfits hstrings (by simp [Ends])
    rw [List.append_nil] at hread
    -- What is written does not begin with a mark of the byte order.
    refine parse_of_readFront hstart ?_ hread
    obtain ⟨c, s, htext, hc⟩ := exists_cons_writeAt .oneLine 0 j
    rw [write, htext, List.head?_cons]
    intro hmark
    obtain rfl := Option.some.inj hmark
    exact absurd hc (by decide)

end DocScribe.Json
