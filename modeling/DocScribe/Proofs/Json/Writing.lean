import DocScribe.Proofs.Json.Grammar
import DocScribe.Proofs.Json.Members
import DocScribe.Proofs.Text.Digits
import DocScribe.Proofs.Text.Joining

/-!
# `DocScribe.Proofs.Json.Writing`: what is written is spelled

The text of a legible value spells the value, in every style
(`spells_writeAt`): an escape is one of the ways of writing its code
point, and line breaks, indentation and the blank behind a comma are
blanks.
-/

set_option autoImplicit false

namespace DocScribe.Json

/-! ### Strings -/

/-- Four digits filled up with zeros spell their number, as far as four
digits reach. -/
theorem spellsUnit_hex {n : Nat} (h : n < 0x10000) : SpellsUnit n (Text.hex 4 n) := by
  have hquad := SpellsUnit.quad (Text.hexValue?_digitPoint (n := n / 4096) (by omega))
    (Text.hexValue?_digitPoint (n := n / 256 % 16) (by omega))
    (Text.hexValue?_digitPoint (n := n / 16 % 16) (by omega))
    (Text.hexValue?_digitPoint (n := n % 16) (by omega))
  have hval : n / 4096 * 4096 + n / 256 % 16 * 256 + n / 16 % 16 * 16 + n % 16 = n := by omega
  rw [hval] at hquad
  rw [Text.hex_four h]
  exact hquad

/-- The escapes of both halves of a pair spell the code point that they
make together. -/
theorem spellsPoint_pair {c : CodePoint} {high low : Nat} (hhigh : 0xD800 ≤ high)
    (hhigh' : high ≤ 0xDBFF) (hlow : 0xDC00 ≤ low) (hlow' : low ≤ 0xDFFF)
    (hval : c.val = 0x10000 + (high - 0xD800) * 0x400 + (low - 0xDC00)) :
    SpellsPoint c (unitEscape high ++ unitEscape low) :=
  .pair hhigh hhigh' hlow hlow' hval (spellsUnit_hex (by omega)) (spellsUnit_hex (by omega))

/-- An escape by number spells its code point. Beyond four digits it takes
two of them, a pair of surrogates. -/
theorem spellsPoint_numberEscape (c : CodePoint) : SpellsPoint c (numberEscape c) := by
  have hlt := c.val_lt
  rw [numberEscape]
  split
  · next h => exact .number (spellsUnit_hex h)
  · next h => exact spellsPoint_pair (by omega) (by omega) (by omega) (by omega) (by omega)

/-- A code point is known by its number. -/
theorem eq_of_val_eq {c d : CodePoint} (h : c.val = d.val) : c = d := by
  cases c
  cases d
  simpa using h

/-- What is written for a code point inside a string spells it: by itself,
by a letter, or by number. Beyond the first plane it takes two numbers,
which are the halves of a pair. -/
theorem spellsPoint_stringChar (escapesAll : Bool) (c : CodePoint) :
    SpellsPoint c (stringChar escapesAll c) := by
  rw [stringChar]
  split
  · next h => rcases h with rfl | rfl <;> exact .letter (by decide)
  next hmark =>
  rw [not_or] at hmark
  -- Controls with a letter of their own come before those that are written by number.
  split
  · next h => exact h ▸ .letter (e := CodePoint.ofChar 'n') (by decide)
  split
  · next h => exact h ▸ .letter (e := CodePoint.ofChar 'r') (by decide)
  split
  · next h => exact h ▸ .letter (e := CodePoint.ofChar 't') (by decide)
  split
  · next h =>
    have hc : c = .backspace := eq_of_val_eq h
    exact hc ▸ .letter (e := CodePoint.ofChar 'b') (by decide)
  split
  · next h =>
    have hc : c = .formFeed := eq_of_val_eq h
    exact hc ▸ .letter (e := CodePoint.ofChar 'f') (by decide)
  split
  · exact spellsPoint_numberEscape c
  · next h =>
    rw [not_or] at h
    exact .plain (by omega) hmark.1 hmark.2

/-- What is written for a string spells it, code point by code point. A
style may escape more than it has to. -/
theorem spellsString_flatMap (escapesAll : Bool) (t : Text) :
    SpellsString t (t.flatMap (stringChar escapesAll)) := by
  induction t with
  | nil => exact .nil
  | cons c t ih =>
      rw [List.flatMap_cons]
      exact .cons (spellsPoint_stringChar escapesAll c) ih

/-- A string is written code point by code point, between quotation
marks. -/
theorem writeString_eq (escapesAll : Bool) (t : Text) :
    writeString escapesAll t = quotedText (t.flatMap (stringChar escapesAll)) := rfl

/-! ### Containers -/

/-- A line break and its indentation are blank, however deep it is. A style
without indentation has no line breaks, and an empty text is blank, too. -/
theorem blanks_break (style : Style) (level : Nat) : Blanks (style.break level) := by
  rw [Style.break]
  intro c hc
  split at hc
  · exact absurd hc (by simp)
  · rcases List.mem_cons.mp hc with rfl | hc
    · decide
    · rw [(List.mem_replicate.mp hc).2]
      decide

/-- Between two parts there are a comma and blanks. The blanks depend on the
style and on how deep the parts lie. -/
theorem exists_between (style : Style) (level : Nat) :
    ∃ blanks, Blanks blanks ∧ style.between level = CodePoint.ofChar ',' :: blanks := by
  rw [Style.between]
  split
  · exact ⟨_, blanks_space, rfl⟩
  · exact ⟨_, blanks_break style level, rfl⟩

/-- Cores that stand behind a comma and blanks each are parts with
blanks around them that stand behind a comma each. `part` puts blanks
around a core and `core` takes them off. -/
theorem exists_parts {α β : Type} (part : Text → α → Text → β) (core : β → α)
    (coreText : α → Text) (padded : β → Text) (hcore : ∀ a x b, core (part a x b) = x)
    (hpadded : ∀ a x b, padded (part a x b) = a ++ coreText x ++ b) {blanks trail : Text}
    (hblanks : Blanks blanks) (htrail : Blanks trail) (xs : List α) :
    xs ≠ [] → ∀ lead : Text, Blanks lead →
      ∃ ps : List β, ps.map core = xs
        ∧ (∀ p ∈ ps, ∃ a b, Blanks a ∧ Blanks b ∧ p = part a (core p) b)
        ∧ Text.joinWith "," (ps.map padded)
          = lead ++ Text.joinWith (CodePoint.ofChar ',' :: blanks) (xs.map coreText) ++ trail := by
  induction xs with
  | nil => exact fun hne => absurd rfl hne
  | cons x xs ih =>
      intro _ lead hlead
      cases xs with
      | nil =>
          refine ⟨[part lead x trail], ?_, ?_, ?_⟩
          · simp [hcore]
          · intro p hp
            rw [List.mem_singleton.mp hp, hcore]
            exact ⟨lead, trail, hlead, htrail, rfl⟩
          · simp [Text.joinWith, hpadded]
      | cons y ys =>
          obtain ⟨ps, hps, hblank, hjoin⟩ := ih (by simp) blanks hblanks
          have hne : ps.map padded ≠ [] := by
            intro hnil
            rw [List.map_eq_nil_iff.mp hnil] at hps
            exact absurd hps (by simp)
          obtain ⟨q, qs, hqs⟩ := List.exists_cons_of_ne_nil hne
          -- The blanks behind the comma go to the next part, so none are left behind `x`.
          refine ⟨part lead x [] :: ps, ?_, ?_, ?_⟩
          · simp [hcore, hps]
          · intro p hp
            rcases List.mem_cons.mp hp with rfl | hp
            · exact ⟨lead, [], hlead, blanks_nil, by rw [hcore]⟩
            · exact hblank p hp
          · rw [List.map_cons, hqs, Text.joinWith, ← hqs, hjoin, hpadded]
            simp only [List.map_cons, Text.joinWith, List.append_nil, List.append_assoc,
              List.cons_append]
            rfl

/-- Items are written one by one, each without looking at its neighbours. -/
theorem writeItems_eq_map (style : Style) (level : Nat) (items : List Json) :
    writeItems style level items = items.map (writeAt style level) := by
  induction items with
  | nil => rw [writeItems, List.map_nil]
  | cons item items ih => rw [writeItems, ih, List.map_cons]

/-- The text of one member. -/
def memberText (style : Style) (level : Nat) (m : Text × Json) : Text :=
  writeString style.escapesAll m.1 ++ ": " ++ writeAt style level m.2

/-- Members are written one by one, each with its key in front. So what is
written of a member can be said without its neighbours. -/
theorem writeMembers_eq_map (style : Style) (level : Nat) (members : Members) :
    writeMembers style level members = members.map (memberText style level) := by
  induction members with
  | nil => rw [writeMembers, List.map_nil]
  | cons m members ih =>
      rw [writeMembers, ih, List.map_cons]
      rfl

/-- A container with content has its line breaks inside the marks, and its
parts on a level of their own. -/
theorem enclose_of_ne_nil (style : Style) (level : Nat) (opening closing : CodePoint)
    {parts : List Text} (h : parts ≠ []) :
    style.enclose level opening closing parts
      = opening :: (style.break (level + 1) ++ Text.joinWith (style.between (level + 1)) parts
          ++ style.break level) ++ [closing] := by
  have hempty : parts.isEmpty = false := by
    cases parts with
    | nil => exact absurd rfl h
    | cons part parts => rfl
  rw [Style.enclose, hempty]
  simp

/-- What is written for an array with items, seen as parts between
commas. -/
theorem exists_itemParts (style : Style) (level : Nat) {items : List Json} (hne : items ≠ []) :
    ∃ parts : List ItemPart, parts ≠ [] ∧ parts.map ItemPart.value = items
      ∧ (∀ p ∈ parts, p.IsPadded) ∧ (∀ p ∈ parts, p.text = writeAt style (level + 1) p.value)
      ∧ writeAt style level (.arr items)
        = CodePoint.ofChar '[' :: Text.joinWith "," (parts.map ItemPart.padded)
          ++ [CodePoint.ofChar ']'] := by
  rw [writeAt, writeItems_eq_map, enclose_of_ne_nil _ _ _ _ (by simpa using hne)]
  obtain ⟨blanks, hblanks, hbetween⟩ := exists_between style (level + 1)
  obtain ⟨parts, hvalues, hparts, hjoin⟩ :=
    exists_parts (fun a item b => ItemPart.mk item a (writeAt style (level + 1) item) b)
      ItemPart.value (writeAt style (level + 1)) ItemPart.padded (fun _ _ _ => rfl)
      (fun _ _ _ => rfl) hblanks (blanks_break style level) items hne _
      (blanks_break style (level + 1))
  refine ⟨parts, fun hnil => ?_, hvalues, fun p hp => ?_, fun p hp => ?_, ?_⟩
  · exact hne (by rw [← hvalues, hnil, List.map_nil])
  · obtain ⟨a, b, ha, hb, heq⟩ := hparts p hp
    rw [heq]
    exact ⟨ha, hb⟩
  · obtain ⟨a, b, _, _, heq⟩ := hparts p hp
    rw [heq]
  · -- Seen as parts, the commas stand by themselves.
    rw [hbetween, ← hjoin]

/-- What is written for an object with members, seen as parts between
commas. -/
theorem exists_memberParts (style : Style) (level : Nat) {members : Members} (hne : members ≠ []) :
    ∃ parts : List MemberPart, parts ≠ [] ∧ parts.map MemberPart.member = members
      ∧ (∀ p ∈ parts, p.IsPadded)
      ∧ (∀ p ∈ parts, p.item.text = writeAt style (level + 1) p.item.value)
      ∧ writeAt style level (.obj members)
        = CodePoint.ofChar '\x7b' :: Text.joinWith "," (parts.map MemberPart.padded)
          ++ [CodePoint.ofChar '\x7d'] := by
  rw [writeAt, writeMembers_eq_map, enclose_of_ne_nil _ _ _ _ (by simpa using hne)]
  obtain ⟨blanks, hblanks, hbetween⟩ := exists_between style (level + 1)
  obtain ⟨parts, hvalues, hparts, hjoin⟩ :=
    exists_parts
      -- Behind the key comes the colon at once, and one blank behind that.
      (fun a m b => MemberPart.mk m.1 a (m.1.flatMap (stringChar style.escapesAll)) []
        ⟨m.2, " ", writeAt style (level + 1) m.2, b⟩)
      MemberPart.member (memberText style (level + 1)) MemberPart.padded (fun _ _ _ => rfl)
      (fun _ _ _ => by
        simp only [MemberPart.padded, ItemPart.padded, memberText, writeString_eq,
          List.append_nil, List.append_assoc]
        rfl)
      hblanks (blanks_break style level) members hne _ (blanks_break style (level + 1))
  refine ⟨parts, fun hnil => ?_, hvalues, fun p hp => ?_, fun p hp => ?_, ?_⟩
  · exact hne (by rw [← hvalues, hnil, List.map_nil])
  · obtain ⟨a, b, ha, hb, heq⟩ := hparts p hp
    rw [heq]
    exact ⟨ha, blanks_nil, ⟨blanks_space, hb⟩, spellsString_flatMap _ _⟩
  · obtain ⟨a, b, _, _, heq⟩ := hparts p hp
    rw [heq]
  · rw [hbetween, ← hjoin]

/-- What is written for an array spells it, if that holds for the
items. -/
theorem spells_writeAt_arr {style : Style} {level : Nat} {items : List Json}
    (h : ∀ item ∈ items, Spells item (writeAt style (level + 1) item)) :
    Spells (.arr items) (writeAt style level (.arr items)) := by
  by_cases hne : items = []
  · subst hne
    rw [writeAt, writeItems_eq_map]
    exact .emptyArr blanks_nil
  obtain ⟨parts, hparts, hvalues, hpad, htext, heq⟩ := exists_itemParts style level hne
  rw [heq, ← hvalues]
  refine .arr hparts hpad fun p hp => ?_
  rw [htext p hp]
  exact h p.value (hvalues ▸ List.mem_map_of_mem hp)

/-- What is written for an object spells it, if that holds for the
values of its members. -/
theorem spells_writeAt_obj {style : Style} {level : Nat} {members : Members}
    (h : ∀ m ∈ members, Spells m.2 (writeAt style (level + 1) m.2)) :
    Spells (.obj members) (writeAt style level (.obj members)) := by
  by_cases hne : members = []
  · subst hne
    rw [writeAt, writeMembers_eq_map]
    exact .emptyObj blanks_nil
  obtain ⟨parts, hparts, hmembers, hpad, htext, heq⟩ := exists_memberParts style level hne
  rw [heq, ← hmembers]
  refine .obj hparts hpad fun p hp => ?_
  rw [htext p hp]
  exact h p.member (hmembers ▸ List.mem_map_of_mem hp)

/-- What is written for a legible value spells it, in every style and
on every level. -/
theorem spells_writeAt {d : Dialect} (style : Style) :
    ∀ (depth level : Nat) (j : Json), Legible d depth j → Spells j (writeAt style level j)
  | _, _, .null, _ => by rw [writeAt]; exact .null
  | _, _, .bool true, _ => by rw [writeAt]; exact .bool true
  | _, _, .bool false, _ => by rw [writeAt]; exact .bool false
  | _, _, .int n, _ => by rw [writeAt]; exact .int n
  | 0, _, .float _, hj => absurd hj (by simp [Legible])
  | _ + 1, _, .float _, hj => absurd hj (by simp [Legible])
  | _, _, .str t, _ => by
    rw [writeAt, writeString_eq]
    exact .str (spellsString_flatMap _ t)
  | 0, _, .arr _, hj => absurd hj (by simp [Legible])
  | 0, _, .obj _, hj => absurd hj (by simp [Legible])
  | depth + 1, level, .arr items, hj => by
    rw [Legible] at hj
    exact spells_writeAt_arr fun item hitem =>
      spells_writeAt style depth (level + 1) item (hj item hitem)
  | depth + 1, level, .obj members, hj => by
    rw [Legible] at hj
    exact spells_writeAt_obj fun m hm =>
      spells_writeAt style depth (level + 1) m.2 (hj.2 m hm).2

end DocScribe.Json
