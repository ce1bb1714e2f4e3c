import DocScribe.Json.Writer
import DocScribe.Settings.Words.Flaw
import DocScribe.Text.Numeral
import DocScribe.Validation.Spelled

/-!
# `DocScribe.Settings.Words.Items`: lists in words

A word may hold several items of a list with commas between them, with
or without brackets around. An item is written as in JSON, or as plain
text; numbers, `true`, `false` and `null` are no plain texts. Where
nothing stands in front of a comma, or behind the last one, there is an
empty text.

`merged` makes one JSON text of the words for one setting. Whether it
is one that can be read is not decided here.
-/

set_option autoImplicit false

namespace DocScribe.Settings.Words

/-- What the word for no value is in JSON. -/
def nullWord : Text := "null"

/-- An empty text in JSON. -/
def emptyItem : Text := "\"\""

/-! ### Numbers -/

/-- Whether low lines stand between digits only; `behindDigit` says
whether a digit is in front. -/
def partsDigits (behindDigit : Bool) : Text → Bool
  | [] => true
  | c :: rest =>
    if c = '_' then
      behindDigit && (rest.head?.any CodePoint.isDigit) && partsDigits false rest
    else partsDigits c.isDigit rest

/-- Whether a text is a number, in digits of any script. -/
def isNumber (t : Text) : Bool :=
  let plain := t.withAsciiDigits
  partsDigits false plain
    && (Spelled.plainNumber? (plain.filter fun (c : CodePoint) => c != '_')).isSome

/-! ### Items -/

/-- An item in JSON, where `noneWord?` stands for no value. -/
def itemOf (noneWord? : Option Text) (part : Text) : Text :=
  let t := part.trim
  if isNumber t then t
  else if noneWord? = some t then nullWord
  else if t = nullWord ∨ t = Text.ofString "true" ∨ t = Text.ofString "false"
      ∨ t.head? = some .quoteSign then t
  else Json.writeString true t

/-- The rest of a plain item, up to a comma that is in no quotation
marks, and what follows; nothing if a quotation mark has no
counterpart. -/
def cutPlain? (quoted : Bool) (before : CodePoint) : Text → Option (Text × Text)
  | [] => if quoted then none else some ([], [])
  | c :: rest =>
    if c = ',' ∧ !quoted then some ([], c :: rest)
    else
      let turns := c = .quoteSign ∧ before ≠ .backslash
      (cutPlain? (if turns then !quoted else quoted) c rest).map fun cut => (c :: cut.1, cut.2)

/-- The rest of an item in brackets, up to the bracket that closes it,
and what follows, if there is such a bracket. -/
def cutBracketed? (closing : CodePoint) (depth : Int) (quoted : Bool) (before : CodePoint) :
    Text → Option (Text × Text)
  | [] => none
  | c :: rest =>
    let go (depth : Int) (quoted : Bool) :=
      (cutBracketed? closing depth quoted c rest).map fun cut => (c :: cut.1, cut.2)
    if c = .quoteSign ∧ before ≠ .backslash then go depth !quoted
    else if quoted then go depth quoted
    else if c = '[' ∨ c = '\x7b' then go (depth + 1) quoted
    else if c = ']' ∨ c = '\x7d' then
      -- Brackets of both kinds are counted together; only the last one has to be of its kind.
      if c = closing ∧ depth = 1 then some ([c], rest) else go (depth - 1) quoted
    else go depth quoted

/-- An item and what follows it make up the text. So no part of what was
written is lost or read twice. -/
theorem append_cutPlain? {quoted : Bool} {before : CodePoint} {t : Text} {cut : Text × Text}
    (h : cutPlain? quoted before t = some cut) : cut.1 ++ cut.2 = t := by
  induction t generalizing quoted before cut with
  | nil =>
    cases quoted <;> simp [cutPlain?] at h
    simp [← h]
  | cons c rest ih =>
    simp only [cutPlain?] at h
    split at h
    · simp only [Option.some.injEq] at h
      simp [← h]
    · obtain ⟨inner, found, rfl⟩ := Option.map_eq_some_iff.1 h
      simp [ih found]

/-- An item in brackets and what follows it make up the text. Brackets and
quotation marks only decide where the item ends. -/
theorem append_cutBracketed? {closing : CodePoint} {depth : Int} {quoted : Bool}
    {before : CodePoint} {t : Text} {cut : Text × Text}
    (h : cutBracketed? closing depth quoted before t = some cut) : cut.1 ++ cut.2 = t := by
  induction t generalizing depth quoted before cut with
  | nil => simp [cutBracketed?] at h
  | cons c rest ih =>
    have step {depth : Int} {quoted : Bool}
        (longer : (cutBracketed? closing depth quoted c rest).map
          (fun cut => (c :: cut.1, cut.2)) = some cut) : cut.1 ++ cut.2 = c :: rest := by
      obtain ⟨inner, found, rfl⟩ := Option.map_eq_some_iff.1 longer
      simp [ih found]
    simp only [cutBracketed?] at h
    split at h
    · exact step h
    · split at h
      · exact step h
      · split at h
        · exact step h
        · split at h
          · split at h
            · simp only [Option.some.injEq] at h
              simp [← h]
            · exact step h
          · exact step h

/-- The bracket that closes what another one opens. -/
def closingOf? (c : CodePoint) : Option CodePoint :=
  if c = '[' then some (CodePoint.ofChar ']')
  else if c = '\x7b' then some (CodePoint.ofChar '\x7d')
  else none

/-- The items of a text and whether the last part is an item and no
comma. That is known of what comes before, too. -/
def itemsOf (noneWord? : Option Text) (behindItem : Bool) (t : Text) :
    Except ItemFlaw (List Text × Bool) :=
  match h : t.dropWhile CodePoint.isBlank with
  | [] => .ok ([], behindItem)
  | c :: rest =>
    have shorter : rest.length < t.length := by
      have := (List.dropWhile_suffix CodePoint.isBlank (l := t)).length_le
      rw [h] at this
      exact this
    let withItem (item : Text) (found : List Text × Bool) := (item :: found.1, found.2)
    if c = ',' then
      -- The item in front of this comma is one that was read, or the empty text.
      (itemsOf noneWord? false rest).map (if behindItem then id else withItem emptyItem)
    else
      match closingOf? c with
      | some closing =>
        match cut : cutBracketed? closing 1 false c rest with
        | some (part, behind) =>
          have : behind.length ≤ rest.length := by simp [← append_cutBracketed? cut]
          (itemsOf noneWord? true behind).map (withItem (c :: part))
        | none => .error (.unclosed closing)
      | none =>
        match cut : cutPlain? (c == .quoteSign) c rest with
        | some (part, behind) =>
          have : behind.length ≤ rest.length := by simp [← append_cutPlain? cut]
          (itemsOf noneWord? true behind).map (withItem (itemOf noneWord? (c :: part)))
        | none => .error .openQuotes
termination_by t.length
decreasing_by all_goals first | exact shorter | exact Nat.lt_of_le_of_lt this shorter

/-- A text without brackets around it, if it has some, and without
blanks around either. -/
def withoutBrackets (t : Text) : Text :=
  let trimmed := t.trim
  match Text.after? "[" trimmed with
  | some behind =>
    if behind.getLast? = some (CodePoint.ofChar ']') then Text.trim behind.dropLast else trimmed
  | none => trimmed

/-- The items of all words. -/
def allItems (noneWord? : Option Text) (behindItem : Bool) :
    List Text → Except ItemFlaw (List Text)
  | [] => .ok []
  | word :: words => do
    let (items, endsWithItem) ← itemsOf noneWord? behindItem (withoutBrackets word)
    let last := if endsWithItem then [] else [emptyItem]
    pure (items ++ last ++ (← allItems noneWord? endsWithItem words))

/-- The list that words spell, in JSON. -/
def merged (noneWord? : Option Text) (words : List Text) : Except ItemFlaw Text := do
  pure ("[" ++ Text.joinWith "," (← allItems noneWord? false words) ++ "]")

example : isNumber "1_0" = true := by decide +kernel
example : isNumber "1__0" = false := by decide +kernel
example : itemOf (some nullWord) " a b " = Text.ofString "\"a b\"" := by decide +kernel

end DocScribe.Settings.Words
