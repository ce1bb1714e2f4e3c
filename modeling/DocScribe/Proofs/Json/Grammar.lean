import DocScribe.Json.Reader
import DocScribe.Json.Writer

/-!
# `DocScribe.Proofs.Json.Grammar`: the texts of a JSON value

Which texts spell a value, said without the reader and without the
writer. `Spells j t` leaves open what JSON leaves open: which blanks
stand around the parts of a container, and in which of the allowed
ways each code point of a string is written. The reader is held
against it in `Proofs/Json/Reading.lean`, the writer in
`Proofs/Json/Writing.lean`.

Two things are kept out of the relation and put into `Legible`,
because they depend on who reads: how deep containers nest, how long
an integer is, which strings a dialect takes. A string in which the
first half of a surrogate pair stands directly before a second half
is legible to nobody, since the two would be read as one code point.

Numbers with a point have no spelling here. No record holds one.
-/

set_option autoImplicit false

namespace DocScribe.Json

/-! ### Spellings -/

/-- Nothing but blanks. -/
def Blanks (s : Text) : Prop := ∀ c ∈ s, isSpace c = true

/-- An empty text is blank. -/
theorem blanks_nil : Blanks [] := List.forall_mem_nil _

/-- A space is blank. -/
theorem blanks_space : Blanks " " := List.forall_mem_singleton.mpr (by decide)

/-- Four hexadecimal digits of either case with a value. -/
inductive SpellsUnit : Nat → Text → Prop
  | quad {a b c d : CodePoint} {p q r s : Nat} (ha : a.hexValue? = some p)
      (hb : b.hexValue? = some q) (hc : c.hexValue? = some r) (hd : d.hexValue? = some s) :
      SpellsUnit (p * 4096 + q * 256 + r * 16 + s) [a, b, c, d]

/-- The ways of writing one code point inside a string: as it is, by
its letter, by its number, or by the numbers of a surrogate pair. -/
inductive SpellsPoint : CodePoint → Text → Prop
  | plain {c : CodePoint} (hlow : 0x20 ≤ c.val) (hquote : c ≠ .quoteSign)
      (hslash : c ≠ .backslash) : SpellsPoint c [c]
  | letter {c e : CodePoint} (h : shortEscape? e = some c) : SpellsPoint c [.backslash, e]
  | number {c : CodePoint} {quad : Text} (h : SpellsUnit c.val quad) :
      SpellsPoint c (.backslash :: CodePoint.ofChar 'u' :: quad)
  | pair {c : CodePoint} {high low : Nat} {quad quad' : Text} (hhigh : 0xD800 ≤ high)
      (hhigh' : high ≤ 0xDBFF) (hlow : 0xDC00 ≤ low) (hlow' : low ≤ 0xDFFF)
      (hval : c.val = 0x10000 + (high - 0xD800) * 0x400 + (low - 0xDC00))
      (h : SpellsUnit high quad) (h' : SpellsUnit low quad') :
      SpellsPoint c
        (.backslash :: CodePoint.ofChar 'u'
          :: (quad ++ .backslash :: CodePoint.ofChar 'u' :: quad'))

/-- The spellings of a string without its marks. -/
inductive SpellsString : Text → Text → Prop
  | nil : SpellsString [] []
  | cons {c : CodePoint} {t piece s : Text} (h : SpellsPoint c piece) (hs : SpellsString t s) :
      SpellsString (c :: t) (piece ++ s)

/-- A string with its marks. -/
def quotedText (s : Text) : Text := .quoteSign :: s ++ [.quoteSign]

/-- One item of an array as it is written: a value, its text, and the
blanks on both sides. -/
structure ItemPart where
  value : Json
  before : Text
  text : Text
  after : Text

namespace ItemPart

/-- What stands between two commas. -/
def padded (p : ItemPart) : Text := p.before ++ p.text ++ p.after

/-- The blanks are blank. -/
def IsPadded (p : ItemPart) : Prop := Blanks p.before ∧ Blanks p.after

end ItemPart

/-- One member of an object as it is written: a key in front of an
item, with blanks on both sides of the key. -/
structure MemberPart where
  key : Text
  before : Text
  keyText : Text
  after : Text
  item : ItemPart

namespace MemberPart

/-- What stands between two commas. -/
def padded (p : MemberPart) : Text :=
  p.before ++ quotedText p.keyText ++ p.after ++ CodePoint.ofChar ':' :: p.item.padded

/-- The blanks are blank and the key is spelled. -/
def IsPadded (p : MemberPart) : Prop :=
  Blanks p.before ∧ Blanks p.after ∧ p.item.IsPadded ∧ SpellsString p.key p.keyText

/-- The member that is written. -/
def member (p : MemberPart) : Text × Json := (p.key, p.item.value)

end MemberPart

/-- The texts of a value. -/
inductive Spells : Json → Text → Prop
  | null : Spells .null "null"
  | bool (b : Bool) : Spells (.bool b) (if b then "true" else "false")
  | int (n : Int) : Spells (.int n) (Text.ofInt n)
  | str {t s : Text} (h : SpellsString t s) : Spells (.str t) (quotedText s)
  | emptyArr {s : Text} (h : Blanks s) :
      Spells (.arr []) (CodePoint.ofChar '[' :: s ++ [CodePoint.ofChar ']'])
  | arr {parts : List ItemPart} (hne : parts ≠ []) (hpad : ∀ p ∈ parts, p.IsPadded)
      (h : ∀ p ∈ parts, Spells p.value p.text) :
      Spells (.arr (parts.map ItemPart.value))
        (CodePoint.ofChar '[' :: Text.joinWith "," (parts.map ItemPart.padded)
          ++ [CodePoint.ofChar ']'])
  | emptyObj {s : Text} (h : Blanks s) :
      Spells (.obj []) (CodePoint.ofChar '\x7b' :: s ++ [CodePoint.ofChar '\x7d'])
  | obj {parts : List MemberPart} (hne : parts ≠ []) (hpad : ∀ p ∈ parts, p.IsPadded)
      (h : ∀ p ∈ parts, Spells p.item.value p.item.text) :
      Spells (.obj (parts.map MemberPart.member))
        (CodePoint.ofChar '\x7b' :: Text.joinWith "," (parts.map MemberPart.padded)
          ++ [CodePoint.ofChar '\x7d'])

/-! ### What can be read -/

/-- No first half of a surrogate pair directly before a second
half. -/
def Unpaired : Text → Prop
  | [] => True
  | c :: t => (c.isHighSurrogate = true → ∀ d ∈ t.head?, d.isLowSurrogate = false) ∧ Unpaired t

/-- No surrogates. -/
def IsWhole (t : Text) : Prop := ∀ c ∈ t, c.isSurrogate = false

instance (t : Text) : Decidable (IsWhole t) :=
  inferInstanceAs (Decidable (∀ c ∈ t, c.isSurrogate = false))

/-- A string that a dialect can take. -/
def LegibleText (d : Dialect) (t : Text) : Prop :=
  Unpaired t ∧ (d.takesHalves = false → IsWhole t)

/-- A value that a dialect can take, with containers nested at most
`depth` deep and no key twice. -/
def Legible (d : Dialect) : Nat → Json → Prop
  | _, .null => True
  | _, .bool _ => True
  | _, .int n => (Text.ofNat n.natAbs).length ≤ digitLimit
  | _, .float _ => False
  | _, .str t => LegibleText d t
  | 0, .arr _ => False
  | 0, .obj _ => False
  | depth + 1, .arr items => ∀ item ∈ items, Legible d depth item
  | depth + 1, .obj members =>
    (members.map Prod.fst).Nodup ∧ ∀ m ∈ members, LegibleText d m.1 ∧ Legible d depth m.2

/-- What is no surrogate is no first half of a pair. -/
theorem isHighSurrogate_of_not_isSurrogate {c : CodePoint} (h : c.isSurrogate = false) :
    c.isHighSurrogate = false := by
  simp only [CodePoint.isSurrogate, CodePoint.isHighSurrogate, Bool.and_eq_false_iff,
    decide_eq_false_iff_not] at h ⊢
  omega

/-- A text without surrogates is legible to every dialect: there are no
halves in it that could meet, and none that a dialect could refuse. -/
theorem IsWhole.legibleText {t : Text} (h : IsWhole t) (d : Dialect) : LegibleText d t := by
  refine ⟨?_, fun _ => h⟩
  induction t with
  | nil => exact trivial
  | cons c t ih =>
      have hc := isHighSurrogate_of_not_isSurrogate (h c List.mem_cons_self)
      have ht : Unpaired t := ih fun x hx => h x (List.mem_cons_of_mem _ hx)
      exact ⟨fun hhigh => absurd hhigh (by simp [hc]), ht⟩

end DocScribe.Json
