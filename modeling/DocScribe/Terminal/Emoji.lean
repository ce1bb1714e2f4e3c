import DocScribe.Terminal.EmojiTable
import DocScribe.Text.Blank
import DocScribe.Text.LetterCase

/-!
# `DocScribe.Terminal.Emoji`: emoji named between colons

A name between two colons shows the emoji with that name, whatever the
case of its letters. A name may end in `-emoji` or `-text`, which asks
for the coloured or for the plain form. What names no emoji stays as
it is, and its second colon begins no other name.
-/

set_option autoImplicit false

namespace DocScribe.Emoji

/-- What may stand in a name. -/
def isInName (c : CodePoint) : Bool :=
  c != ':' && !c.isBlank

/-- The name behind a colon, and what follows the colon at its
end. -/
def name? (t : Text) : Option (Text × Text) :=
  (Text.after? ":" (t.dropWhile isInName)).map fun rest => (t.takeWhile isInName, rest)

/-- The endings that ask for a form, and the code points that choose
it. -/
def forms : List (Text × CodePoint) :=
  [("-emoji", ⟨0xFE0F, by decide⟩), ("-text", ⟨0xFE0E, by decide⟩)]

/-- A name without the ending that asks for a form, and what chooses
that form. -/
def cutForm (name : Text) : Text × Text :=
  match forms.find? fun form => form.1.isSuffixOf name with
  | some form => (name.take (name.length - form.1.length), [form.2])
  | none => (name, [])

/-- What a name shows. -/
def shown? (name : Text) : Option Text :=
  let (plain, form) := cutForm name
  let wanted := plain.toSmall.toString
  (EmojiTable.entries.find? fun entry => entry.1 == wanted).map fun entry =>
    Text.ofString entry.2 ++ form

/-- A text with the emoji that it names, `fuel` code points far. -/
def replaceWithin : Nat → Text → Text
  | 0, t => t
  | _, [] => []
  | fuel + 1, c :: rest =>
    if c = ':' then
      match name? rest with
      | some (name, behind) =>
        (shown? name).getD (c :: name ++ [c]) ++ replaceWithin fuel behind
      | none => c :: replaceWithin fuel rest
    else c :: replaceWithin fuel rest

/-- A text with the emoji that it names. -/
def replace (t : Text) : Text :=
  replaceWithin t.length t

end DocScribe.Emoji
