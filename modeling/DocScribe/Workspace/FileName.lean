import DocScribe.Text.Utf8

/-!
# `DocScribe.Workspace.FileName`: the bytes of a file name

A file system takes names as bytes. A name is held as the text that its
bytes spell; a byte that is part of no text has a surrogate of its own
in the place of a code point. Other surrogates stand in no name.
-/

set_option autoImplicit false

namespace DocScribe.FileName

/-- Surrogates that stand for one byte each. -/
def standsForByte (c : CodePoint) : Bool :=
  0xDC80 ≤ c.val && c.val ≤ 0xDCFF

/-- The bytes of a name. -/
def bytes (name : Text) : List UInt8 :=
  name.flatMap fun c => if standsForByte c then [(c.val - 0xDC00).toUInt8] else Utf8.encodeOne c

/-- How many bytes a name takes. -/
def size (name : Text) : Nat :=
  total (name.map fun c => if standsForByte c then 1 else (Utf8.encodeOne c).length)

/-- Whether a code point can occur in a name at all. -/
def cannotBeSpelled (c : CodePoint) : Bool :=
  c.isSurrogate && !standsForByte c

/-- The first surrogates that keep a text from being a name, if it has
any. -/
def encodeError? (t : Text) : Option Utf8.EncodeError :=
  match t.dropWhile (fun c => !cannotBeSpelled c) with
  | [] => none
  | c :: rest =>
    some
      { first := c
        position := t.length - (rest.length + 1)
        count := 1 + (rest.takeWhile CodePoint.isSurrogate).length }

/-- A name as it is shown: bytes that spell no text are marked. -/
def shown (name : Text) : Text :=
  Utf8.decodeMarking (bytes name)

/-- The marks of two bytes that spell nothing. -/
example :
    (shown [⟨0xDC80, by decide⟩, ⟨0xDCFF, by decide⟩]).map CodePoint.val = [0xFFFD, 0xFFFD] := by
  decide

end DocScribe.FileName
