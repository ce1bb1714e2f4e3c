import DocScribe.Text.Quoted

/-!
# `DocScribe.Text.Utf8`: texts as bytes

Files hold UTF-8. Reading refuses overlong forms, surrogates and cut
sequences, and says where, or marks them and goes on; writing refuses
surrogates.
-/

set_option autoImplicit false

namespace DocScribe.Utf8

/-- What is wrong with a byte sequence. -/
inductive Defect where
  | badStart
  | badContinuation
  | cut
deriving DecidableEq, Repr

/-- A place that cannot be read: the position of the sequence, how
many of its bytes are at fault, and the first of them. -/
structure DecodeError where
  defect : Defect
  position : Nat
  count : Nat
  byte : UInt8
deriving DecidableEq, Repr

namespace Defect

def message : Defect → Text
  | .badStart => "invalid start byte"
  | .badContinuation => "invalid continuation byte"
  | .cut => "unexpected end of data"

end Defect

def DecodeError.message (e : DecodeError) : Text :=
  (if e.count = 1 then
      "'utf-8' codec can't decode byte 0x" ++ Text.hex 2 e.byte.toNat ++ " in position "
        ++ Text.ofNat e.position
    else
      "'utf-8' codec can't decode bytes in position " ++ Text.ofNat e.position ++ "-"
        ++ Text.ofNat (e.position + e.count - 1))
    ++ ": " ++ e.defect.message

/-- Whether a byte continues a sequence. -/
def isContinuation (b : Nat) : Bool :=
  0x80 ≤ b && b ≤ 0xBF

/-- Whether `b` may follow the first byte `a` of a longer sequence.
The narrower bounds after four of the first bytes refuse overlong
forms, surrogates, and numbers beyond the last code point. -/
def isSecond (a b : Nat) : Bool :=
  isContinuation b && (a != 0xE0 || 0xA0 ≤ b) && (a != 0xED || b ≤ 0x9F)
    && (a != 0xF0 || 0x90 ≤ b) && (a != 0xF4 || b ≤ 0x8F)

/-- The length of the sequence that a byte starts. -/
def sequenceLength (a : Nat) : Option Nat :=
  if a ≤ 0x7F then some 1
  else if 0xC2 ≤ a && a ≤ 0xDF then some 2
  else if 0xE0 ≤ a && a ≤ 0xEF then some 3
  else if 0xF0 ≤ a && a ≤ 0xF4 then some 4
  else none

/-- The six low bits of a continuation byte. -/
def payload (b : Nat) : Nat := b - 0x80

/-- The code point at the front of a byte list and what follows it;
on failure the defect and how many bytes it covers. -/
def decodeOne (a : Nat) (rest : List UInt8) : Except (Defect × Nat) (CodePoint × List UInt8) :=
  match sequenceLength a with
  | none => .error (.badStart, 1)
  | some 1 => .ok (CodePoint.ofNatD a, rest)
  | some n =>
    -- The fault covers what was right so far: the byte that does not fit may begin a sequence.
    match rest with
    | [] => .error (.cut, 1)
    | b :: rest =>
      if !isSecond a b.toNat then .error (.badContinuation, 1)
      else if n = 2 then .ok (CodePoint.ofNatD ((a - 0xC0) * 64 + payload b.toNat), rest)
      else
        match rest with
        | [] => .error (.cut, 2)
        | c :: rest =>
          if !isContinuation c.toNat then .error (.badContinuation, 2)
          else if n = 3 then
            .ok (CodePoint.ofNatD ((a - 0xE0) * 4096 + payload b.toNat * 64 + payload c.toNat),
              rest)
          else
            match rest with
            | [] => .error (.cut, 3)
            | d :: rest =>
              if !isContinuation d.toNat then .error (.badContinuation, 3)
              else
                .ok (CodePoint.ofNatD ((a - 0xF0) * 262144 + payload b.toNat * 4096
                  + payload c.toNat * 64 + payload d.toNat), rest)

/-- Reading `fuel` code points or to the end, `position` bytes into
the whole; the points read so far stand in reverse. -/
def decodeFrom : Nat → Nat → List UInt8 → Text → Except DecodeError Text
  | 0, _, _, read => .ok read.reverse
  | _, _, [], read => .ok read.reverse
  | fuel + 1, position, a :: rest, read =>
    match decodeOne a.toNat rest with
    | .error (defect, count) => .error ⟨defect, position, count, a⟩
    | .ok (c, rest') =>
      decodeFrom fuel (position + (sequenceLength a.toNat).getD 1) rest' (c :: read)

/-- The text that the bytes spell. -/
def decode (bytes : List UInt8) : Except DecodeError Text :=
  decodeFrom bytes.length 0 bytes []

/-- Reading `fuel` code points or to the end. What cannot be read is
marked, and reading goes on behind it. -/
def decodeMarkingWithin : Nat → List UInt8 → Text
  | 0, _ => []
  | _, [] => []
  | fuel + 1, a :: rest =>
    match decodeOne a.toNat rest with
    | .ok (c, rest') => c :: decodeMarkingWithin fuel rest'
    | .error (_, count) => .replacementMark :: decodeMarkingWithin fuel (rest.drop (count - 1))

/-- The text that the bytes spell, with a mark wherever they spell
none. -/
def decodeMarking (bytes : List UInt8) : Text :=
  decodeMarkingWithin bytes.length bytes

/-- Surrogates in a text that is to be written: where they stand and
how many follow each other. -/
structure EncodeError where
  first : CodePoint
  position : Nat
  count : Nat
deriving DecidableEq, Repr

def EncodeError.message (e : EncodeError) : Text :=
  (if e.count = 1 then
      "'utf-8' codec can't encode character '" ++ Text.quotedChar .apostrophe e.first
        ++ "' in position " ++ Text.ofNat e.position
    else
      "'utf-8' codec can't encode characters in position " ++ Text.ofNat e.position ++ "-"
        ++ Text.ofNat (e.position + e.count - 1))
    ++ ": surrogates not allowed"

/-- The bytes of a code point that is no surrogate. -/
def encodeOne (c : CodePoint) : List UInt8 :=
  let n := c.val
  if n < 0x80 then [n.toUInt8]
  else if n < 0x800 then [(0xC0 + n / 64).toUInt8, (0x80 + n % 64).toUInt8]
  else if n < 0x10000 then
    [(0xE0 + n / 4096).toUInt8, (0x80 + n / 64 % 64).toUInt8, (0x80 + n % 64).toUInt8]
  else
    [(0xF0 + n / 262144).toUInt8, (0x80 + n / 4096 % 64).toUInt8,
      (0x80 + n / 64 % 64).toUInt8, (0x80 + n % 64).toUInt8]

/-- The first surrogates of a text, if it has any. -/
def encodeError? (t : Text) : Option EncodeError :=
  match t.dropWhile (fun c => !c.isSurrogate) with
  | [] => none
  | c :: rest =>
    some
      { first := c
        position := t.length - (rest.length + 1)
        count := 1 + (rest.takeWhile CodePoint.isSurrogate).length }

/-- The bytes of a text without surrogates. -/
def encode (t : Text) : Except EncodeError (List UInt8) :=
  match encodeError? t with
  | some e => .error e
  | none => .ok (t.flatMap encodeOne)

end DocScribe.Utf8
