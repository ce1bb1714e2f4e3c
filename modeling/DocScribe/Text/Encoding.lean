import DocScribe.Text.CodePage
import DocScribe.Text.LetterCase
import DocScribe.Text.Utf8

/-!
# `DocScribe.Text.Encoding`: how a file writes its text

Most files hold UTF-8. One that does not may say how its bytes are to
be read: as ASCII, by a page of one byte to a code point, or in pairs of
bytes. An encoding goes by many names, in which letter case counts
nothing and all signs are low lines.
-/

set_option autoImplicit false

namespace DocScribe

/-- Which byte of a pair comes first. -/
inductive ByteOrder where
  | lowFirst
  | highFirst
deriving DecidableEq, Repr

/-- How bytes are read. -/
inductive Encoding where
  | utf8
  | ascii
  | latin
  | page (points : Text)
  /-- pairs of bytes; a mark in front says their order if nothing else
  does -/
  | pairs (order : Option ByteOrder)
deriving DecidableEq, Repr

namespace Encoding

/-! ### Faults -/

/-- Bytes that an encoding does not read: its name, what is wrong, where
they stand, how many they are, and the first of them. -/
structure BadBytes where
  encoding : Text
  reason : Text
  position : Nat
  count : Nat
  byte : UInt8
deriving DecidableEq, Repr

/-- Why a file cannot be read as it says. -/
inductive Fault where
  | unknown (name : Text)
  /-- what the name stands for does not make texts -/
  | noText (name : Text)
  | nullCharacter
  | unspellable (e : Utf8.EncodeError)
  | notUtf8 (e : Utf8.DecodeError)
  | badBytes (b : BadBytes)
  /-- pairs of bytes do not say their order -/
  | noMark
deriving DecidableEq, Repr

def BadBytes.message (b : BadBytes) : Text :=
  (if b.count = 1 then
      "'" ++ b.encoding ++ "' codec can't decode byte 0x" ++ Text.hex 2 b.byte.toNat
        ++ " in position " ++ Text.ofNat b.position
    else
      "'" ++ b.encoding ++ "' codec can't decode bytes in position " ++ Text.ofNat b.position ++ "-"
        ++ Text.ofNat (b.position + b.count - 1))
    ++ ": " ++ b.reason

namespace Fault

def message : Fault → Text
  | .unknown name => "unknown encoding: " ++ name
  | .noText name =>
    "'" ++ name ++ "' is not a text encoding; use codecs.open() to handle arbitrary codecs"
  | .nullCharacter => "embedded null character"
  | .unspellable e => e.message
  | .notUtf8 e => e.message
  | .badBytes b => b.message
  | .noMark => "UTF-16 stream does not start with BOM"

def typeName : Fault → Text
  | .unknown _ => "LookupError"
  | .noText _ => "LookupError"
  | .nullCharacter => "ValueError"
  | .unspellable _ => "UnicodeEncodeError"
  | .notUtf8 _ => "UnicodeDecodeError"
  | .badBytes _ => "UnicodeDecodeError"
  | .noMark => "UnicodeError"

end Fault

/-! ### Names -/

/-- What stays of a name: ASCII letters, digits and points, other signs
between them being one low line. `parted` says that signs stand in
front. -/
def keptOf (parted : Bool) : Text → Text
  | [] => []
  | c :: rest =>
    if c.isDigit || c.isAsciiLetter || c == '.' then
      (if parted then [CodePoint.ofChar '_', c] else [c]) ++ keptOf false rest
    else if c.val < 0x80 then keptOf true rest
    else keptOf parted rest

/-- A name in the form in which names are listed. -/
def listedName (name : Text) : Text :=
  let kept : Text := keptOf false (name.toSmall.dropWhile fun c =>
    !(c.isDigit || c.isAsciiLetter || c == '.') && c.val < 0x80)
  kept.map fun (c : CodePoint) => if c = '.' then CodePoint.ofChar '_' else c

/-- Encodings that are no pages, by their names. -/
def common : List (List Text × Encoding) :=
  [(["utf_8", "cp65001", "u8", "utf", "utf8", "utf8_ucs2", "utf8_ucs4", "utf_8_sig", "locale"],
      .utf8),
    (["ascii", "646", "ansi_x3_4_1968", "ansi_x3_4_1986", "cp367", "csascii", "ibm367",
      "iso646_us", "iso_646_irv_1991", "iso_ir_6", "us", "us_ascii"], .ascii),
    (["latin_1", "8859", "cp819", "csisolatin1", "ibm819", "iso8859", "iso8859_1", "iso_8859_1",
      "iso_8859_1_1987", "iso_ir_100", "l1", "latin", "latin1", "charmap"], .latin),
    (["utf_16", "u16", "utf16"], .pairs none),
    (["utf_16_le", "unicodelittleunmarked", "utf_16le"], .pairs (some .lowFirst)),
    (["utf_16_be", "unicodebigunmarked", "utf_16be"], .pairs (some .highFirst))]

/-- Names of what turns bytes into bytes. -/
def otherNames : List Text :=
  ["base64_codec", "base64", "base_64", "bz2_codec", "bz2", "hex_codec", "hex", "quopri_codec",
    "quopri", "quoted_printable", "quotedprintable", "rot_13", "rot13", "uu_codec", "uu",
    "zlib_codec", "zip", "zlib"]

/-- The encoding with a name. -/
def ofName (name : Text) : Except Fault Encoding :=
  match Utf8.encodeError? name with
  | some e => .error (.unspellable e)
  | none =>
    if name.any (·.val == 0) then .error .nullCharacter
    else
      let listed := listedName name
      if otherNames.contains listed then .error (.noText name)
      else
        match common.find? fun entry => entry.1.contains listed, CodePage.find? listed with
        | some entry, _ => .ok entry.2
        | none, some points => .ok (.page points)
        | none, none => .error (.unknown name)

/-! ### Reading -/

/-- The texts of single bytes, the first of them being `position` bytes
into the whole. -/
def readSingly (encoding reason : Text) (point? : Nat → Option CodePoint) :
    Nat → List UInt8 → Except Fault Text
  | _, [] => .ok []
  | position, byte :: bytes =>
    match point? byte.toNat with
    | some c => (readSingly encoding reason point? (position + 1) bytes).map (c :: ·)
    | none => .error (.badBytes ⟨encoding, reason, position, 1, byte⟩)

/-- The number that a pair of bytes is. -/
def pairValue (order : ByteOrder) (a b : UInt8) : Nat :=
  match order with
  | .lowFirst => a.toNat + 256 * b.toNat
  | .highFirst => 256 * a.toNat + b.toNat

/-- What reading in an order is called. -/
def pairsName : ByteOrder → Text
  | .lowFirst => "utf-16-le"
  | .highFirst => "utf-16-be"

/-- The first half of a surrogate pair. -/
def isHighHalf (n : Nat) : Bool :=
  0xD800 ≤ n && n ≤ 0xDBFF

/-- The second half of a surrogate pair. -/
def isLowHalf (n : Nat) : Bool :=
  0xDC00 ≤ n && n ≤ 0xDFFF

/-- The text of pairs of bytes, the first of them being `position` bytes
into the whole; two halves make one code point. -/
def readPairs (order : ByteOrder) : Nat → List UInt8 → Except Fault Text
  | _, [] => .ok []
  | position, [a] =>
    .error (.badBytes ⟨pairsName order, "truncated data", position, 1, a⟩)
  | position, a :: b :: rest =>
    let n := pairValue order a b
    let bad (reason : Text) (count : Nat) : Except Fault Text :=
      .error (.badBytes ⟨pairsName order, reason, position, count, a⟩)
    if isLowHalf n then bad "illegal encoding" 2
    else if isHighHalf n then
      -- A half that is cut off counts with what there is of the other one.
      match rest with
      | c :: d :: rest' =>
        let m := pairValue order c d
        if isLowHalf m then
          (readPairs order (position + 4) rest').map
            (CodePoint.ofNatD (0x10000 + (n - 0xD800) * 0x400 + (m - 0xDC00)) :: ·)
        else bad "illegal UTF-16 surrogate" 2
      | [_] => bad "unexpected end of data" 3
      | [] => bad "unexpected end of data" 2
    else (readPairs order (position + 2) rest).map (CodePoint.ofNatD n :: ·)

/-- The text of pairs of bytes that say their order in front. -/
def readMarkedPairs : List UInt8 → Except Fault Text
  | 0xFF :: 0xFE :: rest => readPairs .lowFirst 2 rest
  | 0xFE :: 0xFF :: rest => readPairs .highFirst 2 rest
  -- A fault in the bytes is found before the mark is missed, and nothing at all needs no mark.
  | bytes => do
    let read ← readPairs .lowFirst 0 bytes
    if read.isEmpty then pure [] else throw .noMark

/-- The text that bytes spell. -/
def decode (encoding : Encoding) (bytes : List UInt8) : Except Fault Text :=
  match encoding with
  | .utf8 => (Utf8.decode bytes).mapError .notUtf8
  | .ascii =>
    readSingly "ascii" "ordinal not in range(128)"
      (fun n => if n < 0x80 then CodePoint.ofNat? n else none) 0 bytes
  | .latin => .ok (bytes.map fun b => CodePoint.ofNatD b.toNat)
  | .page points =>
    readSingly "charmap" "character maps to <undefined>"
      (fun n => if n < 0x80 then CodePoint.ofNat? n else CodePage.point? points n) 0 bytes
  | .pairs (some order) => readPairs order 0 bytes
  | .pairs none => readMarkedPairs bytes

example : listedName " ISO--8859-1 " = Text.ofString "iso_8859_1" := by decide +kernel
example : (readPairs .lowFirst 0 [0x3D, 0xD8, 0x00, 0xDE]).toOption =
    some [CodePoint.ofNatD 0x1F600] := by decide

end Encoding

end DocScribe
