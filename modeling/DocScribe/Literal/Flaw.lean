import DocScribe.Text.LetterCase
import DocScribe.Text.Quoted

/-!
# `DocScribe.Literal.Flaw`: why a literal cannot be read

A literal is read in three layers, and each has reasons of its own to
refuse one. The scanner finds marks without a partner, numbers that go
on in letters and code points that belong nowhere. A quotation may hold
escapes or fields that cannot be read. The grammar refuses an order of
tokens, and for common mistakes says what was probably meant.
-/

set_option autoImplicit false

namespace DocScribe.Literal

/-- The ways to write a number. -/
inductive NumberForm where
  | decimal
  | hexadecimal
  | octal
  | binary
  | imaginary
deriving DecidableEq, Repr

def NumberForm.word : NumberForm → Text
  | .decimal => "decimal"
  | .hexadecimal => "hexadecimal"
  | .octal => "octal"
  | .binary => "binary"
  | .imaginary => "imaginary"

/-- What is wrong with an escape in a text. -/
inductive EscapeDefect where
  /-- too few digits behind a letter -/
  | cutShort (letter : CodePoint) (digits : Nat)
  | beyondLast
  | noName
  | unknownName
deriving DecidableEq, Repr

def EscapeDefect.message : EscapeDefect → Text
  | .cutShort letter digits =>
    "truncated \\" ++ (letter :: List.replicate digits (CodePoint.ofChar 'X')) ++ " escape"
  | .beyondLast => "illegal Unicode character"
  | .noName => "malformed \\N character escape"
  | .unknownName => "unknown Unicode character name"

/-- What is wrong with a field in a quotation. -/
inductive FieldDefect where
  | empty
  | emptyBefore (mark : CodePoint)
  | unended
  | unclosed
  | loneBrace
  | backslash
  | comment
  | tooDeep
  | badConversion
  | unmatched (bracket : CodePoint)
  | closesOther (bracket opened : CodePoint)
  | tooNested
deriving DecidableEq, Repr

def FieldDefect.message : FieldDefect → Text
  | .empty => "f-string: empty expression not allowed"
  | .emptyBefore mark => "f-string: expression required before '" ++ [mark] ++ "'"
  | .unended => "f-string: unterminated string"
  | .unclosed => "f-string: expecting '\x7d'"
  | .loneBrace => "f-string: single '\x7d' is not allowed"
  | .backslash => "f-string expression part cannot include a backslash"
  | .comment => "f-string expression part cannot include '#'"
  | .tooDeep => "f-string: expressions nested too deeply"
  | .badConversion => "f-string: invalid conversion character: expected 's', 'r', or 'a'"
  | .unmatched bracket => "f-string: unmatched '" ++ [bracket] ++ "'"
  | .closesOther bracket opened =>
    "f-string: closing parenthesis '" ++ [bracket]
      ++ "' does not match opening parenthesis '" ++ [opened] ++ "'"
  | .tooNested => "f-string: too many nested parenthesis"

/-- What is wrong with the order of tokens. -/
inductive Disorder where
  | plain
  | missingComma
  | missingElse
  /-- a word that is called, written like a statement -/
  | statement (word : Text)
  | notAssignable (what : Text)
  | notAssignableHere (what : Text)
  | notNameable (what : Text)
  | singleEquals
  | starred
  | doubleStarred
  | bareStar
  | starredValue
  | missingValue
  | missingColon
  | starredElement
  | bareTargets
  | doubleStarredElement
  | bareGenerator
  | starredBehindTable
  | plainBehindNamed
  | plainBehindTable
  | assignedArgument
  | requiredBehindDefault
  | parenthesizedParameters
  | nothingBeforeSlash
  | secondSlash
  | slashBehindStar
  | slashBeforeStar
  | bareStarParameter
  | defaultOfStar
  | secondStar
  | defaultOfTable
  | behindTable
  | missingDefault
deriving DecidableEq, Repr

def Disorder.message : Disorder → Text
  | .plain => "invalid syntax"
  | .missingComma => "invalid syntax. Perhaps you forgot a comma?"
  | .missingElse => "expected 'else' after 'if' expression"
  | .statement word =>
    "Missing parentheses in call to '" ++ word ++ "'. Did you mean " ++ word ++ "(...)?"
  | .notAssignable what => "cannot assign to " ++ what
  | .notAssignableHere what =>
    "cannot assign to " ++ what ++ " here. Maybe you meant '==' instead of '='?"
  | .notNameable what => "cannot use assignment expressions with " ++ what
  | .singleEquals => "invalid syntax. Maybe you meant '==' or ':=' instead of '='?"
  | .starred => "cannot use starred expression here"
  | .doubleStarred => "cannot use double starred expression here"
  | .bareStar => "Invalid star expression"
  | .starredValue => "cannot use a starred expression in a dictionary value"
  | .missingValue => "expression expected after dictionary key and ':'"
  | .missingColon => "':' expected after dictionary key"
  | .starredElement => "iterable unpacking cannot be used in comprehension"
  | .bareTargets => "did you forget parentheses around the comprehension target?"
  | .doubleStarredElement => "dict unpacking cannot be used in dict comprehension"
  | .bareGenerator => "Generator expression must be parenthesized"
  | .starredBehindTable => "iterable argument unpacking follows keyword argument unpacking"
  | .plainBehindNamed => "positional argument follows keyword argument"
  | .plainBehindTable => "positional argument follows keyword argument unpacking"
  | .assignedArgument =>
    "expression cannot contain assignment, perhaps you meant \"==\"?"
  | .requiredBehindDefault => "non-default argument follows default argument"
  | .parenthesizedParameters => "Lambda expression parameters cannot be parenthesized"
  | .nothingBeforeSlash => "at least one argument must precede /"
  | .secondSlash => "/ may appear only once"
  | .slashBehindStar => "/ must be ahead of *"
  | .slashBeforeStar => "expected comma between / and *"
  | .bareStarParameter => "named arguments must follow bare *"
  | .defaultOfStar => "var-positional argument cannot have default value"
  | .secondStar => "* argument may appear only once"
  | .defaultOfTable => "var-keyword argument cannot have default value"
  | .behindTable => "arguments cannot follow var-keyword argument"
  | .missingDefault => "expected default value expression"

/-- Why a literal cannot be read. -/
inductive Flaw where
  /-- the code point zero, which ends a text elsewhere -/
  | zeroPoint
  /-- a quotation mark without a partner, in one line or tripled; the
  line where the search for it ended -/
  | unended (isTriple : Bool) (line : Nat)
  | neverClosed (bracket : CodePoint)
  | endsEarly
  | nothingToClose (bracket : CodePoint)
  /-- a bracket that closes another kind, and the line of that one if
  it is not the same -/
  | closesOther (bracket opened : CodePoint) (line : Option Nat)
  | tooNested
  /-- a backslash that ends no line -/
  | strayBackslash
  /-- a number that goes on in letters or breaks off -/
  | badNumber (form : NumberForm)
  | badDigit (digit : CodePoint) (form : NumberForm)
  | leadingZero
  | tooLong (digits : Nat)
  /-- a code point that is part of no token -/
  | stray (c : CodePoint)
  | indented
  | misaligned
  | mixedIndents
  | tooIndented
  /-- bytes and texts side by side -/
  | mixedQuotations
  | notAscii
  /-- an escape in a text, and the first and last place it covers -/
  | badEscape (defect : EscapeDefect) (first last : Nat)
  /-- an escape in bytes -/
  | badByte (place : Nat)
  | badField (defect : FieldDefect)
  | disorder (kind : Disorder)
  /-- a flaw in the value of a field -/
  | inField (flaw : Flaw)
deriving DecidableEq, Repr

def Flaw.message : Flaw → Text
  | .zeroPoint => "source code string cannot contain null bytes"
  | .unended isTriple line =>
    "unterminated " ++ (if isTriple then "triple-quoted string" else "string" : Text)
      ++ " literal (detected at line " ++ Text.ofNat line ++ ")"
  | .neverClosed bracket => "'" ++ [bracket] ++ "' was never closed"
  | .endsEarly => "unexpected EOF while parsing"
  | .nothingToClose bracket => "unmatched '" ++ [bracket] ++ "'"
  | .closesOther bracket opened line =>
    "closing parenthesis '" ++ [bracket] ++ "' does not match opening parenthesis '" ++ [opened]
      ++ "'" ++ (match line with
        | some n => " on line " ++ Text.ofNat n
        | none => [])
  | .tooNested => "too many nested parentheses"
  | .strayBackslash => "unexpected character after line continuation character"
  | .badNumber form => "invalid " ++ form.word ++ " literal"
  | .badDigit digit form => "invalid digit '" ++ [digit] ++ "' in " ++ form.word ++ " literal"
  | .leadingZero =>
    "leading zeros in decimal integer literals are not permitted; "
      ++ "use an 0o prefix for octal integers"
  | .tooLong digits =>
    "Exceeds the limit (4300 digits) for integer string conversion: value has "
      ++ Text.ofNat digits ++ " digits; use sys.set_int_max_str_digits() to increase the limit"
      ++ " - Consider hexadecimal for huge integer literals to avoid decimal conversion limits."
  | .stray c =>
    let number := "U+" ++ (Text.hex 4 c.val).toCapital
    if Text.isHidden c then "invalid non-printable character " ++ number
    else "invalid character '" ++ [c] ++ "' (" ++ number ++ ")"
  | .indented => "unexpected indent"
  | .misaligned => "unindent does not match any outer indentation level"
  | .mixedIndents => "inconsistent use of tabs and spaces in indentation"
  | .tooIndented => "too many levels of indentation"
  | .mixedQuotations => "cannot mix bytes and nonbytes literals"
  | .notAscii => "bytes can only contain ASCII literal characters"
  | .badEscape defect first last =>
    "(unicode error) 'unicodeescape' codec can't decode bytes in position " ++ Text.ofNat first
      ++ "-" ++ Text.ofNat last ++ ": " ++ defect.message
  | .badByte place => "(value error) invalid \\x escape at position " ++ Text.ofNat place
  | .badField defect => defect.message
  | .disorder d => d.message
  | .inField flaw => "f-string: " ++ flaw.message

end DocScribe.Literal
