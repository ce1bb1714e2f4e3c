import DocScribe.Decimal.Double
import DocScribe.Literal.Parse
import DocScribe.Text.Utf8

/-!
# `DocScribe.Literal.Value`: what a literal stands for

Only some expressions are literals: numbers with a sign, sums of a real
and an imaginary number, texts, tuples, sets and tables of literals, and
a few words. What holds values by their hash takes only values that have
one, which sets and tables have not.

Of a value only that much is kept: what it takes to tell whether the
values around it can be made.
-/

set_option autoImplicit false

namespace DocScribe.Literal

/-- Why a text stands for no value. -/
inductive Fault where
  | flaw (flaw : Flaw)
  | unspellable (e : Utf8.EncodeError)
  /-- an expression that is no literal -/
  | noLiteral
  /-- an entry of a table without a key -/
  | noKey
  | unhashable (type : Text)
  /-- an integer beyond all doubles, in a sum -/
  | tooLarge
deriving DecidableEq, Repr

def Fault.message : Fault → Text
  | .flaw f => f.message
  | .unspellable e => e.message
  | .noLiteral => "malformed node or string"
  | .noKey => "malformed node or string: None"
  | .unhashable type => "unhashable type: '" ++ type ++ "'"
  | .tooLarge => "int too large to convert to float"

/-- What is kept of a value. -/
inductive Worth where
  | integer (n : Int)
  | decimal
  | imaginary
  | hashable
  /-- a value without a hash, or one that holds such a value -/
  | unhashable (type : Text)
deriving DecidableEq, Repr

/-- The type that keeps a value from having a hash. -/
def Worth.unhashable? : Worth → Option Text
  | .unhashable type => some type
  | _ => none

/-- A value has to have a hash. -/
def Worth.hashed (w : Worth) : Except Fault Unit :=
  match w.unhashable? with
  | some type => .error (.unhashable type)
  | none => .ok ()

/-- A number without a sign. -/
def unsignedNumber : Tree → Except Fault Worth
  | .atom (.integer n) => .ok (.integer n)
  | .atom .decimal => .ok .decimal
  | .atom .imaginary => .ok .imaginary
  | _ => .error .noLiteral

/-- The number with the opposite sign. -/
def Worth.negated : Worth → Worth
  | .integer n => .integer (-n)
  | w => w

/-- A number, perhaps with a sign. -/
def signedNumber : Tree → Except Fault Worth
  | .signed isMinus operand =>
    (unsignedNumber operand).map fun w => if isMinus then w.negated else w
  | t => unsignedNumber t

/-- The sum of a real and an imaginary number. -/
def complexSum (left right : Worth) : Except Fault Worth :=
  match left, right with
  | .integer n, .imaginary =>
    match Double.ofInt n with
    | .finite _ _ => .ok .imaginary
    | _ => .error .tooLarge
  | .decimal, .imaginary => .ok .imaginary
  | _, _ => .error .noLiteral

mutual

/-- What an expression stands for. -/
def evaluate : Tree → Except Fault Worth
  | .atom (.integer n) => .ok (.integer n)
  | .atom .decimal => .ok .decimal
  | .atom .imaginary => .ok .imaginary
  | .atom .fields => .error .noLiteral
  | .atom _ => .ok .hashable
  | .signed isMinus operand => signedNumber (.signed isMinus operand)
  | .sum _ left right => do complexSum (← signedNumber left) (← unsignedNumber right)
  | .tuple items => do
    match (← evaluateAll items).findSome? Worth.unhashable? with
    | some type => pure (.unhashable type)
    | none => pure .hashable
  | .set items => do
    evaluateHashed items
    pure (.unhashable "set")
  | .call (.name t) [] => if t = "set" then .ok (.unhashable "set") else .error .noLiteral
  | .table entries => do
    evaluateEntries entries
    pure (.unhashable "dict")
  | _ => .error .noLiteral

/-- What expressions stand for, in order. -/
def evaluateAll : List Tree → Except Fault (List Worth)
  | [] => .ok []
  | t :: later => do
    let w ← evaluate t
    pure (w :: (← evaluateAll later))

/-- Every expression stands for a value with a hash. -/
def evaluateHashed : List Tree → Except Fault Unit
  | [] => .ok ()
  | t :: later => do
    (← evaluate t).hashed
    evaluateHashed later

/-- Every entry has a key with a hash. -/
def evaluateEntries : List Tree → Except Fault Unit
  | [] => .ok ()
  | .entry key value :: later => do
    let k ← evaluate key
    let _ ← evaluate value
    k.hashed
    evaluateEntries later
  | _ :: _ => .error .noKey

end

/-- A text stands for a value, or does not. -/
def check (t : Text) : Except Fault Unit :=
  match Utf8.encodeError? t with
  | some e => .error (.unspellable e)
  | none =>
    if t.any (·.val == 0) then .error (.flaw .zeroPoint)
    else
      match parse t.unifyNewlines with
      | .error flaw => .error (.flaw flaw)
      | .ok tree => (evaluate tree).map fun _ => ()

/-- Why a text stands for no value, if it does not. -/
def fault? (t : Text) : Option Fault :=
  match check t with
  | .ok _ => none
  | .error fault => some fault

end DocScribe.Literal
