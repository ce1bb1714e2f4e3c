import DocScribe.Literal.Scan

/-!
# `DocScribe.Literal.Tree`: expressions

The form of an expression, as far as its value or a report on it
depends on that. What is no value of its own, such as the names behind
a `for`, leaves no trace.
-/

set_option autoImplicit false

namespace DocScribe.Literal

/-- A value that is written out. -/
inductive Atom where
  | integer (n : Nat)
  | decimal
  | imaginary
  | text
  | bytes
  /-- text with fields -/
  | fields
  | true
  | false
  | none
  | ellipsis
deriving DecidableEq, Repr

/-- Expressions that have no value of their own here. -/
inductive OtherForm where
  | operation
  | attribute
  | lambda
  | conditional
  | generator
  | setCollection
  | tableCollection
  | assignment
  | waiting
  | yielding
deriving DecidableEq, Repr

inductive Tree where
  /-- nothing, or something without a trace -/
  | nothing
  | name (t : Text)
  | atom (a : Atom)
  | signed (isMinus : Bool) (operand : Tree)
  | sum (isMinus : Bool) (left right : Tree)
  /-- a comparison, which may begin with a test for membership -/
  | comparison (isMembership : Bool) (left : Tree)
  | tuple (items : List Tree)
  | set (items : List Tree)
  | table (entries : List Tree)
  /-- an entry of a table -/
  | entry (key value : Tree)
  /-- the entries of another table, or named arguments from one -/
  | doubleStarred
  | starred (t : Tree)
  | named
  | call (function : Tree) (arguments : List Tree)
  | other (form : OtherForm)
  /-- several of them in a row -/
  | several (items : List Tree)

namespace Tree

/-- The trees in a row. -/
def items : Tree → List Tree
  | .several items => items
  | .nothing => []
  | t => [t]

/-- What an expression is called in reports. -/
def word : Tree → Text
  | .name _ => "name"
  | .atom .true => "True"
  | .atom .false => "False"
  | .atom .none => "None"
  | .atom .ellipsis => "ellipsis"
  | .atom .fields => "f-string expression"
  | .atom _ => "literal"
  | .comparison _ _ => "comparison"
  | .tuple _ => "tuple"
  | .set _ => "set display"
  | .table _ => "dict literal"
  | .starred _ => "starred"
  | .call _ _ => "function call"
  | .other .attribute => "attribute"
  | .other .lambda => "lambda"
  | .other .conditional => "conditional expression"
  | .other .generator => "generator expression"
  | .other .setCollection => "set comprehension"
  | .other .tableCollection => "dict comprehension"
  | .other .assignment => "named expression"
  | .other .waiting => "await expression"
  | .other .yielding => "yield expression"
  | _ => "expression"

/-- Words that are called, and that were statements once. -/
def statementWords : List Text := ["print", "exec"]

/-- The word, if the expression is one that was a statement once. -/
def statement? : Tree → Option Text
  | .name t => if statementWords.contains t then some t else none
  | _ => none

mutual

/-- The first part of an expression that cannot be assigned to behind a
`for`. -/
def firstUnassignable? : Tree → Option Tree
  | .tuple items => firstUnassignableOf? items
  | .starred t => firstUnassignable? t
  | .comparison true left => firstUnassignable? left
  | .comparison false _ => none
  | .name _ => none
  | .other .attribute => none
  | t => some t

@[inherit_doc firstUnassignable?]
def firstUnassignableOf? : List Tree → Option Tree
  | [] => none
  | t :: later =>
    match firstUnassignable? t with
    | some found => some found
    | none => firstUnassignableOf? later

end

end Tree

end DocScribe.Literal
