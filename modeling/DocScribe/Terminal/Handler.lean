import DocScribe.Literal.Value
import DocScribe.Text.Blank

/-!
# `DocScribe.Terminal.Handler`: what a tag calls

A tag whose name begins with an at sign names something that is to be
called, perhaps with arguments in parentheses. Whatever stands behind
the equals sign of the tag, the arguments in it have to be a literal.
-/

set_option autoImplicit false

namespace DocScribe.Handler

/-- The arguments in what stands behind the equals sign: those in the
parentheses behind a name, none for a name alone, and else the whole. -/
def argumentsOf (written : Text) : Text :=
  let whole := written.trim
  let behind := whole.dropWhile fun (c : CodePoint) => c.isInWord || c == '.'
  if behind.isEmpty then "()"
  else if behind.head? = some (CodePoint.ofChar '(') ∧ behind.getLast? = some (CodePoint.ofChar ')')
      ∧ .lineFeed ∉ behind then behind
  else whole

/-- Why the arguments are no literal, if they are none. -/
def fault? (written : Text) : Option Literal.Fault :=
  Literal.fault? (argumentsOf written)

/-- The report on a fault. A flaw in the order of the arguments is
reported with these. -/
def report (written : Text) (fault : Literal.Fault) : Text :=
  let place :=
    match fault with
    | .flaw _ => (argumentsOf written).quoted ++ " in " ++ written.quoted
    | _ => written.quoted
  "error parsing " ++ place ++ "; " ++ fault.message

end DocScribe.Handler
