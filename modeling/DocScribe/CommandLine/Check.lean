import DocScribe.CommandLine.Stop
import DocScribe.Text.Numeral
import DocScribe.Validation.Spelled
import DocScribe.Workspace.Basic

/-!
# `DocScribe.CommandLine.Check`: values of options and arguments

A value is one of a few words, an integer within bounds, or a path. A
path is looked at as it was written: a slash or a dot at its end asks
for a folder, and an empty text leads nowhere. A path that no file
system can be asked about is no mistake in usage but unexpected.
-/

set_option autoImplicit false

namespace DocScribe.CommandLine

/-- A value that does not fit a parameter with these names. -/
def misfit (names : List Text) (fault : ValueFault) : Stop :=
  .usage (.badValue (hintOf names) fault)

/-! ### Words -/

/-- A text without difference of letter case. The long `s` is an `s`
too. -/
def foldCase (t : Text) : Text :=
  Text.toSmall (t.map fun c => if c.val = 0x17F then CodePoint.ofChar 's' else c)

/-- One of a few values by its word, letter case aside. -/
def chooseWord {α : Type} (names : List Text) (all : List α) (word : α → Text) (value : Text) :
    Except Stop α :=
  match all.find? fun choice => word choice == foldCase value with
  | some choice => .ok choice
  | none => .error (misfit names (.notOneOf value (all.map word)))

/-! ### Integers -/

/-- The most digits that an integer is read from. -/
def digitLimit : Nat := 4300

/-- The integer that a value spells, white space around it aside:
digits of any script with an optional sign, and single low lines
between them. -/
def integerOf? (value : Text) : Option Int :=
  let (negative, body) := Spelled.cutSign value.trimWhiteSpace.withAsciiDigits
  match Spelled.joinedDigits? body with
  | none => none
  | some digits =>
    if digitLimit < digits.length then none
    else some (Spelled.signed negative (Text.digitsValue digits))

/-- An integer within bounds. -/
def integerWithin (names : List Text) (low high : Nat) (value : Text) : Except Stop Int :=
  match integerOf? value with
  | none => .error (misfit names (.notInteger value))
  | some n =>
    if n < (low : Int) ∨ (high : Int) < n then .error (misfit names (.outOfRange n low high))
    else .ok n

/-! ### Paths -/

/-- What a path leads to. -/
inductive Found where
  | nothing
  | file
  | folder
deriving DecidableEq, Repr

/-- Whether the end of a path text asks for a folder. -/
def asksForFolder (t : Text) : Bool :=
  !((Text.splitOn '/' t).getLast?.any Path.isProper)

/-- What a path text leads to. -/
def lookAt (ws : Workspace) (t : Text) : Except Stop Found :=
  match Workspace.pathFault? t with
  | some fault => .error (.unexpected fault.message)
  | none =>
    if t.isEmpty then .ok .nothing
    else
      -- The path has dropped a slash or a dot at its end, which a file must not have.
      match ws.find (Path.ofText t) with
      | .ok (.folder _) => .ok .folder
      | .ok (.file _) => .ok (if asksForFolder t then .nothing else .file)
      | .error _ => .ok .nothing

/-- A path of a kind, which may have to be there. -/
def checkPath (ws : Workspace) (names : List Text) (kind : PathKind) (hasToExist : Bool)
    (t : Text) : Except Stop Path := do
  match ← lookAt ws t, kind with
  | .nothing, _ =>
    if hasToExist then throw (misfit names (.missingPath kind t)) else pure (Path.ofText t)
  | .file, .folder => throw (misfit names (.isFile kind t))
  | .folder, .file => throw (misfit names (.isFolder kind t))
  | _, _ => pure (Path.ofText t)

end DocScribe.CommandLine
