import DocScribe.Text.Utf8

/-!
# `DocScribe.Workspace.Fault`: why a file is out of reach

The file system refuses with a number and the path as it was given.
Some paths never get that far: those with a null character and those
that cannot be spelled in bytes. Bytes that are read or a text that is
written may be at fault as well.
-/

set_option autoImplicit false

namespace DocScribe

/-- The refusals of a file system. -/
inductive Refusal where
  | missing
  | exists
  | notFolder
  | isFolder
  | nameTooLong
deriving DecidableEq, Repr

namespace Refusal

/-- The number of a refusal. -/
def number : Refusal → Nat
  | .missing => 2
  | .exists => 17
  | .notFolder => 20
  | .isFolder => 21
  | .nameTooLong => 36

def reason : Refusal → Text
  | .missing => "No such file or directory"
  | .exists => "File exists"
  | .notFolder => "Not a directory"
  | .isFolder => "Is a directory"
  | .nameTooLong => "File name too long"

def typeName : Refusal → Text
  | .missing => "FileNotFoundError"
  | .exists => "FileExistsError"
  | .notFolder => "NotADirectoryError"
  | .isFolder => "IsADirectoryError"
  | .nameTooLong => "OSError"

end Refusal

/-- Why something cannot be done to a file. -/
inductive FileFault where
  | refused (refusal : Refusal) (path : Text)
  | nullCharacter
  | unspellable (e : Utf8.EncodeError)
  | unreadable (e : Utf8.DecodeError)
deriving DecidableEq

namespace FileFault

def message : FileFault → Text
  | .refused refusal path =>
    "[Errno " ++ Text.ofNat refusal.number ++ "] " ++ refusal.reason ++ ": " ++ path.quoted
  | .nullCharacter => "embedded null byte"
  | .unspellable e => e.message
  | .unreadable e => e.message

def typeName : FileFault → Text
  | .refused refusal _ => refusal.typeName
  | .nullCharacter => "ValueError"
  | .unspellable _ => "UnicodeEncodeError"
  | .unreadable _ => "UnicodeDecodeError"

/-- Whether the file system itself refused. -/
def isRefusal : FileFault → Bool
  | .refused _ _ => true
  | _ => false

end FileFault

end DocScribe
