import DocScribe.CommandLine.Usage

/-!
# `DocScribe.CommandLine.Stop`: ways to end early

A run that does not go through to its end stops for a reason: the
command line is no request, it asks for nothing but a text, the work
has failed in a way that was foreseen, something happened that was
not, or the user has interrupted it. Every reason has an exit status;
that of a run that goes through is zero.
-/

set_option autoImplicit false

namespace DocScribe.CommandLine

/-- Why a run stops. -/
inductive Stop where
  /-- the command line is no request -/
  | usage (e : UsageError)
  /-- the command line is empty -/
  | nothingAsked
  /-- a text is all that was asked for -/
  | told (content : Text)
  /-- the work is over, with this status -/
  | exit (status : Nat)
  /-- something that was not foreseen -/
  | unexpected (message : Text)
  /-- the user has interrupted the run -/
  | interrupted
deriving DecidableEq

/-- The exit status for a reason to stop. -/
def Stop.status : Stop → Nat
  | .usage _ => 2
  | .nothingAsked => 2
  | .told _ => 0
  | .exit status => status
  | .unexpected _ => 1
  | .interrupted => 1

end DocScribe.CommandLine
