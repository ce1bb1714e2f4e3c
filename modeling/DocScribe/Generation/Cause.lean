import DocScribe.Backend.Fault
import DocScribe.Reply
import DocScribe.Workspace.Fault

/-!
# `DocScribe.Generation.Cause`: why a file has no documentation

A file can fail to be read, its prompt to be answered, or the reply to
be understood. A `GenerationError` says which file it was and keeps
the cause. What is not a failure of one file ends everything: a
`Breakdown`.
-/

set_option autoImplicit false

namespace DocScribe

def ReplyError.typeName : ReplyError → Text
  | .malformed _ => "MalformedResponseError"
  | .integerTooLong _ => "ValueError"
  | .nestingTooDeep _ => "RecursionError"

namespace Generation

/-- Why a file has no documentation. -/
inductive Cause where
  | file (fault : FileFault)
  | noProvider
  | request (fault : Backend.Fault)
  | completion (e : Backend.CompletionError)
  | reply (e : ReplyError)
deriving DecidableEq

namespace Cause

def message : Cause → Text
  | .file fault => fault.message
  | .noProvider => "No LLM provider or LLM configuration to create one from"
  | .request fault => fault.message
  | .completion e => e.message
  | .reply e => e.message

def typeName : Cause → Text
  | .file fault => fault.typeName
  | .noProvider => "ValueError"
  | .request fault => fault.typeName
  | .completion e => e.typeName
  | .reply e => e.typeName

end Cause

/-- What was being done when a file failed. -/
inductive Stage where
  | reading
  | generating
deriving DecidableEq, Repr

end Generation

/-- The failure of one file. -/
structure GenerationError where
  stage : Generation.Stage
  filePath : Text
  cause : Generation.Cause
deriving DecidableEq

/-- What was being done, in front of the path of the file. -/
def Generation.Stage.opening : Generation.Stage → Text
  | .reading => "Failed to read "
  | .generating => "Failed to generate documentation for "

def GenerationError.message (e : GenerationError) : Text :=
  e.stage.opening ++ e.filePath ++ ": " ++ e.cause.message

namespace Generation

/-- What ends a run as a whole: a path that is no path to anything,
options that are refused, a limit that lets nothing through, or an
interruption. -/
inductive Breakdown where
  | file (fault : FileFault)
  | options (r : Rejection)
  | noPermits
  | interrupted
deriving DecidableEq

/-- What a breakdown says; an interruption says nothing. -/
def Breakdown.message : Breakdown → Text
  | .file fault => fault.message
  | .options r => r.message
  | .noPermits => "max_concurrency must be at least 1"
  | .interrupted => []

end Generation

end DocScribe
