import DocScribe.Json.Reader
import DocScribe.Record.Reader

/-!
# `DocScribe.Reply`: the documentation in a reply

A model answers with prose around its JSON, with fences, with stray
braces. The payload of a reply is the object decoded at the first
opening brace where a value decodes. If there is none, the span from
the first opening brace to the last closing one is what the report is
about.

Two faults end the search at once, wherever they are met: an integer
beyond the digit limit and nesting beyond the nesting limit.
-/

set_option autoImplicit false

namespace DocScribe

/-- What is wrong with a reply: it holds no span that could be a
payload, the span that was meant to be one has a fault, or the payload
was refused as the documentation of a file. -/
inductive ReplyFlaw where
  | noPayload
  | undecodable (report : Json.Malformed)
  | mismatched (rejection : Rejection)
deriving DecidableEq

def ReplyFlaw.message : ReplyFlaw → Text
  | .noPayload => "No structured payload located in AI response"
  | .undecodable report => "Failed to parse AI response: " ++ report.message
  | .mismatched rejection =>
    "AI response does not match the documentation schema: " ++ rejection.message

/-- A reply without a usable payload: what is wrong with it, and how
it begins. -/
structure MalformedReply where
  flaw : ReplyFlaw
  excerpt : Text
deriving DecidableEq

def MalformedReply.message (m : MalformedReply) : Text :=
  m.flaw.message

/-- Why a reply gives no documentation. -/
inductive ReplyError where
  | malformed (reply : MalformedReply)
  | integerTooLong (digits : Nat)
  | nestingTooDeep (container : Json.Container)
deriving DecidableEq

def ReplyError.message : ReplyError → Text
  | .malformed reply => reply.message
  | .integerTooLong digits => (Json.ParseError.integerTooLong digits).message
  | .nestingTooDeep container => (Json.ParseError.nestingTooDeep container).message

namespace Reply

/-- The braces around an object. -/
def openBrace : CodePoint := '\x7b'
def closeBrace : CodePoint := '\x7d'

/-- How much of a reply is shown in a report. -/
def excerptLength : Nat := 200

def excerpt (reply : Text) : Text :=
  reply.take excerptLength

/-- The object at the first opening brace where one decodes; behind
the last closing brace none can. -/
def scan : Text → Except ReplyError (Option Json.Members)
  | [] => .ok none
  | c :: rest =>
    if c = openBrace ∧ closeBrace ∈ rest then
      match Json.readFront .common (c :: rest) with
      -- What follows the object does not count, be it prose or another object.
      | .ok (.obj members, _) => .ok (some members)
      | .ok _ => scan rest
      | .error (.malformed _ _) => scan rest
      | .error (.integerTooLong digits) => .error (.integerTooLong digits)
      | .error (.nestingTooDeep container) => .error (.nestingTooDeep container)
    else scan rest

/-- From the first opening brace on. -/
def fromBrace (reply : Text) : Text :=
  reply.dropWhile (· != openBrace)

/-- From the first opening brace to the last closing one. -/
def span (reply : Text) : Text :=
  (fromBrace reply).dropEndWhile (· != closeBrace)

/-- The members of an object. -/
def membersOf : Json → Json.Members
  | .obj members => members
  | _ => []

/-- The payload of a reply. -/
def extract (reply : Text) : Except ReplyError Json.Members :=
  if closeBrace ∉ fromBrace reply then .error (.malformed ⟨.noPayload, excerpt reply⟩)
  else
    match scan reply with
    | .error e => .error e
    | .ok (some members) => .ok members
    | .ok none =>
      -- Nothing was found that decodes: reading the span says what is wrong, and where.
      match Json.parse (span reply) with
      | .ok value => .ok (membersOf value)
      | .error (.malformed report) => .error (.malformed ⟨.undecodable report, excerpt reply⟩)
      | .error (.integerTooLong digits) => .error (.integerTooLong digits)
      | .error (.nestingTooDeep container) => .error (.nestingTooDeep container)

/-- Make sure of a list under a key. -/
def ensureList (members : Json.Members) (l : Label) : Json.Members :=
  match members.get? l.key with
  | some (.arr _) => members
  | _ => members.put l.key (.arr [])

/-- Make sure of a text under a key. -/
def ensureText (members : Json.Members) (l : Label) : Json.Members :=
  match members.get? l.key with
  | some (.str _) => members
  | _ => members.put l.key (.str [])

/-- A payload in the outer shape of a file's documentation: a list for
every section and a text for the overview. -/
def shape (payload : Json.Members) : Json.Members :=
  ensureText (Labels.sections.foldl ensureList payload) Labels.overview

/-- The spellings of the labels that only the caller sets. -/
def sourceSpellings : List Text :=
  Labels.source.flatMap fun l => [l.name, l.key]

/-- The payload without anything that names a source file. -/
def withoutSource (payload : Json.Members) : Json.Members :=
  payload.filter fun m => !sourceSpellings.contains m.1

/-- The documentation that a payload holds. -/
def docOf (payload : Json.Members) : Except Rejection FileDoc :=
  FileDoc.recordType.ofJson (.obj (withoutSource (shape payload)))

/-- The documentation that a reply holds. -/
def normalize (reply : Text) : Except ReplyError FileDoc :=
  match extract reply with
  | .error e => .error e
  | .ok payload =>
    match docOf payload with
    | .ok doc => .ok doc
    | .error rejection => .error (.malformed ⟨.mismatched rejection, excerpt reply⟩)

end Reply

end DocScribe
