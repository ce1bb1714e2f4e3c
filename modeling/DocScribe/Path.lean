import DocScribe.Text.Basic

/-!
# `DocScribe.Path`: paths as lists of segments

A path is a root and its segments. Empty segments and single dots say
nothing and are dropped when a path is read; double dots are kept,
since what they lead to depends on the directories they pass. Exactly
two slashes in front are a root of their own.

The name of a path is its last segment. Its suffix begins at the last
dot of the name, if that dot neither begins nor ends it.
-/

set_option autoImplicit false

namespace DocScribe

/-- Where a path starts. -/
inductive PathRoot where
  | relative
  | root
  | doubleRoot
deriving DecidableEq, Repr

structure Path where
  start : PathRoot
  segments : List Text
deriving DecidableEq

namespace Path

/-- The root that a path text starts from. -/
def rootOf : Text → PathRoot
  | a :: b :: c :: _ =>
    if a ≠ '/' then .relative
    else if b = '/' ∧ c ≠ '/' then .doubleRoot
    else .root
  | [a, b] => if a ≠ '/' then .relative else if b = '/' then .doubleRoot else .root
  | [a] => if a = '/' then .root else .relative
  | [] => .relative

/-- Whether a segment says something. -/
def isProper (segment : Text) : Bool :=
  segment != [] && segment != ("." : Text)

/-- The path that a text denotes. -/
def ofText (t : Text) : Path :=
  ⟨rootOf t, (Text.splitOn '/' t).filter isProper⟩

def rootText : PathRoot → Text
  | .relative => ""
  | .root => "/"
  | .doubleRoot => "//"

/-- The text of a path; a relative path without segments is a dot. -/
def toText (p : Path) : Text :=
  if p.start = .relative ∧ p.segments = [] then "."
  else rootText p.start ++ Text.joinWith "/" p.segments

/-- The last segment, or nothing for a root. -/
def name (p : Path) : Text :=
  p.segments.getLastD []

/-- Whether the path starts from a root. -/
def isAbsolute (p : Path) : Bool :=
  p.start != .relative

/-- The path one segment up. -/
def parent (p : Path) : Path :=
  { p with segments := p.segments.dropLast }

/-- `q` as seen from `p`. -/
def join (p q : Path) : Path :=
  if q.isAbsolute then q else { p with segments := p.segments ++ q.segments }

/-- What stands from the last dot of a name on, if there is a dot. -/
def fromLastDot : Text → Option Text
  | [] => none
  | c :: rest =>
    match fromLastDot rest with
    | some found => some found
    | none => if c = '.' then some (c :: rest) else none

/-- The suffix of a name. -/
def suffixOf (name : Text) : Text :=
  match fromLastDot name with
  | none => []
  | some found => if found.length = name.length ∨ found.length = 1 then [] else found

/-- The suffix of a path is that of its name. -/
def suffix (p : Path) : Text :=
  suffixOf p.name

example : (ofText "./a//b.tar.gz/").suffix = ".gz" := by decide
example : (ofText "a/.py").suffix = "" := by decide

/-- Order of lists of segments, by code point. -/
def segmentsLt : List Text → List Text → Bool
  | [], [] => false
  | [], _ :: _ => true
  | _ :: _, [] => false
  | a :: s, b :: t => Text.lt a b || (a == b && segmentsLt s t)

end Path

end DocScribe
