import DocScribe.Text.Basic

/-!
# `DocScribe.Exclusion.Glob`: matching a path against a pattern

A pattern is a list of items that match a path from its beginning on.
It need not match to the end: whatever lies below a folder that
matches goes with it. `*`, `?` and the items for whole folders stop at
slashes or include them as their comments say.
-/

set_option autoImplicit false

namespace DocScribe

/-- What one step of a pattern matches. -/
inductive GlobItem where
  /-- this code point -/
  | one (c : CodePoint)
  /-- any code point but a slash -/
  | any
  /-- any run of code points without a slash, the empty one too -/
  | run
  /-- a code point in one of the ranges, or in none of them -/
  | oneOf (outside : Bool) (ranges : List (Nat × Nat))
  /-- whatever comes before a slash, and that slash -/
  | folders
  /-- leading folders with the slash behind them, or nothing -/
  | maybeFolders
  /-- folders in between, each behind its slash, or nothing -/
  | maybeInner
  /-- the end of the path, or a slash -/
  | finish
deriving DecidableEq, Repr

namespace Glob

/-- Folder items do not reach beyond a line end. -/
def isWithin (c : CodePoint) : Bool :=
  c != .lineFeed

/-- After a run of code points without a slash. -/
def afterRun (next : Text → Bool) : Text → Bool
  | [] => next []
  | c :: rest => next (c :: rest) || (c != '/' && afterRun next rest)

/-- After a slash that follows what has been passed. -/
def afterSlash (next : Text → Bool) : Text → Bool
  | [] => false
  | c :: rest => (c == '/' && next rest) || (isWithin c && afterSlash next rest)

/-- After any slash, whatever has been passed. -/
def afterAnySlash (next : Text → Bool) : Text → Bool
  | [] => false
  | c :: rest => (c == '/' && next rest) || afterAnySlash next rest

/-- After one or more folders. -/
def afterFolders (next : Text → Bool) : Text → Bool
  | [] => false
  | c :: rest => isWithin c && afterSlash next rest

/-- After any run of code points. -/
def afterAny (next : Text → Bool) : Text → Bool
  | [] => next []
  | c :: rest => next (c :: rest) || (isWithin c && afterAny next rest)

/-- After a slash and at least one code point. -/
def afterInner (next : Text → Bool) : Text → Bool
  | a :: b :: rest => a == '/' && isWithin b && afterAny next rest
  | _ => false

/-- Whether a code point is in one of the ranges. -/
def inRanges (ranges : List (Nat × Nat)) (c : CodePoint) : Bool :=
  ranges.any fun range => range.1 ≤ c.val && c.val ≤ range.2

/-- Whether nothing is left but a line end. -/
def atEnd : Text → Bool
  | [] => true
  | [c] => c == .lineFeed
  | _ => false

/-- Whether a path begins with what the items match. -/
def matches? : List GlobItem → Text → Bool
  | [], _ => true
  | .one c :: items, path =>
    match path with
    | [] => false
    | d :: rest => d == c && matches? items rest
  | .any :: items, path =>
    match path with
    | [] => false
    | d :: rest => d != '/' && matches? items rest
  | .oneOf outside ranges :: items, path =>
    match path with
    | [] => false
    | d :: rest => (inRanges ranges d != outside) && matches? items rest
  | .run :: items, path => afterRun (matches? items) path
  | .folders :: items, path => afterAnySlash (matches? items) path
  | .maybeFolders :: items, path => matches? items path || afterFolders (matches? items) path
  | .maybeInner :: items, path => matches? items path || afterInner (matches? items) path
  -- Below a folder that matches everything matches, so that a slash is an end too.
  | .finish :: items, path =>
    (atEnd path && matches? items path) ||
      (match path with
      | [] => false
      | d :: rest => d == '/' && matches? items rest)

end Glob

end DocScribe
