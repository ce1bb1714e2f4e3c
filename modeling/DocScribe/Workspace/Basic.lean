import DocScribe.Path
import DocScribe.Workspace.Fault
import DocScribe.Workspace.FileName
import DocScribe.Workspace.Tree

/-!
# `DocScribe.Workspace.Basic`: files as a run sees them

A workspace is a tree of files, the place a run starts from, and the
environment. A path is followed segment by segment: whatever is
entered has to be a folder, also on the way back up.

Changes return the workspace they leave behind, also when they fail:
a text that cannot be written has emptied its file by then.
-/

set_option autoImplicit false

namespace DocScribe

/-- The files, the current folder and the environment of a run. -/
structure Workspace where
  tree : Tree
  current : List Text
  environment : List (Text × Text)

namespace Workspace

/-- The value of an environment variable. -/
def environmentValue? (ws : Workspace) (name : Text) : Option Text :=
  ws.environment.lookup name

/-- The workspace with a variable set, or taken away. -/
def setVariable (ws : Workspace) (name : Text) (value : Option Text) : Workspace :=
  match value with
  | none => { ws with environment := ws.environment.filter fun entry => entry.1 != name }
  | some value =>
    if ws.environment.any (fun entry => entry.1 == name) then
      { ws with
        environment := ws.environment.map fun entry =>
          if entry.1 == name then (name, value) else entry }
    else { ws with environment := ws.environment ++ [(name, value)] }

/-- What is known of the home folder. -/
inductive Home where
  /-- the environment does not name it -/
  | unset
  /-- its name refers to a home itself -/
  | unclear
  | folder (path : Path)

/-- The home folder that the environment names. -/
def home (ws : Workspace) : Home :=
  match ws.environmentValue? "HOME" with
  | none => .unset
  | some value =>
    let kept := value.dropEndWhile (· == '/')
    if kept.head? = some (CodePoint.ofChar '~') then .unclear
    else .folder (Path.ofText (if kept.isEmpty then "/" else kept))

/-! ### Following paths -/

/-- The longest name that a folder can hold, in bytes. -/
def nameLimit : Nat := 255

/-- The longest path that can be followed, in bytes. -/
def pathLimit : Nat := 4095

/-- Why a path text is no path to anything. -/
def pathFault? (t : Text) : Option FileFault :=
  match FileName.encodeError? t with
  | some e => some (.unspellable e)
  | none => if t.any (·.val == 0) then some .nullCharacter else none

/-- Follow segments from a place. -/
def walk (tree : Tree) : List Text → List Text → Except Refusal (List Text)
  | place, [] => .ok place
  | place, segment :: segments =>
    match tree.get? place with
    | none => .error .missing
    | some (.file _) => .error .notFolder
    | some (.folder entries) =>
      -- Also the way back up leads through a folder, and the top is above itself.
      if segment = ".." then walk tree place.dropLast segments
      else if nameLimit < FileName.size segment then .error .nameTooLong
      else if (entries.lookup segment).isSome then walk tree (place ++ [segment]) segments
      else .error .missing

/-- Where a path starts from. -/
def startOf (ws : Workspace) (p : Path) : List Text :=
  if p.isAbsolute then [] else ws.current

/-- Follow a path. -/
def follow (ws : Workspace) (p : Path) : Except FileFault (List Text) :=
  match pathFault? p.toText with
  | some fault => .error fault
  | none =>
    if pathLimit < FileName.size p.toText then .error (.refused .nameTooLong p.toText)
    else (walk ws.tree (ws.startOf p) p.segments).mapError fun r => .refused r p.toText

/-- What a path leads to. -/
def find (ws : Workspace) (p : Path) : Except FileFault Tree := do
  let place ← ws.follow p
  match ws.tree.get? place with
  | some tree => pure tree
  | none => throw (.refused .missing p.toText)

/-- What a path leads to, if to anything. A name that is too long is
an error here too. -/
def find? (ws : Workspace) (p : Path) : Except FileFault (Option Tree) :=
  match ws.find p with
  | .ok tree => .ok (some tree)
  | .error (.refused .nameTooLong path) => .error (.refused .nameTooLong path)
  -- Whatever else keeps a path from being followed, there is nothing at it.
  | .error _ => .ok none

/-- Whether a path leads anywhere. -/
def exists? (ws : Workspace) (p : Path) : Except FileFault Bool :=
  (ws.find? p).map Option.isSome

/-- Whether a path leads to a file. -/
def isFile? (ws : Workspace) (p : Path) : Except FileFault Bool :=
  (ws.find? p).map fun found =>
    match found with
    | some (.file _) => true
    | _ => false

/-- Whether a path leads to a folder. -/
def isFolder? (ws : Workspace) (p : Path) : Except FileFault Bool :=
  (ws.find? p).map fun found =>
    match found with
    | some (.folder _) => true
    | _ => false

/-- Segments with the double dots taken back, counted from the top. -/
def upward : List Text → List Text → List Text
  | place, [] => place
  | place, segment :: segments =>
    if segment = ".." then upward place.dropLast segments
    else upward (place ++ [segment]) segments

/-- The path from the top, without double dots. There is one top,
however many slashes stand in front of the path. -/
def absolute (ws : Workspace) (p : Path) : Path :=
  ⟨.root, upward (ws.startOf p) p.segments⟩

/-! ### Reading -/

/-- The bytes of a file. -/
def readBytes (ws : Workspace) (p : Path) : Except FileFault (List UInt8) := do
  match ← ws.find p with
  | .file content => pure content
  | .folder _ => throw (.refused .isFolder p.toText)

/-- The text of a file, with its line ends unified. -/
def readText (ws : Workspace) (p : Path) : Except FileFault Text := do
  let bytes ← ws.readBytes p
  let text ← (Utf8.decode bytes).mapError .unreadable
  pure text.unifyNewlines

/-! ### Writing -/

/-- Follow all of a path but its last segment, and say what that
is. -/
def followParent (ws : Workspace) (p : Path) : Except FileFault (List Text × Option Text) :=
  match pathFault? p.toText with
  | some fault => .error fault
  | none =>
    if pathLimit < FileName.size p.toText then .error (.refused .nameTooLong p.toText)
    else
      match walk ws.tree (ws.startOf p) p.segments.dropLast with
      | .error r => .error (.refused r p.toText)
      | .ok place =>
        match ws.tree.get? place with
        | some (.folder _) => .ok (place, p.segments.getLast?)
        | some (.file _) => .error (.refused .notFolder p.toText)
        | none => .error (.refused .missing p.toText)

/-- The place of a file that is to be written: an existing file or a
name that is free. -/
def writable (ws : Workspace) (p : Path) : Except FileFault (List Text) := do
  let (place, last) ← ws.followParent p
  match last with
  | none => throw (.refused .isFolder p.toText)
  | some name =>
    if name = ".." then throw (.refused .isFolder p.toText)
    if nameLimit < FileName.size name then throw (.refused .nameTooLong p.toText)
    match ws.tree.get? (place ++ [name]) with
    | some (.folder _) => throw (.refused .isFolder p.toText)
    | _ => pure (place ++ [name])

/-- The workspace with a file at a place. -/
def putFile (ws : Workspace) (place : List Text) (content : List UInt8) : Workspace :=
  { ws with tree := ws.tree.put place (.file content) }

/-- Write a text into a file. The file is emptied first. -/
def writeText (ws : Workspace) (p : Path) (content : Text) : Workspace × Except FileFault Unit :=
  match ws.writable p with
  | .error fault => (ws, .error fault)
  | .ok place =>
    match Utf8.encode content with
    | .ok bytes => (ws.putFile place bytes, .ok ())
    -- The file was opened, and emptied by that, before the text turned out to have no bytes.
    | .error e => (ws.putFile place [], .error (.unspellable e))

/-- Make a folder. -/
def makeFolder (ws : Workspace) (p : Path) : Except FileFault Workspace := do
  let (place, last) ← ws.followParent p
  match last with
  | none => throw (.refused .exists p.toText)
  | some name =>
    if name = ".." then throw (.refused .exists p.toText)
    if nameLimit < FileName.size name then throw (.refused .nameTooLong p.toText)
    match ws.tree.get? (place ++ [name]) with
    | some _ => throw (.refused .exists p.toText)
    | none => pure { ws with tree := ws.tree.put (place ++ [name]) .empty }

/-- A failure to make a folder does not count if the folder is
there. -/
def unlessFolder (ws : Workspace) (p : Path) (fault : FileFault) : Except FileFault Unit := do
  if !fault.isRefusal then throw fault
  if ← ws.isFolder? p then pure () else throw fault

/-- Make a folder and those above it, at most `fuel` of them. Where
one is missing above, that one is made first. -/
def makeFoldersWithin : Nat → Workspace → Path → Workspace × Except FileFault Unit
  | 0, ws, _ => (ws, .ok ())
  | fuel + 1, ws, p =>
    match ws.makeFolder p with
    | .ok made => (made, .ok ())
    | .error (.refused .missing path) =>
      if p.segments.isEmpty then (ws, .error (.refused .missing path))
      else
        match makeFoldersWithin fuel ws p.parent with
        | (above, .error fault) => (above, .error fault)
        | (above, .ok ()) =>
          -- Folders that were made above stay, whatever comes of this one.
          match above.makeFolder p with
          | .ok made => (made, .ok ())
          | .error fault => (above, above.unlessFolder p fault)
    | .error fault => (ws, ws.unlessFolder p fault)

/-- Make a folder and those above it. -/
def makeFolders (ws : Workspace) (p : Path) : Workspace × Except FileFault Unit :=
  makeFoldersWithin (p.segments.length + 1) ws p

end Workspace

end DocScribe
