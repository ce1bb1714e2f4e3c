import DocScribe.CommandLine.Basic
import DocScribe.Terminal.Plain

/-!
# `DocScribe.Main`: the program

Takes a picture of the files that a run may need, lets it run on that,
brings out its emissions and writes the files that it has changed.
Requests find no service to connect to: what carries them is not part
of the program.
-/

set_option autoImplicit false

namespace DocScribe.Program

/-- No request is carried. -/
def unreachable : Backend.Transport :=
  { chat := fun _ => .failed ⟨.accountConnection, []⟩
    generate := fun _ => .failed ⟨.webConnection, []⟩
    list := .failed ⟨.webConnection, []⟩ }

/-! ### Files -/

/-- The text of a place as the system takes it. -/
def pathOf (place : List Text) : String :=
  (Path.mk .root place).toText.toString

/-- The place that an absolute path text leads to. -/
def placeOf (path : String) : List Text :=
  (Path.ofText path).segments

/-- Names of files that may hold settings. -/
def settingsNames : List Text :=
  [Settings.fileName, Settings.projectFileName, Settings.Lookup.usualDotfile, "config.toml"]

/-- Whether the content of a file may be asked for: a source, a file of
settings, or a file that the command line names. -/
def isNeeded (named : List (List Text)) (place : List Text) : Bool :=
  let path : Path := ⟨.root, place⟩
  Language.isSupported path || settingsNames.contains path.name || named.contains place

/-- How deep folders are looked into. -/
def depthLimit : Nat := 64

/-- A picture of what is at a place, if anything is. Files that are
not needed are taken as empty ones. -/
def picture (named : List (List Text)) : Nat → List Text → IO (Option Tree)
  | 0, _ => pure none
  | depth + 1, place => do
    -- What cannot be looked at is taken for nothing at all.
    try
      let path ← IO.FS.realPath (pathOf place)
      if ← path.isDir then
        let entries ← path.readDir
        let found ← entries.toList.filterMapM fun entry => do
          let name := Text.ofString entry.fileName
          let tree ← picture named depth (place ++ [name])
          pure (tree.map fun tree => (name, tree))
        pure (some (.folder found))
      else if ← path.pathExists then
        if isNeeded named place then
          let content ← IO.FS.readBinFile path
          pure (some (.file content.toList))
        else pure (some (.file []))
      else pure none
    catch _ => pure none

/-- The tree with pictures of some places, unless it has them. -/
def addPictures (named : List (List Text)) (tree : Tree) : List (List Text) → IO Tree
  | [] => pure tree
  | place :: places => do
    if (tree.get? place).isSome then addPictures named tree places
    else
      match ← picture named depthLimit place with
      | some found => addPictures named (tree.put place found) places
      | none => addPictures named tree places

/-- Whether a file is another one than before. -/
def isChanged (before : Tree) (file : List Text × List UInt8) : Bool :=
  match before.get? file.1 with
  | some (.file content) => content != file.2
  | _ => true

/-- Write the files that have changed. -/
def writeChanges (before after : Tree) : IO Unit := do
  for file in after.files.filter (isChanged before) do
    IO.FS.createDirAll (pathOf file.1.dropLast)
    IO.FS.writeBinFile (pathOf file.1) (ByteArray.mk file.2.toArray)

/-! ### The system -/

/-- The file that holds the environment of the process. -/
def environmentFile : String := "/proc/self/environ"

/-- A variable, from a name and a value around an equals sign. -/
def bindingOf (t : Text) : Option (Text × Text) :=
  match Text.cutAt '=' t with
  | (name, some value) => some (name, value)
  | (_, none) => none

/-- The environment of the process. -/
def readEnvironment : IO (List (Text × Text)) := do
  try
    let content ← IO.FS.readBinFile environmentFile
    let text := match Utf8.decode content.toList with
      | .ok text => text
      | .error _ => []
    pure ((Text.splitOn ⟨0, by decide⟩ text).filterMap bindingOf)
  catch _ => pure []

/-- The second from which the system counts. -/
def epoch : Int :=
  (Calendar.dayNumber 1970 1 1 : Int) * 86400

/-- The moment at which the process was started. -/
def readMoment : IO Moment := do
  try
    let path ← IO.FS.realPath environmentFile
    let started := (← path.metadata).modified
    pure ⟨epoch + started.sec, started.nsec.toNat / 1000⟩
  catch _ => pure ⟨epoch, 0⟩

/-! ### Emissions -/

/-- Write something to one of the two streams. -/
def put (stream : CommandLine.Stream) (content : Text) : IO Unit := do
  match stream with
  | .output => IO.print content.toString
  | .errors => IO.eprint content.toString

/-- The text of an emission. Bars are not drawn. -/
def textOf : CommandLine.Emission → Text
  | .shown _ display => (display.toLines.map fun line => line ++ [.lineFeed]).flatten
  | .progress _ _ _ => []
  | .logged layout entry => entry.toLine layout ++ [.lineFeed]
  | .document content => content

/-- Bring out an emission. -/
def bringOut (emission : CommandLine.Emission) : IO Unit :=
  put emission.stream (textOf emission)

/-- What the words of a command line may name: themselves, and what
stands behind an equals sign. -/
def namesIn (word : Text) : List Text :=
  word :: (Text.cutAt '=' word).2.toList

end DocScribe.Program

open DocScribe DocScribe.Program in
/-- The program: its exit status is that of the run. -/
def main (arguments : List String) : IO UInt32 := do
  let words : List Text := arguments.map Text.ofString
  let here ← IO.currentDir
  let empty : Workspace := ⟨.empty, placeOf here.toString, ← readEnvironment⟩
  let named := (words.flatMap namesIn).map fun word => (empty.absolute (Path.ofText word)).segments
  let settings := match empty.home with
    | .folder home => [(home.join (Path.ofText ".config/apidocgen/config.toml")).segments]
    | _ => []
  -- Shorter places come first, as their pictures hold what is below them.
  let places := (empty.current :: settings ++ named).mergeSort fun a b => a.length ≤ b.length
  let tree ← addPictures named .empty places
  let around : CommandLine.Surroundings :=
    { transport := fun _ => unreachable, patience := fun _ => 0, outlet := .utf8
      moment := ← readMoment, seconds := .ofInt 0 }
  let ending := CommandLine.execute around { empty with tree := tree } words
  writeChanges tree ending.run.workspace.tree
  for emission in ending.run.emissions do bringOut emission
  if let some e := ending.usage then put .errors (e.line ++ [.lineFeed])
  return ending.status.toUInt32
