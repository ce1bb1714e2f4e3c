import DocScribe.Exclusion.Pattern
import DocScribe.Language
import DocScribe.Log
import DocScribe.Workspace.Basic

/-!
# `DocScribe.Discovery`: finding source files

A file is found by its own path. Below a folder every file of a known
suffix is found, unless a line of the exclusion list takes it out. Two
lines come before all others: folders whose name starts with a dot,
and `node_modules`. Files are listed in the order of their segments.
-/

set_option autoImplicit false

namespace DocScribe

/-- Why nothing can be found below a path. -/
inductive DiscoveryError where
  | notFound (path : Text)
  | file (fault : FileFault)
  | pattern (e : PatternError)
deriving DecidableEq

def DiscoveryError.message : DiscoveryError → Text
  | .notFound path => "Path not found: " ++ path
  | .file fault => fault.message
  | .pattern e => e.message

namespace Discovery

/-- The exclusion lines that come before all others. -/
def defaultLines : List Text := [".*/", "node_modules/"]

/-- The source files below a tree, as places counted from it. -/
def sourcesBelow (tree : Tree) : List (List Text) :=
  (tree.files.map (·.1)).filter fun place => Language.isSupported ⟨.relative, place⟩

/-- A place as patterns see it. -/
def placeText (place : List Text) : Text :=
  Text.joinWith "/" place

/-- The source files below a tree that no line takes out. -/
def kept (patterns : List Pattern) (tree : Tree) : List (List Text) :=
  (sourcesBelow tree).filter fun place => !Pattern.isExcluded patterns (placeText place)

/-- Places in the order of their segments. -/
def ordered (places : List (List Text)) : List (List Text) :=
  places.mergeSort fun a b => !Path.segmentsLt b a

/-- The source files below a folder at `root`. -/
def below (root : Path) (lines : List Text) (tree : Tree) : Except PatternError (List Path) := do
  let patterns ← Pattern.ofLines (defaultLines ++ lines)
  pure ((ordered (kept patterns tree)).map fun place =>
    { root with segments := root.segments ++ place })

/-- The source files at a path or below it. -/
def find (ws : Workspace) (path : Path) (lines : List Text) :
    List Log.Entry × Except DiscoveryError (List Path) :=
  match Workspace.pathFault? path.toText with
  | some fault => ([], .error (.file fault))
  | none =>
    let root := ws.absolute path
    match ws.find? root with
    | .error fault => ([], .error (.file fault))
    | .ok none => ([], .error (.notFound root.toText))
    -- A file that is named counts, whatever the lines exclude.
    | .ok (some (.file _)) => ([], .ok (if Language.isSupported root then [root] else []))
    | .ok (some (.folder entries)) =>
      match below root lines (.folder entries) with
      | .error e => ([], .error (.pattern e))
      | .ok paths => ([Log.info "files_found"], .ok paths)

end Discovery

end DocScribe
