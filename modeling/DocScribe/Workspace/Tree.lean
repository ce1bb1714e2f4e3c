import DocScribe.Text.Basic

/-!
# `DocScribe.Workspace.Tree`: files and folders

A tree is a file with its bytes or a folder with its named entries.
Places are lists of names, counted from the top.
-/

set_option autoImplicit false

namespace DocScribe

/-- What a place in a file system holds. -/
inductive Tree where
  | file (content : List UInt8)
  | folder (entries : List (Text × Tree))

namespace Tree

/-- A folder without entries. -/
def empty : Tree := .folder []

/-- What the place `names` holds. -/
def get? : Tree → List Text → Option Tree
  | tree, [] => some tree
  | .file _, _ :: _ => none
  | .folder entries, name :: names =>
    match entries.lookup name with
    | some tree => tree.get? names
    | none => none

/-- The entries with another tree under a name: in its place if the
name is there, else behind the others. -/
def setEntry (name : Text) (tree : Tree) : List (Text × Tree) → List (Text × Tree)
  | [] => [(name, tree)]
  | entry :: entries =>
    if entry.1 = name then (name, tree) :: entries else entry :: setEntry name tree entries

/-- The entries of a folder; a file has none. -/
def entries : Tree → List (Text × Tree)
  | .file _ => []
  | .folder entries => entries

/-- The tree with `new` at the place `names`. Folders are made on the
way where there are none. -/
def put (tree : Tree) : List Text → Tree → Tree
  | [], new => new
  | name :: names, new =>
    .folder (setEntry name (put ((tree.entries.lookup name).getD empty) names new) tree.entries)

/-- The tree without what the place `names` holds. -/
def remove : List Text → Tree → Tree
  | _, .file content => .file content
  | [], .folder entries => .folder entries
  | [name], .folder entries => .folder (entries.filter fun entry => entry.1 != name)
  | name :: names, .folder entries =>
    match entries.lookup name with
    | some tree => .folder (setEntry name (tree.remove names) entries)
    | none => .folder entries

mutual

/-- The files below a tree with their places, folder by folder. -/
def files : Tree → List (List Text × List UInt8)
  | .file content => [([], content)]
  | .folder entries => filesOf entries

/-- The files below the entries of a folder. -/
def filesOf : List (Text × Tree) → List (List Text × List UInt8)
  | [] => []
  | (name, tree) :: entries =>
    (files tree).map (fun file => (name :: file.1, file.2)) ++ filesOf entries

end

end Tree

end DocScribe
