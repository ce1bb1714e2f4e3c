import DocScribe.Document.Format
import DocScribe.Log
import DocScribe.Workspace.Basic

/-!
# `DocScribe.Document.Publication`: documents in files

A document is written into a folder, under the file name of its
format. The folder is made if it is missing. A dry run only says where
the document would go.
-/

set_option autoImplicit false

namespace DocScribe.Document

/-- The file of a document in a folder. -/
def target (folder : Path) (formatName : Text) : Path :=
  folder.join (Path.ofText (Format.fileName formatName))

/-- Write a text into a file, with the folders above it. -/
def writeBelow (ws : Workspace) (path : Path) (content : Text) :
    Workspace × Except FileFault Unit :=
  match ws.makeFolders path.parent with
  | (ws', .error fault) => (ws', .error fault)
  | (ws', .ok ()) => ws'.writeText path content

/-- Write a document into a folder. -/
def publish (ws : Workspace) (content : Text) (folder : Path) (formatName : Text)
    (isDryRun : Bool) : Workspace × List Log.Entry × Except FileFault Path :=
  let path := target folder formatName
  if isDryRun then (ws, [Log.info "dry_run_write"], .ok path)
  else
    match writeBelow ws path content with
    | (ws', .error fault) => (ws', [], .error fault)
    | (ws', .ok ()) => (ws', [Log.info "documentation_written"], .ok path)

end DocScribe.Document
