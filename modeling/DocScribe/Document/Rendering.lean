import DocScribe.Document.Archive
import DocScribe.Document.Format
import DocScribe.Document.Html
import DocScribe.Document.Markdown
import DocScribe.Document.Timestamp

/-!
# `DocScribe.Document.Rendering`: documents of all formats

A document shows the documentation of a list of files. Markdown and
HTML carry a time; JSON holds the records alone.
-/

set_option autoImplicit false

namespace DocScribe.Document

/-- The title of every document. -/
def title : Text := "API Documentation"

/-- How far an archive written as a document is indented. -/
def indent : Option Int := some 2

/-- The document of a documentation, stamped with the text of a
time. -/
def render (format : Format) (timestamp : Text) (docs : List FileDoc) : Text :=
  match format with
  | .markdown => Markdown.document title timestamp docs
  | .html => Html.document title timestamp docs
  | .json => Archive.render indent docs

/-- Whether a format shows a time. -/
def showsTime : Format → Bool
  | .json => false
  | _ => true

/-- The document of a documentation, stamped with a moment; nothing if
the moment has no text and the format needs one. -/
def renderAt? (format : Format) (moment : Moment) (docs : List FileDoc) : Option Text :=
  -- An archive shows no time, and is written at any moment.
  if showsTime format then moment.toText?.map fun timestamp => render format timestamp docs
  else some (render format [] docs)

end DocScribe.Document
