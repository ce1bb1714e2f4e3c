import DocScribe.Text.Blank
import DocScribe.Text.LetterCase

/-!
# `DocScribe.Document.Format`: the formats of a document

A format is named by a word. The two places that read such a word are
lenient in different ways: choosing how to render trims the word,
choosing a file name does not. Neither minds letter case, and both
take Markdown for a word that they do not know.
-/

set_option autoImplicit false

namespace DocScribe

inductive Format where
  | markdown
  | html
  | json
deriving DecidableEq, Repr

namespace Format

/-- The formats in the order in which they are listed. -/
def all : List Format := [.markdown, .html, .json]

/-- The word for a format. -/
def word : Format → Text
  | .markdown => "markdown"
  | .html => "html"
  | .json => "json"

/-- The format with a word. -/
def ofWord? (w : Text) : Option Format :=
  all.find? fun f => f.word == w

/-- The format that a word asks for, blanks and letter case aside. -/
def ofName? (name : Text) : Option Format :=
  ofWord? name.trim.toSmall

/-- The format that is rendered for a word. -/
def ofName (name : Text) : Format :=
  (ofName? name).getD .markdown

/-- The file extension of a format. -/
def extension : Format → Text
  | .markdown => "md"
  | .html => "html"
  | .json => "json"

/-- What a document file is called before its extension. -/
def baseName : Text := "api-documentation"

/-- The file name for a word. -/
def fileName (name : Text) : Text :=
  baseName ++ "." ++ ((ofWord? name.toSmall).getD .markdown).extension

end Format

end DocScribe
