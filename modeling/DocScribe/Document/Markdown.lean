import DocScribe.Document.Block
import DocScribe.Text.Blank

/-!
# `DocScribe.Document.Markdown`: documents in Markdown

Text is written as it is. Code is fenced, and a fence is longer than
any run of backticks inside it, so that nothing in the code can close
it.
-/

set_option autoImplicit false

namespace DocScribe.Markdown

/-- The mark of code. -/
def backtick : CodePoint := ⟨0x60, by decide⟩

/-- The longest run of backticks; `run` is the length of the one that
reaches up to the front. -/
def longestRunFrom (run : Nat) : Text → Nat
  | [] => run
  | c :: rest =>
    if c = backtick then longestRunFrom (run + 1) rest
    else max run (longestRunFrom 0 rest)

/-- The length of the longest run of backticks. -/
def longestRun (t : Text) : Nat :=
  longestRunFrom 0 t

def backticks (n : Nat) : Text :=
  List.replicate n backtick

/-- Code within a line. Padding keeps a backtick of the code apart
from the delimiters. -/
def code (t : Text) : Text :=
  if longestRun t = 0 then backtick :: t ++ [backtick]
  else
    let ticks := backticks (longestRun t + 1)
    ticks ++ " " ++ t ++ " " ++ ticks

/-- The fence around a block of code. -/
def fence (code : Text) : Text :=
  backticks (max 3 (longestRun code + 1))

/-- A fenced block; blanks at the end of the code are dropped. -/
def codeBlock (code language : Text) : Text :=
  fence code ++ language ++ "\n" ++ code.trimEnd ++ "\n" ++ fence code ++ "\n\n"

/-- One stretch of a line. -/
def span : Span → Text
  | .words t => t
  | .text t => t
  | .code t => code t

/-- The content of a line. -/
def inline (content : Inline) : Text :=
  content.flatMap span

/-- One item of a list. -/
def bullet (item : Inline) : Text :=
  "- " ++ inline item ++ "\n"

/-- One block. -/
def block : Block → Text
  | .fileStart => []
  | .fileEnd => []
  | .entryStart _ => []
  | .entryEnd => []
  | .heading level content =>
    List.replicate level (CodePoint.ofChar '#') ++ " " ++ inline content ++ "\n\n"
  | .paragraph content => inline content ++ "\n\n"
  | .label name => "**" ++ name ++ ":**\n\n"
  | .field name content => "**" ++ name ++ ":** " ++ inline content ++ "\n\n"
  | .bullets items => items.flatMap bullet ++ "\n"
  | .codeBlock code language => codeBlock code language
  | .separator => "---\n\n"

/-- The front of a document. -/
def opening (title timestamp : Text) : Text :=
  "# " ++ title ++ "\n\nGenerated on: " ++ timestamp ++ "\n\n"

/-- A document. -/
def document (title timestamp : Text) (docs : List FileDoc) : Text :=
  opening title timestamp ++ docs.flatMap fun doc => (Block.ofFile doc).flatMap block

end DocScribe.Markdown
