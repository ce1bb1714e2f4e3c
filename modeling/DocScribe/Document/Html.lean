import DocScribe.Document.Block
import DocScribe.Text.Blank

/-!
# `DocScribe.Document.Html`: documents in HTML

A page with its style sheet. Five characters are escaped wherever text
or code is written, so that no content can open or close a tag or end
an attribute.
-/

set_option autoImplicit false

namespace DocScribe.Html

/-- One character of text. -/
def escapeChar (c : CodePoint) : Text :=
  if c = '&' then "&amp;"
  else if c = '<' then "&lt;"
  else if c = '>' then "&gt;"
  else if c = .quoteSign then "&quot;"
  else if c = .apostrophe then "&#x27;"
  else [c]

/-- Text that shows as it is. -/
def escape (t : Text) : Text :=
  t.flatMap escapeChar

/-- One stretch of a line. Fixed words hold nothing to escape. -/
def span : Span → Text
  | .words t => t
  | .text t => escape t
  | .code t => "<code>" ++ escape t ++ "</code>"

/-- The content of a line. -/
def inline (content : Inline) : Text :=
  content.flatMap span

/-- A block of code; blanks at its end are dropped. -/
def codeBlock (code language : Text) : Text :=
  "<pre><code class=\"language-" ++ escape language ++ "\">" ++ escape code.trimEnd
    ++ "</code></pre>\n"

/-- One item of a list. -/
def bullet (item : Inline) : Text :=
  "    <li>" ++ inline item ++ "</li>\n"

/-- One block. -/
def block : Block → Text
  | .fileStart => "<section class=\"file\">\n"
  | .fileEnd => "</section>\n"
  | .entryStart kind => "<div class=\"" ++ escape kind.word ++ "\">\n"
  | .entryEnd => "</div>\n"
  | .heading level content =>
    "<h" ++ Text.ofNat level ++ ">" ++ inline content ++ "</h" ++ Text.ofNat level ++ ">\n"
  | .paragraph content => "<p>" ++ inline content ++ "</p>\n"
  | .label name => "<p><strong>" ++ escape name ++ ":</strong></p>\n"
  | .field name content =>
    "<p><strong>" ++ escape name ++ ":</strong> " ++ inline content ++ "</p>\n"
  | .bullets items =>
    "<ul>\n" ++ items.flatMap bullet ++ "</ul>\n"
  | .codeBlock code language => codeBlock code language
  | .separator => []

/-- One rule of a style sheet. -/
def styleRule (selector declarations : Text) : Text :=
  "        " ++ selector ++ " \x7b " ++ declarations ++ " \x7d"

/-- The style sheet of a page. -/
def styleSheet : List Text :=
  [styleRule "body"
      "font-family: 'Segoe UI', Tahoma, Geneva, Verdana, sans-serif; margin: 40px;",
    styleRule "h1, h2, h3" "color: #2c3e50;",
    styleRule "section.file" "margin-bottom: 48px;",
    styleRule ".function, .class, .interface, .constant, .type"
      "border: 1px solid #ddd; padding: 20px; margin: 20px 0; border-radius: 5px;",
    styleRule ".function .function" "border-style: dashed;",
    styleRule "ul" "background: #f8f9fa; padding: 15px 15px 15px 35px; border-radius: 3px;",
    styleRule "p" "white-space: pre-line;",
    styleRule "code" "background: #f1f2f6; padding: 2px 4px; border-radius: 3px;",
    styleRule "pre"
      "background: #2f3542; color: #f1f2f6; padding: 15px; border-radius: 5px; overflow-x: auto;",
    styleRule "pre code" "background: none; padding: 0;"]

/-- The front of a page. -/
def opening (title timestamp : Text) : Text :=
  "<!DOCTYPE html>\n<html>\n<head>\n    <meta charset=\"utf-8\">\n    <title>" ++ escape title
    ++ "</title>\n    <style>\n" ++ Text.joinWith "\n" styleSheet
    ++ "\n    </style>\n</head>\n<body>\n<h1>" ++ escape title
    ++ "</h1>\n<p><em>Generated on: " ++ escape timestamp ++ "</em></p>\n"

/-- The end of a page. -/
def closing : Text := "</body>\n</html>\n"

/-- A page. -/
def document (title timestamp : Text) (docs : List FileDoc) : Text :=
  opening title timestamp ++ docs.flatMap (fun doc => (Block.ofFile doc).flatMap block) ++ closing

end DocScribe.Html
