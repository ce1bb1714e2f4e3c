import DocScribe.Json.Writer
import DocScribe.Log
import DocScribe.Terminal.Basic

/-!
# `DocScribe.Terminal.Plain`: displays and log lines as lines of text

A panel is its title over its content, a table its title and columns
over its rows. Cells are parted by tabs, so that lines can be taken
apart again.
-/

set_option autoImplicit false

namespace DocScribe

/-- The cells of a row. -/
def Display.cells (row : List Text) : Text :=
  Text.joinWith "\t" row

/-- The content of a panel. -/
def PanelBody.toLines : PanelBody → List Text
  | .text content => [content]
  | .rows entries => entries.map fun entry => Display.cells [entry.1, entry.2]

/-- The lines of a display. -/
def Display.toLines : Display → List Text
  | .line content => [content]
  | .panel title subtitle body => title.toList ++ body.toLines ++ subtitle.toList
  | .table title columns rows => title :: cells columns :: rows.map cells

namespace Log

/-- An event as an object: its level and its name. -/
def Entry.toJson (entry : Entry) : Json :=
  .obj [("level", .str entry.level.word), ("event", .str entry.event)]

/-- A line of the log. -/
def Entry.toLine (entry : Entry) : Layout → Text
  | .json => entry.toJson.write .oneLine
  | .console => "[" ++ entry.level.word ++ "] " ++ entry.event

end Log

end DocScribe
