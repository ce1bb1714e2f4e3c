import DocScribe.Json.Reader
import DocScribe.Json.Writer
import DocScribe.Record.Writer

/-!
# `DocScribe.Document.Archive`: documentation kept as JSON

Documentation is kept as a JSON list and loaded again from it. Loading
is as lenient about the shape of an item as reading a reply is, but
not about the text: half a surrogate pair, a long number and deep
nesting make it no JSON, also in a value that counts for nothing, and
an item has to be an object.
-/

set_option autoImplicit false

namespace DocScribe.Archive

/-- How an archive is written: beyond ASCII nothing is escaped. -/
def style (indent : Option Int) : Json.Style := ⟨false, indent⟩

/-- The archive of a documentation. -/
def render (indent : Option Int) (docs : List FileDoc) : Text :=
  (Json.arr (docs.map (·.toJson .omitted))).write (style indent)

/-- A text without surrogates. -/
def isWhole (t : Text) : Bool :=
  t.all fun c => !c.isSurrogate

/-- The JSON value of an archive's text. -/
def read? (t : Text) : Option Json :=
  match Json.readFront .archive (Json.skipSpace t) with
  | .error _ => none
  | .ok (value, rest) => if (Json.skipSpace rest).isEmpty then some value else none

/-- The JSON value that a text holds, or what keeps it from being
read. -/
def decode (t : Text) : Except IssueKind Json :=
  -- A text with a surrogate has no bytes to read an archive from.
  if !isWhole t then .error .notUnicode
  else
    match read? t with
    | none => .error .badJson
    | some value => .ok value

/-- The name that refused archives are reported under. -/
def title : Text := "list[DocumentationUnit]"

/-- The documentation in one item. -/
def checkItem (place : List Place) : Json → Checked FileDoc
  | .obj members => FileDoc.recordType.ofMembers place members
  | _ => .bad [⟨.notObject, place⟩]

/-- The documentation in a value. -/
def check : Json → Checked (List FileDoc)
  | .arr items => .each [] checkItem 0 items
  | _ => .bad [⟨.notArray, []⟩]

/-- Loading an archive. -/
def load (t : Text) : Except Rejection (List FileDoc) :=
  match decode t with
  | .error kind => .error ⟨title, [⟨kind, []⟩]⟩
  | .ok value => (check value).toExcept title

end DocScribe.Archive
