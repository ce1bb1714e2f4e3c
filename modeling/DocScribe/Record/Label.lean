import DocScribe.Json.Basic

/-!
# `DocScribe.Record.Label`: the fields of a record in JSON

A field has two spellings, its name and the key that it is written
under, and a description that asks for its content. Reading takes
either spelling, the key first.
-/

set_option autoImplicit false

namespace DocScribe

/-- The spellings of a field and what it is meant to hold. Where the
description is empty the key speaks for itself. -/
structure Label where
  name : Text
  key : Text
  description : Text
deriving DecidableEq

namespace Label

/-- A field with one spelling. -/
def single (name description : Text) : Label :=
  ⟨name, name, description⟩

/-- What is asked for in the field. -/
def request (l : Label) : Text :=
  if l.description.isEmpty then l.key else l.description

/-- The spellings of the field, the key first. -/
def spellings (l : Label) : List Text :=
  if l.key = l.name then [l.key] else [l.key, l.name]

/-- The value of the field and the spelling that it stands under. The
key counts before the name. -/
def locate? (l : Label) (members : Json.Members) : Option (Text × Json) :=
  match members.get? l.key with
  | some value => some (l.key, value)
  | none => (members.get? l.name).map fun value => (l.name, value)

end Label

namespace Labels

def name (description : Text) : Label := .single "name" description

def type (description : Text) : Label := .single "type" description

def description (description : Text) : Label := .single "description" description

def examples (description : Text) : Label := .single "examples" description

def parameters : Label := .single "parameters" ""

def methods : Label := .single "methods" ""

def properties : Label := .single "properties" ""

def optional : Label := .single "optional" "true if the parameter is optional"

def defaultValue : Label := ⟨"default_value", "defaultValue", "default value if any"⟩

def returnType : Label := ⟨"return_type", "returnType", "return type"⟩

def returnDescription : Label :=
  ⟨"return_description", "returnDescription", "description of return value"⟩

def complexity : Label := .single "complexity" "time/space complexity if applicable"

def access : Label := .single "access" "public|private|protected"

def readonly : Label := .single "readonly" "true if the property is read-only"

/-- The field of a class that holds its constructor. -/
def construction : Label := .single "constructor" ""

def inheritance : Label := .single "inheritance" "parent classes/interfaces"

def value : Label := .single "value" "constant value"

def definition : Label := .single "definition" "type definition"

def overview : Label :=
  .single "overview" "Brief overview of the code's purpose and functionality"

def functions : Label := .single "functions" ""

def classes : Label := .single "classes" ""

def interfaces : Label := .single "interfaces" ""

def constants : Label := .single "constants" ""

def types : Label := .single "types" ""

def fileName : Label := ⟨"file_name", "fileName", ""⟩

def filePath : Label := ⟨"file_path", "filePath", ""⟩

def includeExamples : Label := ⟨"include_examples", "includeExamples", ""⟩

/-- The fields that hold the entries of a file. -/
def sections : List Label := [functions, classes, interfaces, constants, types]

/-- The fields that say which file is documented. -/
def source : List Label := [fileName, filePath]

end Labels

end DocScribe
