import DocScribe.Language
import DocScribe.Record.Basic

/-!
# `DocScribe.Document.Block`: a document before it is marked up

Markdown and HTML show the same content in the same order, so the
order is fixed once: the documentation of a file becomes a list of
blocks, and a markup says how a block is written. Sections come in a
fixed order and are left out when empty, and so is every field of an
entry.

Inside a block, fixed words, text and code are told apart: fixed words
are written as they are, the other two in the way of the markup.
-/

set_option autoImplicit false

namespace DocScribe

/-- A stretch of a line: fixed words, text, or code. -/
inductive Span where
  | words (t : Text)
  | text (t : Text)
  | code (t : Text)
deriving DecidableEq

/-- The content of a line. -/
abbrev Inline := List Span

/-- The kinds of entries. -/
inductive EntryKind where
  | function
  | classDefinition
  | interface
  | constant
  | typeDefinition
deriving DecidableEq, Repr

/-- The word for a kind of entry. -/
def EntryKind.word : EntryKind → Text
  | .function => "function"
  | .classDefinition => "class"
  | .interface => "interface"
  | .constant => "constant"
  | .typeDefinition => "type"

/-- A part of a document. -/
inductive Block where
  | fileStart
  | fileEnd
  | entryStart (kind : EntryKind)
  | entryEnd
  | heading (level : Nat) (content : Inline)
  | paragraph (content : Inline)
  | label (name : Text)
  | field (name : Text) (content : Inline)
  | bullets (items : List Inline)
  | codeBlock (code language : Text)
  | separator
deriving DecidableEq

namespace Block

/-- A block for a text that is not empty. -/
def ifText (t : Text) (block : Text → Block) : List Block :=
  match t with
  | [] => []
  | _ :: _ => [block t]

/-- A heading that is the name of an entry. -/
def named (level : Nat) (name : Text) : Block :=
  .heading level [.text name]

/-- A paragraph of text, unless it is empty. -/
def prose (t : Text) : List Block :=
  ifText t fun t => .paragraph [.text t]

/-- Examples under their label, if there are any. -/
def examples (codes : List Text) (language : Text) : List Block :=
  match codes with
  | [] => []
  | _ :: _ => .label "Examples" :: codes.map fun code => .codeBlock code language

/-- The words in brackets behind a parameter's name, each with the
text behind it. -/
def parameterDetails (p : ParameterDoc) : List Inline :=
  (match p.type with
    | [] => []
    | _ :: _ => [[.text p.type]])
    ++ (if p.optional then [[.words "optional"]] else [])
    ++ (match p.defaultValue with
      | some (_ :: _) => [[.words "= ", .text (p.defaultValue.getD [])]]
      | _ => [])

/-- Lines joined by words. -/
def joinInline (sep : Text) : List Inline → Inline
  | [] => []
  | [line] => line
  | line :: next :: lines => line ++ .words sep :: joinInline sep (next :: lines)

/-- A description behind a colon, unless it is empty. -/
def colonText (t : Text) : Inline :=
  match t with
  | [] => []
  | _ :: _ => [.words ": ", .text t]

/-- A parameter with its type, whether it is optional, its default and
its description. -/
def parameterItem (p : ParameterDoc) : Inline :=
  .code p.name
    :: (match parameterDetails p with
      | [] => []
      | details => .words " (" :: joinInline ", " details ++ [.words ")"])
    ++ colonText p.description

/-- A property with its access unless everyone has it, whether it is
read-only, its type and its description. -/
def propertyItem (p : PropertyDoc) : Inline :=
  (match p.access with
    | .everyone => []
    | .owner => [.words "private "]
    | .heirs => [.words "protected "])
    ++ (if p.readonly then [.words "readonly "] else [])
    ++ .code p.name
    :: (match p.type with
      | [] => []
      | _ :: _ => [.words " (", .text p.type, .words ")"])
    ++ colonText p.description

/-- Parameters under their label, if there are any. -/
def parameters (ps : List ParameterDoc) : List Block :=
  match ps with
  | [] => []
  | _ :: _ => [.label "Parameters", .bullets (ps.map parameterItem)]

/-- What a function returns: the type as a field, and the description
below it or below a label of its own. -/
def returns (f : FunctionDoc) : List Block :=
  ifText f.returnType (fun t => .field "Returns" [.code t])
    ++ (match f.returnDescription with
      | [] => []
      | _ :: _ =>
        -- With a type the field above is the label already.
        (match f.returnType with
          | [] => [.label "Returns"]
          | _ :: _ => [])
          ++ [.paragraph [.text f.returnDescription]])

/-- A function or method with a heading on `level`. -/
def function (level : Nat) (language : Text) (f : FunctionDoc) : List Block :=
  [.entryStart .function, named level f.name] ++ prose f.description ++ parameters f.parameters
    ++ returns f ++ examples f.examples language
    ++ ifText f.complexity (fun t => .field "Complexity" [.text t]) ++ [.entryEnd]

/-- The members of a class or an interface. -/
def members (properties : List PropertyDoc) (methods : List FunctionDoc) (language : Text) :
    List Block :=
  (match properties with
    | [] => []
    | _ :: _ => [.label "Properties", .bullets (properties.map propertyItem)])
    ++ (match methods with
      | [] => []
      | _ :: _ => .label "Methods" :: methods.flatMap (function 5 language))

/-- The constructor of a class. -/
def construction (language : Text) (c : ConstructorDoc) : List Block :=
  .label "Constructor" :: prose c.description ++ parameters c.parameters
    ++ examples c.examples language

/-- A class. -/
def classEntry (language : Text) (c : ClassDoc) : List Block :=
  [.entryStart .classDefinition, named 4 c.name] ++ prose c.description
    ++ (match c.inheritance with
      | [] => []
      | _ :: _ =>
        [.field "Extends" (joinInline ", " (c.inheritance.map fun parent => [.text parent]))])
    ++ (match c.constructor with
      | none => []
      | some constructor => construction language constructor)
    ++ members c.properties c.methods language ++ [.entryEnd]

/-- An interface. -/
def interfaceEntry (language : Text) (i : InterfaceDoc) : List Block :=
  [.entryStart .interface, named 4 i.name] ++ prose i.description
    ++ members i.properties i.methods language ++ [.entryEnd]

/-- A constant. -/
def constantEntry (c : ConstantDoc) : List Block :=
  [.entryStart .constant, named 4 c.name] ++ prose c.description
    ++ ifText c.type (fun t => .field "Type" [.code t])
    ++ ifText c.value (fun t => .field "Value" [.code t]) ++ [.entryEnd]

/-- A type definition. -/
def typeEntry (language : Text) (t : TypeDoc) : List Block :=
  [.entryStart .typeDefinition, named 4 t.name] ++ prose t.description
    ++ (match t.definition with
      | [] => []
      | _ :: _ => [.label "Definition", .codeBlock t.definition language])
    ++ examples t.examples language ++ [.entryEnd]

/-- Entries under a heading, each with a separator behind it; nothing
if there are none. -/
def sectionOf {α : Type} (title : Text) (entry : α → List Block) (entries : List α) :
    List Block :=
  match entries with
  | [] => []
  | _ :: _ => .heading 3 [.words title] :: entries.flatMap fun e => entry e ++ [.separator]

/-- The language of the examples of a file, told by its labels. -/
def exampleLanguage (doc : FileDoc) : Text :=
  match FileDoc.properLabel? doc.filePath, FileDoc.properLabel? doc.fileName with
  -- Other than for the heading, the path comes before the name.
  | some path, _ => Language.ofPath (Path.ofText path)
  | none, some name => Language.ofPath (Path.ofText name)
  | none, none => Language.fallback

/-- The documentation of one file. -/
def ofFile (doc : FileDoc) : List Block :=
  let language := exampleLanguage doc
  [.fileStart, .heading 2 [.words "File: ", .text doc.displayName]]
    ++ (match doc.overview with
      | [] => []
      | _ :: _ => [.heading 3 [.words "Overview"], .paragraph [.text doc.overview]])
    ++ sectionOf "Functions" (function 4 language) doc.functions
    ++ sectionOf "Classes" (classEntry language) doc.classes
    ++ sectionOf "Interfaces" (interfaceEntry language) doc.interfaces
    ++ sectionOf "Constants" constantEntry doc.constants
    ++ sectionOf "Types" (typeEntry language) doc.types
    ++ [.fileEnd]

end Block

end DocScribe
