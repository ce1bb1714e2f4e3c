import DocScribe.Path

/-!
# `DocScribe.Record.Basic`: what is documented of a source file

The records that a reply is read into and a document is written from:
one `FileDoc` per source file, with its functions, classes,
interfaces, constants and types. Every list may be empty and every
text may be; only a default value, a constructor and the two source
labels of a file can be absent.
-/

set_option autoImplicit false

namespace DocScribe

/-- Who may reach a property. -/
inductive Access where
  | everyone
  | owner
  | heirs
deriving DecidableEq, Repr

namespace Access

/-- The ways in the order in which they are listed. -/
def all : List Access := [.everyone, .owner, .heirs]

/-- The word for an access. -/
def word : Access → Text
  | .everyone => "public"
  | .owner => "private"
  | .heirs => "protected"

/-- The access with a word. -/
def ofWord? (w : Text) : Option Access :=
  all.find? fun access => access.word == w

end Access

/-- One parameter of a function, method or constructor. -/
structure ParameterDoc where
  name : Text
  type : Text
  description : Text
  optional : Bool
  defaultValue : Option Text
deriving DecidableEq

/-- A function or a method. -/
structure FunctionDoc where
  name : Text
  description : Text
  parameters : List ParameterDoc
  returnType : Text
  returnDescription : Text
  examples : List Text
  complexity : Text
deriving DecidableEq

/-- The constructor of a class. -/
structure ConstructorDoc where
  description : Text
  parameters : List ParameterDoc
  examples : List Text
deriving DecidableEq

/-- A property of a class or an interface. -/
structure PropertyDoc where
  name : Text
  type : Text
  description : Text
  access : Access
  readonly : Bool
deriving DecidableEq

/-- A class with its constructor, methods, properties and parents. -/
structure ClassDoc where
  name : Text
  description : Text
  constructor : Option ConstructorDoc
  methods : List FunctionDoc
  properties : List PropertyDoc
  inheritance : List Text
deriving DecidableEq

/-- An interface with its properties and methods. -/
structure InterfaceDoc where
  name : Text
  description : Text
  properties : List PropertyDoc
  methods : List FunctionDoc
deriving DecidableEq

/-- A constant of a file. -/
structure ConstantDoc where
  name : Text
  type : Text
  value : Text
  description : Text
deriving DecidableEq

/-- A type that a file defines. -/
structure TypeDoc where
  name : Text
  definition : Text
  description : Text
  examples : List Text
deriving DecidableEq

/-- The documentation of one source file. The two labels say which
file it is; they are set after the reply has been read. -/
structure FileDoc where
  overview : Text
  functions : List FunctionDoc
  classes : List ClassDoc
  interfaces : List InterfaceDoc
  constants : List ConstantDoc
  types : List TypeDoc
  fileName : Option Text
  filePath : Option Text
deriving DecidableEq

namespace FileDoc

/-- The documentation labelled with the file it belongs to: its name
and its path as given. -/
def withSource (doc : FileDoc) (path : Text) : FileDoc :=
  { doc with fileName := some (Path.ofText path).name, filePath := some path }

/-- A label that says something. -/
def properLabel? : Option Text → Option Text
  | some (c :: rest) => some (c :: rest)
  | _ => none

/-- The name in headings: the file name, else the name of the path. -/
def displayName (doc : FileDoc) : Text :=
  match properLabel? doc.fileName, properLabel? doc.filePath with
  | some name, _ => name
  | none, some path => (Path.ofText path).name
  | none, none => "untitled"

/-- Whether nothing at all is documented. -/
def isEmpty (doc : FileDoc) : Bool :=
  doc.overview.isEmpty && doc.functions.isEmpty && doc.classes.isEmpty
    && doc.interfaces.isEmpty && doc.constants.isEmpty && doc.types.isEmpty

/-- The sections and how many entries each has. -/
def sectionCounts (doc : FileDoc) : List (Text × Nat) :=
  [("Functions", doc.functions.length), ("Classes", doc.classes.length),
    ("Interfaces", doc.interfaces.length), ("Constants", doc.constants.length),
    ("Types", doc.types.length)]

/-- How many entries the sections have together. -/
def entryCount (doc : FileDoc) : Nat :=
  total (doc.sectionCounts.map (·.2))

end FileDoc

end DocScribe
