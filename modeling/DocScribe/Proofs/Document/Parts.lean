import DocScribe.Document.Block

/-!
# `DocScribe.Proofs.Document.Parts`: the parts of entries that may be left out

Some parts of an entry are left out where there is nothing to show. Each
of them has a name here, and the entries are put together from them
(`Block.classEntry_eq` and its neighbours), so that a property of blocks
is proved of a part once and for all.
-/

set_option autoImplicit false

namespace DocScribe.Block

/-- The type of a parameter, in the brackets behind its name. -/
def typePart (type : Text) : List Inline :=
  match type with
  | [] => []
  | _ :: _ => [[.text type]]

/-- The default of a parameter. -/
def defaultPart (default? : Option Text) : List Inline :=
  match default? with
  | some (_ :: _) => [[.words "= ", .text (default?.getD [])]]
  | _ => []

/-- The label of a description of what is returned, unless the type stands
above it. -/
def returnsLabel (returnType : Text) : List Block :=
  match returnType with
  | [] => [.label "Returns"]
  | _ :: _ => []

/-- The parents of a class. -/
def parentsPart (parents : List Text) : List Block :=
  match parents with
  | [] => []
  | _ :: _ => [.field "Extends" (joinInline ", " (parents.map fun parent => [.text parent]))]

/-- The constructor of a class. -/
def constructorPart (language : Text) (made : Option ConstructorDoc) : List Block :=
  match made with
  | none => []
  | some constructor => construction language constructor

/-- The definition of a type. -/
def definitionPart (language definition : Text) : List Block :=
  match definition with
  | [] => []
  | _ :: _ => [.label "Definition", .codeBlock definition language]

/-- The overview of a file. -/
def overviewPart (overview : Text) : List Block :=
  match overview with
  | [] => []
  | _ :: _ => [.heading 3 [.words "Overview"], .paragraph [.text overview]]

/-- The details of a parameter, with a name for each part. -/
theorem parameterDetails_eq (p : ParameterDoc) :
    parameterDetails p = typePart p.type ++ (if p.optional then [[.words "optional"]] else [])
      ++ defaultPart p.defaultValue := rfl

/-- A description of what is returned stands below its label or its type. If
there is a type, it takes the place of the label. -/
theorem returns_eq (f : FunctionDoc) :
    returns f = ifText f.returnType (fun t => .field "Returns" [.code t])
      ++ (if f.returnDescription = [] then []
        else returnsLabel f.returnType ++ [.paragraph [.text f.returnDescription]]) := by
  rw [returns]
  cases f.returnDescription <;> rfl

/-- The entry of a class, likewise. Each part is left out on a condition of
its own, so a proof about the class takes them one at a time. -/
theorem classEntry_eq (language : Text) (c : ClassDoc) :
    classEntry language c = [.entryStart .classDefinition, named 4 c.name] ++ prose c.description
      ++ parentsPart c.inheritance ++ constructorPart language c.constructor
      ++ members c.properties c.methods language ++ [.entryEnd] := rfl

/-- The entry of a type. -/
theorem typeEntry_eq (language : Text) (t : TypeDoc) :
    typeEntry language t = [.entryStart .typeDefinition, named 4 t.name] ++ prose t.description
      ++ definitionPart language t.definition ++ examples t.examples language ++ [.entryEnd] := rfl

/-- The blocks of a file: its heading, the overview, and five sections of
the same kind. -/
theorem ofFile_eq_parts (doc : FileDoc) :
    let language := exampleLanguage doc
    ofFile doc = [.fileStart, .heading 2 [.words "File: ", .text doc.displayName]]
      ++ overviewPart doc.overview ++ sectionOf "Functions" (function 4 language) doc.functions
      ++ sectionOf "Classes" (classEntry language) doc.classes
      ++ sectionOf "Interfaces" (interfaceEntry language) doc.interfaces
      ++ sectionOf "Constants" constantEntry doc.constants
      ++ sectionOf "Types" (typeEntry language) doc.types ++ [.fileEnd] := rfl

end DocScribe.Block
