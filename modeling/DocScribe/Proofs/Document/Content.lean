import DocScribe.Proofs.Document.Parts

/-!
# `DocScribe.Proofs.Document.Content`: what a document shows of a file

The content of a record is read off the record alone: every name, every
other text that is not empty, and every item of a list, each as text, as
code within a line, or as a block of code, in the order in which a
document has them. The names of files and entries come first, then their
fields, and the entries of a file section by section.

Between the records and a markup stand the blocks. They hold the content
of the file and no other, one time each and in its order
(`Block.content_ofFile`), whichever of the fields are empty.
-/

set_option autoImplicit false

namespace DocScribe

/-- A string that a document shows, and how. -/
inductive Shown where
  | text (t : Text)
  | code (t : Text)
  | block (code language : Text)
deriving DecidableEq

namespace Shown

/-- A field, which is shown unless it is empty. -/
def field (shown : Text → Shown) (t : Text) : List Shown :=
  if t = [] then [] else [shown t]

end Shown

/-! ### The content of records -/

/-- A parameter: its name, its type, its default and its description. -/
def ParameterDoc.content (p : ParameterDoc) : List Shown :=
  .code p.name :: Shown.field .text p.type ++ Shown.field .text (p.defaultValue.getD [])
    ++ Shown.field .text p.description

/-- A property: its name, its type and its description. -/
def PropertyDoc.content (p : PropertyDoc) : List Shown :=
  .code p.name :: Shown.field .text p.type ++ Shown.field .text p.description

section

variable (language : Text)

/-- A function or a method. -/
def FunctionDoc.content (f : FunctionDoc) : List Shown :=
  .text f.name :: Shown.field .text f.description ++ f.parameters.flatMap ParameterDoc.content
    ++ Shown.field .code f.returnType ++ Shown.field .text f.returnDescription
    ++ f.examples.map (Shown.block · language) ++ Shown.field .text f.complexity

/-- A constructor, which has no name. -/
def ConstructorDoc.content (c : ConstructorDoc) : List Shown :=
  Shown.field .text c.description ++ c.parameters.flatMap ParameterDoc.content
    ++ c.examples.map (Shown.block · language)

/-- A class: its parents and its constructor come before its members. -/
def ClassDoc.content (c : ClassDoc) : List Shown :=
  .text c.name :: Shown.field .text c.description ++ c.inheritance.map Shown.text
    ++ c.constructor.toList.flatMap (ConstructorDoc.content language)
    ++ c.properties.flatMap PropertyDoc.content
    ++ c.methods.flatMap (FunctionDoc.content language)

/-- An interface. -/
def InterfaceDoc.content (i : InterfaceDoc) : List Shown :=
  .text i.name :: Shown.field .text i.description ++ i.properties.flatMap PropertyDoc.content
    ++ i.methods.flatMap (FunctionDoc.content language)

/-- A constant. -/
def ConstantDoc.content (c : ConstantDoc) : List Shown :=
  .text c.name :: Shown.field .text c.description ++ Shown.field .code c.type
    ++ Shown.field .code c.value

/-- A type definition. -/
def TypeDoc.content (t : TypeDoc) : List Shown :=
  .text t.name :: Shown.field .text t.description
    ++ Shown.field (Shown.block · language) t.definition
    ++ t.examples.map (Shown.block · language)

end

/-- Of an empty description nothing is shown, of an empty item of a list
its place. -/
example : ConstructorDoc.content "python" ⟨[], [⟨"size", [], [], true, some "0"⟩], [[], "Queue()"]⟩
    = [.code "size", .text "0", .block [] "python", .block "Queue()" "python"] := by
  decide

/-- A file, with its code in the language that its labels tell. -/
def FileDoc.content (d : FileDoc) : List Shown :=
  let language := Block.exampleLanguage d
  .text d.displayName :: Shown.field .text d.overview
    ++ d.functions.flatMap (FunctionDoc.content language)
    ++ d.classes.flatMap (ClassDoc.content language)
    ++ d.interfaces.flatMap (InterfaceDoc.content language)
    ++ d.constants.flatMap ConstantDoc.content
    ++ d.types.flatMap (TypeDoc.content language)

/-! ### The content of blocks -/

/-- What a span shows besides fixed words. -/
def Span.content : Span → List Shown
  | .words _ => []
  | .text t => [.text t]
  | .code t => [.code t]

namespace Block

def lineContent (line : Inline) : List Shown := line.flatMap Span.content

/-- What a block shows besides fixed words. -/
def content : Block → List Shown
  | .heading _ line => lineContent line
  | .paragraph line => lineContent line
  | .field _ line => lineContent line
  | .bullets items => items.flatMap lineContent
  | .codeBlock code language => [.block code language]
  | _ => []

/-- What blocks behind each other show. -/
def contents (bs : List Block) : List Shown := bs.flatMap content

/-- Blocks that follow one another show their content one after the
other. -/
theorem contents_append (bs cs : List Block) : contents (bs ++ cs) = contents bs ++ contents cs :=
  List.flatMap_append

/-- The first block shows its content first. -/
theorem contents_cons (b : Block) (bs : List Block) :
    contents (b :: bs) = b.content ++ contents bs :=
  List.flatMap_cons

/-! ### Lines -/

/-- So do the parts of a line. -/
theorem lineContent_append (line more : Inline) :
    lineContent (line ++ more) = lineContent line ++ lineContent more :=
  List.flatMap_append

/-- The words between lines are no content, so joined lines show what the
lines show. Induction on the lines. -/
theorem lineContent_joinInline (sep : Text) (lines : List Inline) :
    lineContent (joinInline sep lines) = lines.flatMap lineContent := by
  induction lines with
  | nil => rfl
  | cons line lines ih =>
      cases lines with
      | nil => rw [joinInline, List.flatMap_singleton]
      | cons next lines =>
          rw [joinInline, lineContent_append, List.flatMap_cons]
          show _ ++ lineContent (joinInline sep (next :: lines)) = _
          rw [ih]

/-- Whatever is in the brackets behind a parameter, its texts stand there
in order. -/
theorem lineContent_parameterItem (p : ParameterDoc) :
    lineContent (parameterItem p) = p.content := by
  obtain ⟨name, type, description, optional, default⟩ := p
  rcases default with _ | (_ | ⟨c, default⟩) <;> cases type <;> cases optional <;>
    cases description <;> rfl

/-- A line about a property shows its name, its type and its description.
Access and readonly are words of the markup, not content. -/
theorem lineContent_propertyItem (p : PropertyDoc) :
    lineContent (propertyItem p) = p.content := by
  obtain ⟨name, type, description, access, readonly⟩ := p
  cases access <;> cases readonly <;> cases type <;> cases description <;> rfl

/-! ### Fields and lists -/

/-- A block for a text that is not empty shows a field. Without the text
there is neither a block nor a field. -/
theorem contents_ifText {block : Text → Block} {shown : Text → Shown}
    (h : ∀ t, (block t).content = [shown t]) (t : Text) :
    contents (ifText t block) = Shown.field shown t := by
  cases t with
  | nil => rfl
  | cons c t =>
      rw [ifText, contents_cons, h]
      rfl

/-- A description is shown unless it is empty. -/
theorem contents_prose (t : Text) : contents (prose t) = Shown.field .text t :=
  contents_ifText (fun _ => rfl) t

/-- Of examples the code is shown, each with the language of the file. The
label above them is no content, and it is left out if there are none. -/
theorem contents_examples (codes : List Text) (language : Text) :
    contents (examples codes language) = codes.map (Shown.block · language) := by
  cases codes with
  | nil => rfl
  | cons code codes =>
      rw [examples, contents_cons, contents, List.flatMap_map]
      exact List.map_eq_flatMap.symm

/-- A list shows what its items show; the label above it is no content. -/
theorem contents_bullets {α : Type} {item : α → Inline} {shown : α → List Shown}
    (h : ∀ a, lineContent (item a) = shown a) (as : List α) :
    contents [.bullets (as.map item)] = as.flatMap shown := by
  show (as.map item).flatMap lineContent ++ [] = as.flatMap shown
  rw [List.append_nil, List.flatMap_map, funext h]

/-- Parameters are shown in order, and their label is left out without
them. -/
theorem contents_parameters (ps : List ParameterDoc) :
    contents (parameters ps) = ps.flatMap ParameterDoc.content := by
  cases ps with
  | nil => rfl
  | cons p ps => exact contents_bullets lineContent_parameterItem (p :: ps)

/-- The description of what is returned comes behind its type, under the
same label or under one of its own. -/
theorem contents_returns (f : FunctionDoc) :
    contents (returns f)
      = Shown.field .code f.returnType ++ Shown.field .text f.returnDescription := by
  obtain ⟨name, description, parameters, returnType, returnDescription, examples, complexity⟩ := f
  cases returnType <;> cases returnDescription <;> rfl

/-- Entries show their content one after the other. What an entry shows may
depend on the entry, but not on the others. -/
theorem contents_flatMap {α : Type} {entry : α → List Block} {shown : α → List Shown}
    (h : ∀ a, contents (entry a) = shown a) (as : List α) :
    contents (as.flatMap entry) = as.flatMap shown := by
  rw [contents, List.flatMap_assoc]
  exact congrArg (as.flatMap ·) (funext h)

/-! ### Entries -/

/-- What two parts of a file show, if it is known of each of them. The
entries below are put together by this, part by part. -/
theorem contents_append_eq {bs cs : List Block} {shown more : List Shown}
    (hb : contents bs = shown) (hc : contents cs = more) : contents (bs ++ cs) = shown ++ more := by
  rw [contents_append, hb, hc]

/-- An entry begins with its name and its description, and its end shows
nothing. -/
theorem contents_entry (kind : EntryKind) (level : Nat) (name description : Text)
    {inside : List Block} {shown : List Shown} (h : contents inside = shown) :
    contents ([.entryStart kind, named level name] ++ prose description ++ inside ++ [.entryEnd])
      = .text name :: Shown.field .text description ++ shown := by
  rw [contents_append, contents_append, contents_append, contents_prose, h]
  show [] ++ ([.text name] ++ []) ++ _ ++ shown ++ [] = _
  simp

/-- A function shows all of its fields: what it is called, what it takes and
returns, its examples and its complexity. The level of its heading makes no
difference. -/
theorem contents_function (level : Nat) (language : Text) (f : FunctionDoc) :
    contents (function level language f) = f.content language := by
  have hcomplexity : contents (ifText f.complexity fun t => .field "Complexity" [.text t])
      = Shown.field .text f.complexity := contents_ifText (fun _ => rfl) f.complexity
  have hentry := contents_entry .function level f.name f.description
    (contents_append_eq (contents_append_eq (contents_append_eq (contents_parameters f.parameters)
      (contents_returns f)) (contents_examples f.examples language)) hcomplexity)
  simpa only [function, FunctionDoc.content, List.append_assoc] using hentry

/-- The properties come before the methods. Each kind has its label, which
is left out with it. -/
theorem contents_members (properties : List PropertyDoc) (methods : List FunctionDoc)
    (language : Text) :
    contents (members properties methods language)
      = properties.flatMap PropertyDoc.content
        ++ methods.flatMap (FunctionDoc.content language) := by
  refine contents_append_eq ?_ ?_
  · cases properties with
    | nil => rfl
    | cons p ps => exact contents_bullets lineContent_propertyItem (p :: ps)
  · cases methods with
    | nil => rfl
    | cons f fs => exact contents_flatMap (contents_function 5 language) (f :: fs)

/-- A constructor has no name to show; its fields are shown in order. -/
theorem contents_construction (language : Text) (c : ConstructorDoc) :
    contents (construction language c) = c.content language :=
  contents_append_eq (contents_append_eq (contents_prose c.description)
    (contents_parameters c.parameters)) (contents_examples c.examples language)

/-- The parents of a class are shown, and not the words that join them.
Joining puts words between the lines only, so the induction goes over
these. -/
theorem contents_extends (parents : List Text) :
    contents [.field "Extends" (joinInline ", " (parents.map fun parent => [.text parent]))]
      = parents.map Shown.text := by
  show lineContent (joinInline ", " (parents.map fun parent => [.text parent])) ++ [] = _
  rw [List.append_nil, lineContent_joinInline, List.flatMap_map]
  exact List.map_eq_flatMap.symm

/-- A class shows what it is derived from, its constructor if it has one,
and the members. -/
theorem contents_classEntry (language : Text) (c : ClassDoc) :
    contents (classEntry language c) = c.content language := by
  obtain ⟨name, description, made, methods, properties, parents⟩ := c
  have hparents : contents (parentsPart parents) = parents.map Shown.text := by
    cases parents with
    | nil => rfl
    | cons parent parents => exact contents_extends (parent :: parents)
  have hmade : contents (constructorPart language made)
      = made.toList.flatMap (ConstructorDoc.content language) := by
    cases made with
    | none => rfl
    | some made =>
        rw [Option.toList_some, List.flatMap_singleton]
        exact contents_construction language made
  have hentry := contents_entry .classDefinition 4 name description
    (contents_append_eq (contents_append_eq hparents hmade)
      (contents_members properties methods language))
  simp only [classEntry_eq, ClassDoc.content, List.append_assoc] at hentry ⊢
  exact hentry

/-- An interface shows its description and its members, its properties
before its methods. -/
theorem contents_interfaceEntry (language : Text) (i : InterfaceDoc) :
    contents (interfaceEntry language i) = i.content language := by
  have hentry := contents_entry .interface 4 i.name i.description
    (contents_members i.properties i.methods language)
  simpa only [interfaceEntry, InterfaceDoc.content, List.append_assoc] using hentry

/-- A constant shows its type and its value as code, each if there is one,
and its description as text. -/
theorem contents_constantEntry (c : ConstantDoc) : contents (constantEntry c) = c.content := by
  have htype : contents (ifText c.type fun t => .field "Type" [.code t])
      = Shown.field .code c.type := contents_ifText (fun _ => rfl) c.type
  have hvalue : contents (ifText c.value fun t => .field "Value" [.code t])
      = Shown.field .code c.value := contents_ifText (fun _ => rfl) c.value
  have hentry := contents_entry .constant 4 c.name c.description (contents_append_eq htype hvalue)
  simpa only [constantEntry, ConstantDoc.content, List.append_assoc] using hentry

/-- A type shows its definition as a block of code, in the language of the
file, unless it is empty. -/
theorem contents_typeEntry (language : Text) (t : TypeDoc) :
    contents (typeEntry language t) = t.content language := by
  obtain ⟨name, definition, description, codes⟩ := t
  have hdefinition : contents (definitionPart language definition)
      = Shown.field (Shown.block · language) definition := by
    cases definition <;> rfl
  have hentry := contents_entry .typeDefinition 4 name description
    (contents_append_eq hdefinition (contents_examples codes language))
  simp only [typeEntry_eq, TypeDoc.content, List.append_assoc] at hentry ⊢
  exact hentry

/-! ### Files -/

/-- The heading of a section and the marks between its entries show
nothing. -/
theorem contents_sectionOf {α : Type} (title : Text) {entry : α → List Block}
    {shown : α → List Shown} (h : ∀ a, contents (entry a) = shown a) (as : List α) :
    contents (sectionOf title entry as) = as.flatMap shown := by
  have hseparated : ∀ a, contents (entry a ++ [.separator]) = shown a := by
    intro a
    rw [contents_append, h]
    exact List.append_nil _
  cases as with
  | nil => rfl
  | cons a as => exact contents_flatMap hseparated (a :: as)

/-- **The blocks of a file show its content**, all of it once and in its
order. -/
theorem contents_ofFile (d : FileDoc) : contents (ofFile d) = d.content := by
  have hoverview : contents (overviewPart d.overview) = Shown.field .text d.overview := by
    cases d.overview <;> rfl
  let language := exampleLanguage d
  have hfunctions := contents_sectionOf "Functions" (contents_function 4 language) d.functions
  have hclasses := contents_sectionOf "Classes" (contents_classEntry language) d.classes
  have hinterfaces :=
    contents_sectionOf "Interfaces" (contents_interfaceEntry language) d.interfaces
  have hconstants := contents_sectionOf "Constants" contents_constantEntry d.constants
  have htypes := contents_sectionOf "Types" (contents_typeEntry language) d.types
  have hheading : contents [.fileStart, .heading 2 [.words "File: ", .text d.displayName]]
      = [.text d.displayName] := rfl
  have hfile := contents_append_eq (contents_append_eq (contents_append_eq (contents_append_eq
    (contents_append_eq (contents_append_eq (contents_append_eq hheading hoverview) hfunctions)
      hclasses) hinterfaces) hconstants) htypes) (show contents [.fileEnd] = [] from rfl)
  rw [List.append_nil] at hfile
  exact hfile

end Block

end DocScribe
