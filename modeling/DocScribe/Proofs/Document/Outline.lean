import DocScribe.Document.Block

/-!
# `DocScribe.Proofs.Document.Outline`: the shape of documentation

The outline of a record keeps which texts are empty, how long the
lists are, the flags, the ways of access and whether there is a
constructor; of a text that is not empty it keeps nothing else. Two
files have the same shape if their outlines are equal and their
examples are in the same language.

The blocks of a file depend on its texts in two ways only: a text that
is empty is left out, and one that is not stands in its place in a
block. So files of the same shape have the same blocks up to the texts
in them (`outlines_ofFile`).
-/

set_option autoImplicit false

namespace DocScribe

/-! ### Outlines of records -/

/-- One text for all that are not empty. -/
def Text.outline : Text → Text
  | [] => []
  | _ :: _ => "x"

namespace ParameterDoc

/-- An empty default is as good as none. -/
def outline (p : ParameterDoc) : ParameterDoc where
  name := p.name.outline
  type := p.type.outline
  description := p.description.outline
  optional := p.optional
  defaultValue :=
    match p.defaultValue with
    | some (_ :: _) => some "x"
    | _ => none

end ParameterDoc

/-- Of a list of texts the length is kept. -/
def outlineTexts (ts : List Text) : List Text := ts.map fun _ => []

namespace FunctionDoc

def outline (f : FunctionDoc) : FunctionDoc where
  name := f.name.outline
  description := f.description.outline
  parameters := f.parameters.map ParameterDoc.outline
  returnType := f.returnType.outline
  returnDescription := f.returnDescription.outline
  examples := outlineTexts f.examples
  complexity := f.complexity.outline

end FunctionDoc

namespace ConstructorDoc

def outline (c : ConstructorDoc) : ConstructorDoc where
  description := c.description.outline
  parameters := c.parameters.map ParameterDoc.outline
  examples := outlineTexts c.examples

end ConstructorDoc

namespace PropertyDoc

def outline (p : PropertyDoc) : PropertyDoc where
  name := p.name.outline
  type := p.type.outline
  description := p.description.outline
  access := p.access
  readonly := p.readonly

end PropertyDoc

namespace ClassDoc

def outline (c : ClassDoc) : ClassDoc where
  name := c.name.outline
  description := c.description.outline
  constructor := c.constructor.map ConstructorDoc.outline
  methods := c.methods.map FunctionDoc.outline
  properties := c.properties.map PropertyDoc.outline
  inheritance := outlineTexts c.inheritance

end ClassDoc

namespace InterfaceDoc

def outline (i : InterfaceDoc) : InterfaceDoc where
  name := i.name.outline
  description := i.description.outline
  properties := i.properties.map PropertyDoc.outline
  methods := i.methods.map FunctionDoc.outline

end InterfaceDoc

namespace ConstantDoc

def outline (c : ConstantDoc) : ConstantDoc where
  name := c.name.outline
  type := c.type.outline
  value := c.value.outline
  description := c.description.outline

end ConstantDoc

namespace TypeDoc

def outline (t : TypeDoc) : TypeDoc where
  name := t.name.outline
  definition := t.definition.outline
  description := t.description.outline
  examples := outlineTexts t.examples

end TypeDoc

namespace FileDoc

/-- The labels are left out: what counts of them is the language that
they tell. -/
def outline (d : FileDoc) : FileDoc where
  overview := d.overview.outline
  functions := d.functions.map FunctionDoc.outline
  classes := d.classes.map ClassDoc.outline
  interfaces := d.interfaces.map InterfaceDoc.outline
  constants := d.constants.map ConstantDoc.outline
  types := d.types.map TypeDoc.outline
  fileName := none
  filePath := none

/-- Two files differ in the texts that are not empty, if at all. -/
def SameShape (d e : FileDoc) : Prop :=
  d.outline = e.outline ∧ Block.exampleLanguage d = Block.exampleLanguage e

end FileDoc

/-! ### Outlines of blocks -/

/-- A span without its text. -/
def Span.outline : Span → Span
  | .words t => .words t
  | .text _ => .text []
  | .code _ => .code []

namespace Block

/-- A line without its texts. -/
def outlineLine (content : Inline) : Inline := content.map Span.outline

/-- A block without its texts. -/
def outline : Block → Block
  | .heading level content => .heading level (outlineLine content)
  | .paragraph content => .paragraph (outlineLine content)
  | .field name content => .field name (outlineLine content)
  | .bullets items => .bullets (items.map outlineLine)
  | .codeBlock _ language => .codeBlock [] language
  | b => b

/-- Blocks without their texts. -/
def outlines (bs : List Block) : List Block := bs.map outline

/-- Blocks behind each other are outlined one after the other. -/
theorem outlines_append {bs bs' cs cs' : List Block} (hb : outlines bs = outlines bs')
    (hc : outlines cs = outlines cs') : outlines (bs ++ cs) = outlines (bs' ++ cs') := by
  simp only [outlines, List.map_append] at hb hc ⊢
  rw [hb, hc]

/-! ### Lines of a shape -/

/-- The outline of a line is that of its parts. -/
theorem outlineLine_append (content more : Inline) :
    outlineLine (content ++ more) = outlineLine content ++ outlineLine more :=
  List.map_append

/-- Words between lines stay as they are: they are no content. Induction on
the lines. -/
theorem outlineLine_joinInline (sep : Text) (lines : List Inline) :
    outlineLine (joinInline sep lines) = joinInline sep (lines.map outlineLine) := by
  induction lines with
  | nil => rfl
  | cons line lines ih =>
      cases lines with
      | nil => rfl
      | cons next lines =>
          rw [joinInline, outlineLine_append]
          show outlineLine line ++ .words sep :: outlineLine (joinInline sep (next :: lines)) = _
          rw [ih]
          rfl

/-- What is in brackets behind a parameter, and whether there are
brackets, depends on what is empty. -/
theorem outlineLine_parameterItem (p : ParameterDoc) :
    outlineLine (parameterItem p.outline) = outlineLine (parameterItem p) := by
  obtain ⟨name, type, description, optional, default⟩ := p
  -- Every detail is there or not, and what is there stands in its place.
  rcases default with _ | (_ | ⟨c, default⟩) <;> cases type <;> cases optional <;>
    cases description <;> rfl

/-- A line about a property has the outline of the one about its outline.
Which words stand in it is told by access, readonly and whether there is a
type. -/
theorem outlineLine_propertyItem (p : PropertyDoc) :
    outlineLine (propertyItem p.outline) = outlineLine (propertyItem p) := by
  obtain ⟨name, type, description, access, readonly⟩ := p
  cases access <;> cases readonly <;> cases type <;> cases description <;> rfl

/-! ### Blocks of a shape -/

/-- A description is there or not, in the outline as in the record. -/
theorem outlines_prose (t : Text) : outlines (prose t.outline) = outlines (prose t) := by
  cases t <;> rfl

/-- There are as many examples, and a label above them unless there are
none. -/
theorem outlines_examples (codes : List Text) (language : Text) :
    outlines (examples (outlineTexts codes) language) = outlines (examples codes language) := by
  have hcodes : ∀ codes : List Text,
      outlines ((outlineTexts codes).map fun code => .codeBlock code language)
        = outlines (codes.map fun code => .codeBlock code language) := by
    intro codes
    simp only [outlines, outlineTexts, List.map_map]
    rfl
  cases codes with
  | nil => rfl
  | cons code codes => exact congrArg (Block.label "Examples" :: ·) (hcodes (code :: codes))

/-- Items keep the outlines of their lines. There are as many of them, and
each is looked at for itself. -/
theorem outline_bullets {α : Type} {item : α → Inline} {outlineOf : α → α}
    (h : ∀ a, outlineLine (item (outlineOf a)) = outlineLine (item a)) (as : List α) :
    outline (.bullets ((as.map outlineOf).map item)) = outline (.bullets (as.map item)) := by
  simp only [outline, List.map_map]
  congr 1
  exact List.map_congr_left fun a _ => h a

/-- There are as many parameters, in the same order. If there are none, the
label above them is left out in both cases. -/
theorem outlines_parameters (ps : List ParameterDoc) :
    outlines (parameters (ps.map ParameterDoc.outline)) = outlines (parameters ps) := by
  cases ps with
  | nil => rfl
  | cons p ps =>
      exact congrArg ([Block.label "Parameters", ·])
        (outline_bullets outlineLine_parameterItem (p :: ps))

/-- Whether there is a label above what a function returns depends on two
texts being empty, and they are empty in the outline if they are in the
function. -/
theorem outlines_returns (f : FunctionDoc) :
    outlines (returns f.outline) = outlines (returns f) := by
  obtain ⟨name, description, parameters, returnType, returnDescription, examples, complexity⟩ := f
  cases returnType <;> cases returnDescription <;> rfl

/-- A field of one span keeps its outline. Whether it is there depends on
the text being empty, and that much an outline keeps. -/
theorem outlines_ifText (block : Text → Block) (h : ∀ t u, outline (block t) = outline (block u))
    (t : Text) : outlines (ifText t.outline block) = outlines (ifText t block) := by
  cases t with
  | nil => rfl
  | cons c t => exact congrArg ([·]) (h _ _)

/-- A function shows the blocks of its outline, and the texts are all that
differs. -/
theorem outlines_function (level : Nat) (language : Text) (f : FunctionDoc) :
    outlines (function level language f.outline) = outlines (function level language f) := by
  -- The marks of the entry and its heading keep their outlines by definition.
  refine outlines_append (outlines_append (outlines_append (outlines_append (outlines_append
    (outlines_append rfl ?_) ?_) ?_) ?_) ?_) rfl
  · exact outlines_prose f.description
  · exact outlines_parameters f.parameters
  · exact outlines_returns f
  · exact outlines_examples f.examples language
  · exact outlines_ifText (fun t => .field "Complexity" [.text t]) (fun _ _ => rfl) f.complexity

/-- Entries keep the outlines of their blocks: if each of them does, so does
a list of them, since outlining changes nothing about how many there are. -/
theorem outlines_flatMap {α : Type} (entry : α → List Block) {outlineOf : α → α}
    (h : ∀ a, outlines (entry (outlineOf a)) = outlines (entry a)) (as : List α) :
    outlines ((as.map outlineOf).flatMap entry) = outlines (as.flatMap entry) := by
  induction as with
  | nil => rfl
  | cons a as ih =>
      rw [List.map_cons, List.flatMap_cons, List.flatMap_cons]
      exact outlines_append (h a) ih

/-- There are as many properties and methods, and none of one kind under the
label of the other. -/
theorem outlines_members (properties : List PropertyDoc) (methods : List FunctionDoc)
    (language : Text) :
    outlines (members (properties.map PropertyDoc.outline) (methods.map FunctionDoc.outline)
        language)
      = outlines (members properties methods language) := by
  refine outlines_append ?_ ?_
  · cases properties with
    | nil => rfl
    | cons p ps =>
        exact congrArg ([Block.label "Properties", ·])
          (outline_bullets outlineLine_propertyItem (p :: ps))
  · cases methods with
    | nil => rfl
    | cons f fs =>
        exact congrArg (Block.label "Methods" :: ·)
          (outlines_flatMap _ (outlines_function 5 language) (f :: fs))

/-- A constructor has the outline of its outline, with as many parameters
and examples. -/
theorem outlines_construction (language : Text) (c : ConstructorDoc) :
    outlines (construction language c.outline) = outlines (construction language c) := by
  refine outlines_append (outlines_append ?_ ?_) ?_
  · exact congrArg (Block.label "Constructor" :: ·) (outlines_prose c.description)
  · exact outlines_parameters c.parameters
  · exact outlines_examples c.examples language

/-- The parents of a class are joined by words that do not depend on
their names. -/
theorem outline_extends (parents : List Text) :
    outline (.field "Extends" (joinInline ", " ((outlineTexts parents).map fun t => [.text t])))
      = outline (.field "Extends" (joinInline ", " (parents.map fun t => [.text t]))) := by
  simp only [outline, outlineLine_joinInline, outlineTexts, List.map_map]
  rfl

/-- A class has the outline of its outline, with its constructor or without
one, and with as many parents in its line. -/
theorem outlines_classEntry (language : Text) (c : ClassDoc) :
    outlines (classEntry language c.outline) = outlines (classEntry language c) := by
  obtain ⟨name, description, made, methods, properties, parents⟩ := c
  refine outlines_append (outlines_append (outlines_append (outlines_append
    (outlines_append rfl ?_) ?_) ?_) ?_) rfl
  · exact outlines_prose description
  · cases parents with
    | nil => rfl
    | cons parent parents => exact congrArg ([·]) (outline_extends (parent :: parents))
  · cases made with
    | none => rfl
    | some made => exact outlines_construction language made
  · exact outlines_members properties methods language

/-- An interface has the outline of its outline, in its properties and its
methods. -/
theorem outlines_interfaceEntry (language : Text) (i : InterfaceDoc) :
    outlines (interfaceEntry language i.outline) = outlines (interfaceEntry language i) := by
  refine outlines_append (outlines_append (outlines_append rfl ?_) ?_) rfl
  · exact outlines_prose i.description
  · exact outlines_members i.properties i.methods language

/-- A constant has the outline of its outline, with its type and its value
if there are any. -/
theorem outlines_constantEntry (c : ConstantDoc) :
    outlines (constantEntry c.outline) = outlines (constantEntry c) := by
  refine outlines_append (outlines_append (outlines_append (outlines_append rfl ?_) ?_) ?_) rfl
  · exact outlines_prose c.description
  · exact outlines_ifText (fun t => .field "Type" [.code t]) (fun _ _ => rfl) c.type
  · exact outlines_ifText (fun t => .field "Value" [.code t]) (fun _ _ => rfl) c.value

/-- A type has the outline of its outline. Its definition is a block of code
or nothing. -/
theorem outlines_typeEntry (language : Text) (t : TypeDoc) :
    outlines (typeEntry language t.outline) = outlines (typeEntry language t) := by
  obtain ⟨name, definition, description, codes⟩ := t
  refine outlines_append (outlines_append (outlines_append (outlines_append rfl ?_) ?_) ?_) rfl
  · exact outlines_prose description
  · cases definition <;> rfl
  · exact outlines_examples codes language

/-- A section keeps the outlines of its entries, and it is there if
they are. -/
theorem outlines_sectionOf {α : Type} (title : Text) {entry : α → List Block} {outlineOf : α → α}
    (h : ∀ a, outlines (entry (outlineOf a)) = outlines (entry a)) (as : List α) :
    outlines (sectionOf title entry (as.map outlineOf)) = outlines (sectionOf title entry as) := by
  cases as with
  | nil => rfl
  | cons a as =>
      have hentries := outlines_flatMap (fun a => entry a ++ [.separator])
        (fun a => outlines_append (h a) rfl) (a :: as)
      exact congrArg (Block.heading 3 [.words title] :: ·) hentries

/-- The blocks of a file with another language for its examples. -/
def ofFileIn (language : Text) (doc : FileDoc) : List Block :=
  [.fileStart, .heading 2 [.words "File: ", .text doc.displayName]]
    ++ (match doc.overview with
      | [] => []
      | _ :: _ => [.heading 3 [.words "Overview"], .paragraph [.text doc.overview]])
    ++ sectionOf "Functions" (function 4 language) doc.functions
    ++ sectionOf "Classes" (classEntry language) doc.classes
    ++ sectionOf "Interfaces" (interfaceEntry language) doc.interfaces
    ++ sectionOf "Constants" constantEntry doc.constants
    ++ sectionOf "Types" (typeEntry language) doc.types
    ++ [.fileEnd]

/-- The labels of a file come into its blocks as the language of its
examples, and else only as its heading. -/
theorem ofFile_eq (doc : FileDoc) : ofFile doc = ofFileIn (exampleLanguage doc) doc := rfl

/-- If that language is kept, the blocks of a file have the outlines of the
blocks of its outline, section by section. -/
theorem outlines_ofFileIn (language : Text) (doc : FileDoc) :
    outlines (ofFileIn language doc.outline) = outlines (ofFileIn language doc) := by
  obtain ⟨overview, functions, classes, interfaces, constants, types, name, path⟩ := doc
  refine outlines_append (outlines_append (outlines_append (outlines_append (outlines_append
    (outlines_append (outlines_append rfl ?_) ?_) ?_) ?_) ?_) ?_) rfl
  · cases overview <;> rfl
  · exact outlines_sectionOf "Functions" (outlines_function 4 language) functions
  · exact outlines_sectionOf "Classes" (outlines_classEntry language) classes
  · exact outlines_sectionOf "Interfaces" (outlines_interfaceEntry language) interfaces
  · exact outlines_sectionOf "Constants" outlines_constantEntry constants
  · exact outlines_sectionOf "Types" (outlines_typeEntry language) types

/-- Files of the same shape have the same blocks up to the texts in
them. -/
theorem outlines_ofFile {d e : FileDoc} (h : d.SameShape e) :
    outlines (ofFile d) = outlines (ofFile e) := by
  obtain ⟨houtline, hlanguage⟩ := h
  -- From `d` over the common outline to `e`, both times in the language of `d`.
  rw [ofFile_eq, ofFile_eq, ← outlines_ofFileIn, houtline, outlines_ofFileIn, hlanguage]

end Block

end DocScribe
