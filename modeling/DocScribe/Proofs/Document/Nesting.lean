import DocScribe.Proofs.Document.Parts

/-!
# `DocScribe.Proofs.Document.Nesting`: the blocks of a file

The blocks of a file nest (`nested_ofFile`): what opens a file or an
entry comes before its content, and what closes it behind. And the
fixed words of a document are a short list, the `vocabulary`; all
other content is text or code, and so is written in the way of the
markup.

What a markup does with a document can then be proved block by block,
with one case for entries and one for files.
-/

set_option autoImplicit false

namespace DocScribe.Block

/-- The fixed words of documents. -/
def vocabulary : List Text :=
  ["File: ", "Overview", "Functions", "Classes", "Interfaces", "Constants", "Types", "optional",
    "= ", ", ", " (", ")", ": ", "private ", "protected ", "readonly "]

/-- Fixed words are from the vocabulary. -/
def IsKnownSpan : Span → Prop
  | .words t => t ∈ vocabulary
  | .text _ => True
  | .code _ => True

instance (span : Span) : Decidable (IsKnownSpan span) :=
  match span with
  | .words t => inferInstanceAs (Decidable (t ∈ vocabulary))
  | .text _ => .isTrue trivial
  | .code _ => .isTrue trivial

/-- All fixed words of a line are from the vocabulary. -/
def IsKnown (content : Inline) : Prop := ∀ span ∈ content, IsKnownSpan span

/-- A block that neither opens nor closes, with known words. -/
def IsLeaf : Block → Prop
  | .heading _ content => IsKnown content
  | .paragraph content => IsKnown content
  | .label _ => True
  | .field _ content => IsKnown content
  | .bullets items => ∀ item ∈ items, IsKnown item
  | .codeBlock _ _ => True
  | .separator => True
  | _ => False

/-- Blocks in which every entry and every file is closed behind its
content. -/
inductive Nested : List Block → Prop
  | nil : Nested []
  | leaf {b : Block} (h : b.IsLeaf) : Nested [b]
  | append {bs cs : List Block} (hb : Nested bs) (hc : Nested cs) : Nested (bs ++ cs)
  | entry (kind : EntryKind) {bs : List Block} (h : Nested bs) :
      Nested (.entryStart kind :: bs ++ [.entryEnd])
  | file {bs : List Block} (h : Nested bs) : Nested (.fileStart :: bs ++ [.fileEnd])

/-! ### Lines -/

/-- The empty line has no words. -/
theorem isKnown_nil : IsKnown [] := fun span hspan => absurd hspan (by simp)

/-- One more stretch in front. -/
theorem isKnown_cons {span : Span} {content : Inline} (hspan : IsKnownSpan span)
    (h : IsKnown content) : IsKnown (span :: content) :=
  List.forall_mem_cons.mpr ⟨hspan, h⟩

/-- Two parts of a line. -/
theorem isKnown_append {content more : Inline} (h : IsKnown content) (hmore : IsKnown more) :
    IsKnown (content ++ more) :=
  List.forall_mem_append.mpr ⟨h, hmore⟩

/-- A line of text counts as known, whatever the text is. -/
theorem isKnown_text (t : Text) : IsKnown [.text t] := isKnown_cons trivial isKnown_nil

/-- A line of code counts as known as well. -/
theorem isKnown_code (t : Text) : IsKnown [.code t] := isKnown_cons trivial isKnown_nil

/-- Fixed words are known if they are from the vocabulary. -/
theorem isKnown_words {t : Text} (h : t ∈ vocabulary) : IsKnown [.words t] :=
  isKnown_cons h isKnown_nil

/-- Lines that are joined by known words are known. Induction on the
lines. -/
theorem isKnown_joinInline {sep : Text} (hsep : sep ∈ vocabulary) {lines : List Inline}
    (h : ∀ line ∈ lines, IsKnown line) : IsKnown (joinInline sep lines) := by
  induction lines with
  | nil => exact isKnown_nil
  | cons line lines ih =>
      rw [List.forall_mem_cons] at h
      cases lines with
      | nil => exact h.1
      | cons next lines => exact isKnown_append h.1 (isKnown_cons hsep (ih h.2))

/-- A description behind a colon. -/
theorem isKnown_colonText (t : Text) : IsKnown (colonText t) := by
  cases t with
  | nil => exact isKnown_nil
  | cons c t => exact isKnown_cons (by decide) (isKnown_text _)

/-- The details of a parameter: its type, the word for an optional one and
its default. -/
theorem isKnown_parameterDetails (p : ParameterDoc) :
    ∀ line ∈ parameterDetails p, IsKnown line := by
  have htype : ∀ line ∈ typePart p.type, IsKnown line := by
    cases p.type with
    | nil => exact List.forall_mem_nil _
    | cons c t => exact List.forall_mem_singleton.mpr (isKnown_text _)
  have hoptional : ∀ line ∈ (if p.optional then [[Span.words "optional"]] else []),
      IsKnown line := by
    cases p.optional with
    | false => simp
    | true => exact List.forall_mem_singleton.mpr (isKnown_words (by decide))
  have hdefault : ∀ line ∈ defaultPart p.defaultValue, IsKnown line := by
    rw [defaultPart.eq_def]
    split
    · exact List.forall_mem_singleton.mpr (isKnown_cons (by decide) (isKnown_text _))
    · simp
  rw [parameterDetails_eq]
  exact List.forall_mem_append.mpr ⟨List.forall_mem_append.mpr ⟨htype, hoptional⟩, hdefault⟩

/-- A parameter, with its details in brackets and its description behind a
colon. -/
theorem isKnown_parameterItem (p : ParameterDoc) : IsKnown (parameterItem p) := by
  have hdetails : IsKnown (joinInline ", " (parameterDetails p)) :=
    isKnown_joinInline (by decide) (isKnown_parameterDetails p)
  rw [parameterItem]
  refine isKnown_append (isKnown_cons trivial ?_) (isKnown_colonText _)
  split
  · exact isKnown_nil
  · exact isKnown_cons (by decide) (isKnown_append hdetails (isKnown_words (by decide)))

/-- A property, with the words for its access and for being read-only in
front. -/
theorem isKnown_propertyItem (p : PropertyDoc) : IsKnown (propertyItem p) := by
  rw [propertyItem]
  refine isKnown_append (isKnown_append (isKnown_append ?_ ?_) (isKnown_cons trivial ?_))
    (isKnown_colonText _)
  · cases p.access with
    | everyone => exact isKnown_nil
    | owner => exact isKnown_words (by decide)
    | heirs => exact isKnown_words (by decide)
  · cases p.readonly with
    | false => exact isKnown_nil
    | true => exact isKnown_words (by decide)
  · cases p.type with
    | nil => exact isKnown_nil
    | cons c t =>
        exact isKnown_cons (by decide) (isKnown_cons trivial (isKnown_words (by decide)))

/-! ### Blocks -/

/-- A leaf before nested blocks. -/
theorem Nested.cons {b : Block} {bs : List Block} (hb : b.IsLeaf) (h : Nested bs) :
    Nested (b :: bs) :=
  .append (.leaf hb) h

/-- Blocks for each entry of a list, which are closed before the next one
begins. -/
theorem Nested.flatMap {α : Type} {blocks : α → List Block} (h : ∀ a, Nested (blocks a))
    (as : List α) : Nested (as.flatMap blocks) := by
  induction as with
  | nil => exact .nil
  | cons a as ih =>
      rw [List.flatMap_cons]
      exact .append (h a) ih

/-- A block that is left out without a text. A leaf nests wherever it
stands, and so does nothing at all. -/
theorem nested_ifText (block : Text → Block) (h : ∀ t, (block t).IsLeaf) (t : Text) :
    Nested (ifText t block) := by
  cases t with
  | nil => exact .nil
  | cons c t => exact .leaf (h _)

/-- A description is one block. -/
theorem nested_prose (t : Text) : Nested (prose t) :=
  nested_ifText (fun t => .paragraph [.text t]) isKnown_text t

/-- Examples are blocks of code under their label, and both are left out
together. -/
theorem nested_examples (codes : List Text) (language : Text) :
    Nested (examples codes language) := by
  have hcodes : ∀ codes : List Text, Nested (codes.map fun code => .codeBlock code language) := by
    intro codes
    induction codes with
    | nil => exact .nil
    | cons code codes ih => exact .cons trivial ih
  cases codes with
  | nil => exact .nil
  | cons code codes => exact .cons trivial (hcodes _)

/-- A list of items under a label. Both are leaves, and the words in the
items have to be known ones. -/
theorem nested_labelled {α : Type} (name : Text) {item : α → Inline}
    (h : ∀ a, IsKnown (item a)) (as : List α) :
    Nested [.label name, .bullets (as.map item)] := by
  refine .cons trivial (.leaf ?_)
  intro content hcontent
  obtain ⟨a, _, rfl⟩ := List.mem_map.mp hcontent
  exact h a

/-- Parameters are a list under a label. -/
theorem nested_parameters (ps : List ParameterDoc) : Nested (parameters ps) := by
  cases ps with
  | nil => exact .nil
  | cons p ps => exact nested_labelled _ isKnown_parameterItem _

/-- What a function returns is a field, a paragraph, or a label and a
paragraph. -/
theorem nested_returns (f : FunctionDoc) : Nested (returns f) := by
  rw [returns]
  refine .append (nested_ifText (fun t => .field "Returns" [.code t]) isKnown_code _) ?_
  split
  · exact .nil
  · refine .append ?_ (.leaf (isKnown_text _))
    split
    · exact .leaf trivial
    · exact .nil

/-- A function opens an entry and closes it behind all its fields. Each
field is a leaf, a label with a list under it, or nothing. -/
theorem nested_function (level : Nat) (language : Text) (f : FunctionDoc) :
    Nested (function level language f) := by
  show Nested (Block.entryStart .function :: ([named level f.name] ++ prose f.description
    ++ parameters f.parameters ++ returns f ++ examples f.examples language
    ++ ifText f.complexity _) ++ [Block.entryEnd])
  refine .entry .function (.append (.append (.append (.append (.append ?_ ?_) ?_) ?_) ?_) ?_)
  · exact .leaf (isKnown_text f.name)
  · exact nested_prose f.description
  · exact nested_parameters f.parameters
  · exact nested_returns f
  · exact nested_examples f.examples language
  · exact nested_ifText (fun t => .field "Complexity" [.text t]) isKnown_text f.complexity

/-- Methods are entries of their own, inside that of their class or
interface. -/
theorem nested_members (properties : List PropertyDoc) (methods : List FunctionDoc)
    (language : Text) : Nested (members properties methods language) := by
  show Nested (_ ++ _)
  refine .append ?_ ?_
  · cases properties with
    | nil => exact .nil
    | cons p ps => exact nested_labelled _ isKnown_propertyItem _
  · cases methods with
    | nil => exact .nil
    | cons f fs => exact .cons trivial (.flatMap (nested_function 5 language) _)

/-- A constructor is no entry: it belongs to its class. -/
theorem nested_construction (language : Text) (c : ConstructorDoc) :
    Nested (construction language c) :=
  .append (.append (.cons trivial (nested_prose c.description)) (nested_parameters c.parameters))
    (nested_examples c.examples language)

/-- A class closes its entry behind its members, each of which has closed
its own. -/
theorem nested_classEntry (language : Text) (c : ClassDoc) : Nested (classEntry language c) := by
  show Nested (Block.entryStart .classDefinition :: ([named 4 c.name] ++ prose c.description
    ++ (_ : List Block) ++ (_ : List Block) ++ members c.properties c.methods language)
    ++ [Block.entryEnd])
  refine .entry .classDefinition (.append (.append (.append (.append ?_ ?_) ?_) ?_) ?_)
  · exact .leaf (isKnown_text c.name)
  · exact nested_prose c.description
  · cases c.inheritance with
    | nil => exact .nil
    | cons parent parents =>
        refine .leaf (isKnown_joinInline (by decide) fun line hline => ?_)
        obtain ⟨name, _, rfl⟩ := List.mem_map.mp hline
        exact isKnown_text name
  · cases c.constructor with
    | none => exact .nil
    | some made => exact nested_construction language made
  · exact nested_members c.properties c.methods language

/-- So does an interface, which has neither parents nor a constructor. What
is left of the entry of a class are the description and the members. -/
theorem nested_interfaceEntry (language : Text) (i : InterfaceDoc) :
    Nested (interfaceEntry language i) := by
  show Nested (Block.entryStart .interface :: ([named 4 i.name] ++ prose i.description
    ++ members i.properties i.methods language) ++ [Block.entryEnd])
  refine .entry .interface (.append (.append ?_ ?_) ?_)
  · exact .leaf (isKnown_text i.name)
  · exact nested_prose i.description
  · exact nested_members i.properties i.methods language

/-- A constant is an entry with two fields at most, for its type and its
value. -/
theorem nested_constantEntry (c : ConstantDoc) : Nested (constantEntry c) := by
  show Nested (Block.entryStart .constant :: ([named 4 c.name] ++ prose c.description
    ++ ifText c.type _ ++ ifText c.value _) ++ [Block.entryEnd])
  refine .entry .constant (.append (.append (.append ?_ ?_) ?_) ?_)
  · exact .leaf (isKnown_text c.name)
  · exact nested_prose c.description
  · exact nested_ifText (fun t => .field "Type" [.code t]) isKnown_code c.type
  · exact nested_ifText (fun t => .field "Value" [.code t]) isKnown_code c.value

/-- A type is an entry with a block of code, for its definition. If there is
no definition the block is left out, and the label in front of it, too. -/
theorem nested_typeEntry (language : Text) (t : TypeDoc) : Nested (typeEntry language t) := by
  show Nested (Block.entryStart .typeDefinition :: ([named 4 t.name] ++ prose t.description
    ++ (_ : List Block) ++ examples t.examples language) ++ [Block.entryEnd])
  refine .entry .typeDefinition (.append (.append (.append ?_ ?_) ?_) ?_)
  · exact .leaf (isKnown_text t.name)
  · exact nested_prose t.description
  · cases t.definition with
    | nil => exact .nil
    | cons c definition => exact .cons trivial (.leaf trivial)
  · exact nested_examples t.examples language

/-- A section nests if its entries do and its title is known. Behind each
entry stands a separator, outside of it. -/
theorem nested_sectionOf {α : Type} {title : Text} (htitle : title ∈ vocabulary)
    {entry : α → List Block} (h : ∀ a, Nested (entry a)) (entries : List α) :
    Nested (sectionOf title entry entries) := by
  cases entries with
  | nil => exact .nil
  | cons a as =>
      refine .cons (isKnown_words htitle) (.flatMap (fun a => ?_) (a :: as))
      exact .append (h a) (.leaf trivial)

/-- The blocks of a file nest, part by part: what is proved of nested blocks
is true of every file. -/
theorem nested_ofFile (doc : FileDoc) : Nested (ofFile doc) := by
  show Nested (Block.fileStart :: ([Block.heading 2 [.words "File: ", .text doc.displayName]]
    ++ (_ : List Block) ++ sectionOf "Functions" _ doc.functions
    ++ sectionOf "Classes" _ doc.classes ++ sectionOf "Interfaces" _ doc.interfaces
    ++ sectionOf "Constants" _ doc.constants ++ sectionOf "Types" _ doc.types)
    ++ [Block.fileEnd])
  refine .file (.append (.append (.append (.append (.append (.append ?_ ?_) ?_) ?_) ?_) ?_) ?_)
  · exact .leaf (isKnown_cons (by decide) (isKnown_text doc.displayName))
  · cases doc.overview with
    | nil => exact .nil
    | cons c overview => exact .cons (isKnown_words (by decide)) (.leaf (isKnown_text _))
  · exact nested_sectionOf (by decide) (nested_function 4 _) doc.functions
  · exact nested_sectionOf (by decide) (nested_classEntry _) doc.classes
  · exact nested_sectionOf (by decide) (nested_interfaceEntry _) doc.interfaces
  · exact nested_sectionOf (by decide) nested_constantEntry doc.constants
  · exact nested_sectionOf (by decide) (nested_typeEntry _) doc.types

end DocScribe.Block
