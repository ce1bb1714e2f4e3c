import DocScribe.Document.Block

/-!
# `DocScribe.Proofs.Document.Headings`: what stands under the heading of a file

The blocks of a file begin with its heading, on the second level. All
others stand below it: what is a heading is on a deeper level, and what is
code carries the language of the file (`exists_below_heading`). So nothing
but the labels of a file decides on its heading and on the languages of
its code.
-/

set_option autoImplicit false

namespace DocScribe.Block

/-- A block below the heading of a file in `language`. -/
def IsBelow (language : Text) : Block → Prop
  | .fileStart => False
  | .heading level _ => 2 < level
  | .codeBlock _ tag => tag = language
  | _ => True

/-- All blocks stand below the heading. -/
def AllBelow (language : Text) (bs : List Block) : Prop := ∀ b ∈ bs, b.IsBelow language

section

variable {language : Text}

/-- Without blocks there is nothing to check. -/
theorem allBelow_nil : AllBelow language [] := fun _ hb => absurd hb (by simp)

/-- One more block in front. -/
theorem allBelow_cons {b : Block} {bs : List Block} (hb : b.IsBelow language)
    (h : AllBelow language bs) : AllBelow language (b :: bs) :=
  List.forall_mem_cons.mpr ⟨hb, h⟩

/-- Two stretches of blocks, one behind the other. -/
theorem allBelow_append {bs cs : List Block} (hb : AllBelow language bs)
    (hc : AllBelow language cs) : AllBelow language (bs ++ cs) :=
  List.forall_mem_append.mpr ⟨hb, hc⟩

/-- Blocks for each entry of a list are as the blocks of one entry are,
whatever the entry. -/
theorem allBelow_flatMap {α : Type} {blocks : α → List Block}
    (h : ∀ a, AllBelow language (blocks a)) (as : List α) :
    AllBelow language (as.flatMap blocks) := by
  intro b hb
  obtain ⟨a, _, hb⟩ := List.mem_flatMap.mp hb
  exact h a b hb

/-- A block that is left out without a text. It has to be as it should for
any text that is there. -/
theorem allBelow_ifText (block : Text → Block) (h : ∀ t, (block t).IsBelow language) (t : Text) :
    AllBelow language (ifText t block) := by
  cases t with
  | nil => exact allBelow_nil
  | cons c t => exact allBelow_cons (h _) allBelow_nil

/-- A description is a paragraph. -/
theorem allBelow_prose (t : Text) : AllBelow language (prose t) :=
  allBelow_ifText (fun t => .paragraph [.text t]) (fun _ => trivial) t

/-- Examples are code in the language of the file, and this is the language
that they are tagged with. -/
theorem allBelow_examples (codes : List Text) : AllBelow language (examples codes language) := by
  cases codes with
  | nil => exact allBelow_nil
  | cons code codes =>
      refine allBelow_cons trivial fun b hb => ?_
      obtain ⟨_, _, rfl⟩ := List.mem_map.mp hb
      rfl

/-- Parameters are a list under a label. -/
theorem allBelow_parameters (ps : List ParameterDoc) : AllBelow language (parameters ps) := by
  cases ps with
  | nil => exact allBelow_nil
  | cons p ps => exact allBelow_cons trivial (allBelow_cons trivial allBelow_nil)

/-- What a function returns is a field or a paragraph under a label,
whichever of its type and its description is there. -/
theorem allBelow_returns (f : FunctionDoc) : AllBelow language (returns f) := by
  refine allBelow_append
    (allBelow_ifText (fun t => .field "Returns" [.code t]) (fun _ => trivial) _) ?_
  split
  · exact allBelow_nil
  · refine allBelow_append ?_ (allBelow_cons trivial allBelow_nil)
    split
    · exact allBelow_cons trivial allBelow_nil
    · exact allBelow_nil

/-- What an entry begins with, if its heading is deep enough. -/
theorem allBelow_entryStart (kind : EntryKind) {level : Nat} (hlevel : 2 < level) (name : Text) :
    AllBelow language [.entryStart kind, named level name] :=
  allBelow_cons trivial (allBelow_cons hlevel allBelow_nil)

/-- The end of an entry is neither a heading nor code. -/
theorem allBelow_entryEnd : AllBelow language [.entryEnd] := allBelow_cons trivial allBelow_nil

/-- A function has its own heading, on the level that it is given: the
fourth in a section, and the fifth among the members of a class. -/
theorem allBelow_function {level : Nat} (hlevel : 2 < level) (f : FunctionDoc) :
    AllBelow language (function level language f) := by
  refine allBelow_append (allBelow_append (allBelow_append (allBelow_append (allBelow_append
    (allBelow_append ?_ ?_) ?_) ?_) ?_) ?_) allBelow_entryEnd
  · exact allBelow_entryStart .function hlevel f.name
  · exact allBelow_prose f.description
  · exact allBelow_parameters f.parameters
  · exact allBelow_returns f
  · exact allBelow_examples f.examples
  · exact allBelow_ifText (fun t => .field "Complexity" [.text t]) (fun _ => trivial) f.complexity

/-- Methods are functions on the fifth level, below the class that they
belong to. -/
theorem allBelow_members (properties : List PropertyDoc) (methods : List FunctionDoc) :
    AllBelow language (members properties methods language) := by
  refine allBelow_append ?_ ?_
  · cases properties with
    | nil => exact allBelow_nil
    | cons p ps => exact allBelow_cons trivial (allBelow_cons trivial allBelow_nil)
  · cases methods with
    | nil => exact allBelow_nil
    | cons f fs => exact allBelow_cons trivial (allBelow_flatMap (allBelow_function (by decide)) _)

/-- A constructor has a label for a heading. -/
theorem allBelow_construction (c : ConstructorDoc) :
    AllBelow language (construction language c) :=
  allBelow_append (allBelow_append (allBelow_cons trivial (allBelow_prose c.description))
    (allBelow_parameters c.parameters)) (allBelow_examples c.examples)

/-- A class has its heading on the fourth level; it brings along its
constructor and its members. -/
theorem allBelow_classEntry (c : ClassDoc) : AllBelow language (classEntry language c) := by
  refine allBelow_append (allBelow_append (allBelow_append (allBelow_append (allBelow_append
    ?_ ?_) ?_) ?_) ?_) allBelow_entryEnd
  · exact allBelow_entryStart .classDefinition (by decide) c.name
  · exact allBelow_prose c.description
  · cases c.inheritance with
    | nil => exact allBelow_nil
    | cons parent parents => exact allBelow_cons trivial allBelow_nil
  · cases c.constructor with
    | none => exact allBelow_nil
    | some made => exact allBelow_construction made
  · exact allBelow_members c.properties c.methods

/-- So does an interface, without a constructor. Its members are those that
a class has. -/
theorem allBelow_interfaceEntry (i : InterfaceDoc) :
    AllBelow language (interfaceEntry language i) := by
  refine allBelow_append (allBelow_append (allBelow_append ?_ ?_) ?_) allBelow_entryEnd
  · exact allBelow_entryStart .interface (by decide) i.name
  · exact allBelow_prose i.description
  · exact allBelow_members i.properties i.methods

/-- The value of a constant is code within a line, which is not tagged. So
the language of the file is not asked for here. -/
theorem allBelow_constantEntry (c : ConstantDoc) : AllBelow language (constantEntry c) := by
  refine allBelow_append (allBelow_append (allBelow_append (allBelow_append ?_ ?_) ?_) ?_)
    allBelow_entryEnd
  · exact allBelow_entryStart .constant (by decide) c.name
  · exact allBelow_prose c.description
  · exact allBelow_ifText (fun t => .field "Type" [.code t]) (fun _ => trivial) c.type
  · exact allBelow_ifText (fun t => .field "Value" [.code t]) (fun _ => trivial) c.value

/-- The definition of a type is code in the language of the file, like its
examples. -/
theorem allBelow_typeEntry (t : TypeDoc) : AllBelow language (typeEntry language t) := by
  refine allBelow_append (allBelow_append (allBelow_append (allBelow_append ?_ ?_) ?_) ?_)
    allBelow_entryEnd
  · exact allBelow_entryStart .typeDefinition (by decide) t.name
  · exact allBelow_prose t.description
  · cases t.definition with
    | nil => exact allBelow_nil
    | cons c definition => exact allBelow_cons trivial (allBelow_cons rfl allBelow_nil)
  · exact allBelow_examples t.examples

/-- A section has its heading on the third level, right below that of the
file, and its entries under it. -/
theorem allBelow_sectionOf {α : Type} (title : Text) {entry : α → List Block}
    (h : ∀ a, AllBelow language (entry a)) (entries : List α) :
    AllBelow language (sectionOf title entry entries) := by
  cases entries with
  | nil => exact allBelow_nil
  | cons a as =>
      refine allBelow_cons (by decide : 2 < 3) (allBelow_flatMap (fun a => ?_) (a :: as))
      exact allBelow_append (h a) (allBelow_cons trivial allBelow_nil)

end

/-- The blocks of a file are its heading and what stands below. The heading
shows the name of the file, and everything below is made without looking at
it. -/
theorem exists_below_heading (doc : FileDoc) :
    ∃ below, ofFile doc = [.fileStart, .heading 2 [.words "File: ", .text doc.displayName]] ++ below
      ∧ AllBelow (exampleLanguage doc) below := by
  refine ⟨_, by simp only [ofFile, List.append_assoc]; rfl, ?_⟩
  refine allBelow_append ?_ (allBelow_append ?_ (allBelow_append ?_ (allBelow_append ?_
    (allBelow_append ?_ (allBelow_append ?_ (allBelow_cons trivial allBelow_nil))))))
  · cases doc.overview with
    | nil => exact allBelow_nil
    | cons c overview =>
        exact allBelow_cons (by decide : 2 < 3) (allBelow_cons trivial allBelow_nil)
  · exact allBelow_sectionOf "Functions" (allBelow_function (by decide)) doc.functions
  · exact allBelow_sectionOf "Classes" allBelow_classEntry doc.classes
  · exact allBelow_sectionOf "Interfaces" allBelow_interfaceEntry doc.interfaces
  · exact allBelow_sectionOf "Constants" allBelow_constantEntry doc.constants
  · exact allBelow_sectionOf "Types" allBelow_typeEntry doc.types

end DocScribe.Block
