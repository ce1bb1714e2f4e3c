import DocScribe.Document.Rendering
import DocScribe.Proofs.Document.Content
import DocScribe.Proofs.Document.Nesting
import DocScribe.Proofs.Record.Wholeness
import DocScribe.Proofs.Text.Joining

/-!
# `DocScribe.Proofs.Document.Wholeness`: documents show the surrogates of their files

A document has a surrogate exactly if one of its files has, in every
format (`Document.isWhole_iff_of_renderAt?`). Everything that is not content is
ASCII: fixed words, the names of labels and fields, languages, tags, marks
and the time. And no way of writing a text takes a surrogate away or brings
one up: backticks and entities are ASCII, only blanks are dropped, and an
archive escapes no more than it has to.

For Markdown and HTML the blocks of a file are gone through once, for both
(`Block.areWhole_ofFile`).
-/

set_option autoImplicit false

namespace DocScribe

open Json

/-! ### Paths -/

/-- The name of a path is a part of its text, so it has no surrogate that
the text has not. -/
theorem Path.isWhole_name {t : Text} (h : Json.IsWhole t) : Json.IsWhole (Path.ofText t).name := by
  have hsegment : ∀ segment ∈ (Path.ofText t).segments, Json.IsWhole segment := by
    intro segment hsegment
    exact isWhole_of_subset (Text.infix_of_mem_splitOn (List.mem_filter.mp hsegment).1).1.subset h
  rw [Path.name, List.getLastD_eq_getLast?]
  cases hlast : (Path.ofText t).segments.getLast? with
  | none => exact isWhole_nil
  | some last => exact hsegment last (List.mem_of_getLast? hlast)

/-- The labels of a file are without surrogates. -/
def FileDoc.HasWholeLabels (doc : FileDoc) : Prop :=
  (∀ t ∈ doc.fileName, Json.IsWhole t) ∧ ∀ t ∈ doc.filePath, Json.IsWhole t

/-- A file labelled with a path has whole labels if the path is whole. The
name of the file is a part of the path. -/
theorem FileDoc.hasWholeLabels_withSource (doc : FileDoc) {path : Text} (h : Json.IsWhole path) :
    (doc.withSource path).HasWholeLabels := by
  refine ⟨fun t ht => ?_, fun t ht => ?_⟩
  · exact Option.some.inj ht ▸ Path.isWhole_name h
  · exact Option.some.inj ht ▸ h

/-- Labels are all that is changed. -/
theorem FileDoc.IsWhole.withSource {doc : FileDoc} (h : doc.IsWhole) {path : Text}
    (hpath : Json.IsWhole path) : (doc.withSource path).IsWhole := by
  obtain ⟨hname, hpath⟩ := doc.hasWholeLabels_withSource hpath
  exact ⟨h.overview, h.functions, h.classes, h.interfaces, h.constants, h.types, hname, hpath⟩

/-! ### Lines -/

/-- A stretch of a line without surrogates. -/
def Span.IsWhole : Span → Prop
  | .words t => Json.IsWhole t
  | .text t => Json.IsWhole t
  | .code t => Json.IsWhole t

/-- Something shown, without surrogates. -/
def Shown.IsWhole : Shown → Prop
  | .text t => Json.IsWhole t
  | .code t => Json.IsWhole t
  | .block t language => Json.IsWhole t ∧ Json.IsWhole language

/-- A text shown is whole if it has no surrogates. -/
theorem Shown.isWhole_text (t : Text) : (Shown.text t).IsWhole ↔ Json.IsWhole t := Iff.rfl

/-- A code shown within a line is whole if it has no surrogates. -/
theorem Shown.isWhole_code (t : Text) : (Shown.code t).IsWhole ↔ Json.IsWhole t := Iff.rfl

/-- A field that is left out because it is empty has no surrogates, so the
condition is the same whether it is left out or not. -/
theorem Shown.isWhole_field_iff {shown : Text → Shown} (h : ∀ t, (shown t).IsWhole ↔ Json.IsWhole t)
    {t : Text} : (∀ s ∈ field shown t, s.IsWhole) ↔ Json.IsWhole t := by
  cases t with
  | nil => exact iff_of_true (List.forall_mem_nil _) isWhole_nil
  | cons c t => exact List.forall_mem_singleton.trans (h (c :: t))

namespace Block

/-- All of a line is without surrogates. -/
def IsWholeLine (line : Inline) : Prop := ∀ span ∈ line, span.IsWhole

/-- The fixed words are ASCII. -/
theorem isWhole_of_mem_vocabulary : ∀ t ∈ vocabulary, Json.IsWhole t := by decide

/-- Of a line with known words the content counts: these words are ASCII.
The condition is needed, as a line could hold any words in principle. -/
theorem isWholeLine_iff {line : Inline} (h : IsKnown line) :
    IsWholeLine line ↔ ∀ s ∈ lineContent line, s.IsWhole := by
  rw [IsWholeLine, lineContent]
  simp only [List.forall_mem_flatMap]
  refine forall₂_congr fun span hspan => ?_
  cases span with
  | words t => exact iff_of_true (isWhole_of_mem_vocabulary t (h _ hspan)) (List.forall_mem_nil _)
  | text t => rw [Span.content, List.forall_mem_singleton]; rfl
  | code t => rw [Span.content, List.forall_mem_singleton]; rfl

/-- A line of one text. -/
theorem isWholeLine_text {t : Text} : IsWholeLine [.text t] ↔ Json.IsWhole t :=
  List.forall_mem_singleton

/-- A line of one stretch of code. -/
theorem isWholeLine_code {t : Text} : IsWholeLine [.code t] ↔ Json.IsWhole t :=
  List.forall_mem_singleton

/-- What a parameter shows is all of its texts, so its line is whole exactly
if the parameter is. -/
theorem isWholeLine_parameterItem (p : ParameterDoc) :
    IsWholeLine (parameterItem p) ↔ p.IsWhole := by
  have hdefault : Json.IsWhole (p.defaultValue.getD []) ↔ ∀ t ∈ p.defaultValue, Json.IsWhole t := by
    cases p.defaultValue <;> simp [isWhole_nil]
  rw [isWholeLine_iff (isKnown_parameterItem p), lineContent_parameterItem, ParameterDoc.content,
    ParameterDoc.isWhole_iff]
  simp only [List.forall_mem_append, List.forall_mem_cons, Shown.isWhole_code,
    Shown.isWhole_field_iff Shown.isWhole_text, hdefault]
  tauto

/-- A line about a property is whole exactly if the property is: all its
texts stand in the line. -/
theorem isWholeLine_propertyItem (p : PropertyDoc) :
    IsWholeLine (propertyItem p) ↔ p.IsWhole := by
  rw [isWholeLine_iff (isKnown_propertyItem p), lineContent_propertyItem, PropertyDoc.content,
    PropertyDoc.isWhole_iff]
  simp only [List.forall_mem_append, List.forall_mem_cons, Shown.isWhole_code,
    Shown.isWhole_field_iff Shown.isWhole_text, and_assoc]

/-! ### Blocks -/

/-- A block without surrogates, fixed words and languages included. -/
def IsWholeBlock : Block → Prop
  | .heading _ line => IsWholeLine line
  | .paragraph line => IsWholeLine line
  | .label name => Json.IsWhole name
  | .field name line => Json.IsWhole name ∧ IsWholeLine line
  | .bullets lines => ∀ line ∈ lines, IsWholeLine line
  | .codeBlock code language => Json.IsWhole code ∧ Json.IsWhole language
  | _ => True

/-- Blocks without surrogates. -/
def AreWhole (bs : List Block) : Prop := ∀ b ∈ bs, b.IsWholeBlock

/-- Without blocks nothing can be wrong. -/
theorem areWhole_nil : AreWhole [] := List.forall_mem_nil _

/-- One more block in front. -/
theorem areWhole_cons {b : Block} {bs : List Block} :
    AreWhole (b :: bs) ↔ b.IsWholeBlock ∧ AreWhole bs :=
  List.forall_mem_cons

/-- Two stretches of blocks. -/
theorem areWhole_append {bs cs : List Block} : AreWhole (bs ++ cs) ↔ AreWhole bs ∧ AreWhole cs :=
  List.forall_mem_append

/-- A single block. -/
theorem areWhole_singleton {b : Block} : AreWhole [b] ↔ b.IsWholeBlock := List.forall_mem_singleton

/-- A label with an ASCII name. -/
theorem areWhole_label {name : Text} (h : Json.IsWhole name) : AreWhole [.label name] :=
  areWhole_singleton.mpr h

/-- Blocks for each entry of a list are whole if all the entries are, and
only then. So a list of entries is as whole as its worst one. -/
theorem areWhole_flatMap {α : Type} {entry : α → List Block} {P : α → Prop}
    (h : ∀ a, AreWhole (entry a) ↔ P a) (as : List α) :
    AreWhole (as.flatMap entry) ↔ ∀ a ∈ as, P a := by
  rw [AreWhole]
  simp only [List.forall_mem_flatMap]
  exact forall₂_congr fun a _ => h a

/-- A block that is left out without a text, which is whole when it is
empty. -/
theorem areWhole_ifText (block : Text → Block)
    (h : ∀ t, (block t).IsWholeBlock ↔ Json.IsWhole t) (t : Text) :
    AreWhole (ifText t block) ↔ Json.IsWhole t := by
  cases t with
  | nil => exact iff_of_true areWhole_nil isWhole_nil
  | cons c t => exact areWhole_singleton.trans (h _)

/-- A description. -/
theorem areWhole_prose (t : Text) : AreWhole (prose t) ↔ Json.IsWhole t :=
  areWhole_ifText (fun t => .paragraph [.text t]) (fun _ => isWholeLine_text) t

/-- A field that holds a text or code, under an ASCII name. -/
theorem areWhole_field {name : Text} (hname : Json.IsWhole name) {line : Text → Inline}
    (h : ∀ t, IsWholeLine (line t) ↔ Json.IsWhole t) (t : Text) :
    AreWhole (ifText t fun t => .field name (line t)) ↔ Json.IsWhole t :=
  areWhole_ifText (fun t => .field name (line t)) (fun t => (and_iff_right hname).trans (h t)) t

/-- A list under a label is whole if its items are. Without items both are
left out, and then there is nothing to be whole. -/
theorem areWhole_bullets {α : Type} {item : α → Inline} {P : α → Prop}
    (h : ∀ a, IsWholeLine (item a) ↔ P a) {name : Text} (hname : Json.IsWhole name) (as : List α) :
    AreWhole [.label name, .bullets (as.map item)] ↔ ∀ a ∈ as, P a := by
  rw [areWhole_cons, areWhole_singleton]
  refine (and_iff_right hname).trans ?_
  rw [IsWholeBlock, List.forall_mem_map]
  exact forall₂_congr fun a _ => h a

/-- Parameters are whole on the page if they are as records: every text that
they hold is shown. -/
theorem areWhole_parameters (ps : List ParameterDoc) :
    AreWhole (parameters ps) ↔ ∀ p ∈ ps, p.IsWhole := by
  cases ps with
  | nil => exact iff_of_true areWhole_nil (List.forall_mem_nil _)
  | cons p ps => exact areWhole_bullets isWholeLine_parameterItem (by decide) (p :: ps)

/-- What a function returns, wherever its description comes to stand: below
the type, or below a label of its own. -/
theorem areWhole_returns (f : FunctionDoc) :
    AreWhole (returns f)
      ↔ Json.IsWhole f.returnType ∧ Json.IsWhole f.returnDescription := by
  have hlabel : AreWhole (returnsLabel f.returnType) := by
    cases f.returnType with
    | nil => exact areWhole_label (by decide)
    | cons c t => exact areWhole_nil
  rw [returns_eq, areWhole_append, areWhole_field (by decide) (fun _ => isWholeLine_code)]
  refine and_congr_right fun _ => ?_
  cases f.returnDescription with
  | nil => exact iff_of_true areWhole_nil isWhole_nil
  | cons c t =>
      rw [if_neg (List.cons_ne_nil c t), areWhole_append, areWhole_singleton]
      exact (and_iff_right hlabel).trans isWholeLine_text

/-- The parents of a class, joined by commas, are whole if each of them
is. -/
theorem areWhole_extends (parents : List Text) :
    AreWhole [.field "Extends" (joinInline ", " (parents.map fun parent => [.text parent]))]
      ↔ AllWhole parents := by
  have hname : Json.IsWhole "Extends" := by decide
  have hlines : ∀ line ∈ parents.map fun parent => [Span.text parent], IsKnown line := by
    intro line hline
    obtain ⟨parent, _, rfl⟩ := List.mem_map.mp hline
    exact isKnown_text parent
  rw [areWhole_singleton]
  refine (and_iff_right hname).trans ?_
  rw [isWholeLine_iff (isKnown_joinInline (by decide) hlines), lineContent_joinInline,
    List.flatMap_map, AllWhole]
  simp only [List.forall_mem_flatMap]
  exact forall₂_congr fun parent _ => List.forall_mem_singleton

/-- The start of an entry is ASCII but for its name. -/
theorem areWhole_entryStart (kind : EntryKind) (level : Nat) (name : Text) :
    AreWhole [.entryStart kind, named level name] ↔ Json.IsWhole name := by
  rw [areWhole_cons, areWhole_singleton]
  exact (and_iff_right trivial).trans isWholeLine_text

/-- The end of an entry has no text. -/
theorem areWhole_entryEnd : AreWhole [.entryEnd] := areWhole_singleton.mpr trivial

section

variable {language : Text} (hlanguage : Json.IsWhole language)

include hlanguage

/-- Examples are whole if the code of each is. Their language is the same
for all and whole already. -/
theorem areWhole_examples (codes : List Text) :
    AreWhole (examples codes language) ↔ AllWhole codes := by
  cases codes with
  | nil => exact iff_of_true areWhole_nil (List.forall_mem_nil _)
  | cons code codes =>
      have hname : Json.IsWhole "Examples" := by decide
      rw [examples, areWhole_cons]
      refine (and_iff_right hname).trans ?_
      rw [AreWhole, List.forall_mem_map]
      exact forall₂_congr fun code _ => and_iff_left hlanguage

/-- The blocks of a function are whole exactly if all its texts are. From
left to right this says that no text of a function is left out. -/
theorem areWhole_function (level : Nat) (f : FunctionDoc) :
    AreWhole (function level language f) ↔ f.IsWhole := by
  have hcomplexity : AreWhole (ifText f.complexity fun t => .field "Complexity" [.text t])
      ↔ Json.IsWhole f.complexity := areWhole_field (by decide) (fun _ => isWholeLine_text) _
  rw [function, FunctionDoc.isWhole_iff]
  simp only [areWhole_append, areWhole_entryStart, areWhole_prose, areWhole_parameters,
    areWhole_returns, areWhole_examples hlanguage, hcomplexity, areWhole_entryEnd, and_true,
    and_assoc]

/-- The members of a class or an interface are whole if all properties and
all methods are. -/
theorem areWhole_members (properties : List PropertyDoc) (methods : List FunctionDoc) :
    AreWhole (members properties methods language)
      ↔ (∀ p ∈ properties, p.IsWhole) ∧ ∀ f ∈ methods, f.IsWhole := by
  rw [members.eq_def, areWhole_append]
  refine and_congr ?_ ?_
  · cases properties with
    | nil => exact iff_of_true areWhole_nil (List.forall_mem_nil _)
    | cons p ps => exact areWhole_bullets isWholeLine_propertyItem (by decide) (p :: ps)
  · have hname : Json.IsWhole "Methods" := by decide
    cases methods with
    | nil => exact iff_of_true areWhole_nil (List.forall_mem_nil _)
    | cons f fs =>
        rw [areWhole_cons]
        refine (and_iff_right hname).trans ?_
        exact areWhole_flatMap (areWhole_function hlanguage 5) (f :: fs)

/-- A constructor is whole if its description, its parameters and its
examples are. -/
theorem areWhole_construction (c : ConstructorDoc) :
    AreWhole (construction language c) ↔ c.IsWhole := by
  have hname : Json.IsWhole "Constructor" := by decide
  rw [construction, ConstructorDoc.isWhole_iff, List.cons_append, List.cons_append, areWhole_cons]
  refine (and_iff_right hname).trans ?_
  simp only [areWhole_append, areWhole_prose, areWhole_parameters, areWhole_examples hlanguage,
    and_assoc]

/-- The blocks of a class are whole exactly if the class is, with its
constructor if it has one and with all its members. -/
theorem areWhole_classEntry (c : ClassDoc) : AreWhole (classEntry language c) ↔ c.IsWhole := by
  have hparents : AreWhole (parentsPart c.inheritance) ↔ AllWhole c.inheritance := by
    cases c.inheritance with
    | nil => exact iff_of_true areWhole_nil (List.forall_mem_nil _)
    | cons parent parents => exact areWhole_extends (parent :: parents)
  have hmade : AreWhole (constructorPart language c.constructor)
      ↔ ∀ made ∈ c.constructor, made.IsWhole := by
    cases c.constructor with
    | none => exact iff_of_true areWhole_nil (by simp)
    | some made =>
        rw [constructorPart, areWhole_construction hlanguage]
        simp
  rw [classEntry_eq, ClassDoc.isWhole_iff]
  simp only [areWhole_append, areWhole_entryStart, areWhole_prose, areWhole_members hlanguage,
    areWhole_entryEnd, and_true]
  refine (and_congr (and_congr (and_congr Iff.rfl hparents) hmade) Iff.rfl).trans ?_
  tauto

/-- An interface is whole if its description and its members are, and its
name, which is in the heading. -/
theorem areWhole_interfaceEntry (i : InterfaceDoc) :
    AreWhole (interfaceEntry language i) ↔ i.IsWhole := by
  rw [interfaceEntry, InterfaceDoc.isWhole_iff]
  simp only [areWhole_append, areWhole_entryStart, areWhole_prose, areWhole_members hlanguage,
    areWhole_entryEnd, and_true, and_assoc]

/-- The blocks of a type are whole exactly if the type is. Its definition is
shown as a block of code. -/
theorem areWhole_typeEntry (t : TypeDoc) : AreWhole (typeEntry language t) ↔ t.IsWhole := by
  have hname : Json.IsWhole "Definition" := by decide
  have hdefinition : AreWhole (definitionPart language t.definition)
      ↔ Json.IsWhole t.definition := by
    cases t.definition with
    | nil => exact iff_of_true areWhole_nil isWhole_nil
    | cons c definition =>
        rw [definitionPart, areWhole_cons, areWhole_singleton]
        exact (and_iff_right hname).trans (and_iff_left hlanguage)
  rw [typeEntry_eq, TypeDoc.isWhole_iff]
  simp only [areWhole_append, areWhole_entryStart, areWhole_prose, areWhole_examples hlanguage,
    areWhole_entryEnd, and_true]
  refine (and_congr (and_congr Iff.rfl hdefinition) Iff.rfl).trans ?_
  tauto

end

/-- The blocks of a constant are whole exactly if the constant is: all four
of its texts are shown. -/
theorem areWhole_constantEntry (c : ConstantDoc) : AreWhole (constantEntry c) ↔ c.IsWhole := by
  have htype : AreWhole (ifText c.type fun t => .field "Type" [.code t])
      ↔ Json.IsWhole c.type := areWhole_field (by decide) (fun _ => isWholeLine_code) _
  have hvalue : AreWhole (ifText c.value fun t => .field "Value" [.code t])
      ↔ Json.IsWhole c.value := areWhole_field (by decide) (fun _ => isWholeLine_code) _
  rw [constantEntry, ConstantDoc.isWhole_iff]
  simp only [areWhole_append, areWhole_entryStart, areWhole_prose, htype, hvalue,
    areWhole_entryEnd, and_true]
  tauto

/-! ### Files -/

/-- A section under a title from the vocabulary is whole if its entries are.
Without entries it is left out. -/
theorem areWhole_sectionOf {α : Type} {title : Text} (htitle : title ∈ vocabulary)
    {entry : α → List Block} {P : α → Prop} (h : ∀ a, AreWhole (entry a) ↔ P a) (as : List α) :
    AreWhole (sectionOf title entry as) ↔ ∀ a ∈ as, P a := by
  have hseparator : AreWhole [.separator] := areWhole_singleton.mpr trivial
  have hentry : ∀ a, AreWhole (entry a ++ [.separator]) ↔ P a := by
    intro a
    rw [areWhole_append, and_iff_left hseparator, h]
  have hheading : IsWholeLine [.words title] :=
    List.forall_mem_singleton.mpr (isWhole_of_mem_vocabulary title htitle)
  cases as with
  | nil => exact iff_of_true areWhole_nil (List.forall_mem_nil _)
  | cons a as =>
      rw [sectionOf, areWhole_cons]
      exact (and_iff_right hheading).trans (areWhole_flatMap hentry (a :: as))

/-- The languages of examples are ASCII, since each is a word of the table
or the fallback. -/
theorem isWhole_exampleLanguage (doc : FileDoc) : Json.IsWhole (exampleLanguage doc) := by
  have hpath (p : Path) : Json.IsWhole (Language.ofPath p) := by
    have htable : ∀ entry ∈ Language.table, Json.IsWhole entry.2 := by decide
    rw [Language.ofPath, Language.ofSuffix?]
    cases hfind : Language.table.find? fun entry => entry.1 == p.suffix.toSmall with
    | none => exact (by decide : Json.IsWhole Language.fallback)
    | some entry => exact htable entry (List.mem_of_find?_eq_some hfind)
  rw [exampleLanguage.eq_def]
  split
  · exact hpath _
  · exact hpath _
  · decide

/-- The name in the heading of a file is one of its labels, or the end of
one. -/
theorem isWhole_displayName {doc : FileDoc} (hlabels : doc.HasWholeLabels) :
    Json.IsWhole doc.displayName := by
  have hproper {label : Option Text} {t : Text} (h : FileDoc.properLabel? label = some t) :
      t ∈ label := by
    rw [FileDoc.properLabel?.eq_def] at h
    split at h
    · exact h
    · exact nomatch h
  rw [FileDoc.displayName.eq_def]
  split
  · next h => exact hlabels.1 _ (hproper h)
  · next h => exact Path.isWhole_name (hlabels.2 _ (hproper h))
  · decide

/-- **The blocks of a file are whole if the file is**, once its labels
are. -/
theorem areWhole_ofFile {doc : FileDoc} (h : doc.HasWholeLabels) :
    AreWhole (ofFile doc) ↔ doc.IsWhole := by
  obtain ⟨hname, hpath⟩ := h
  have hlanguage := isWhole_exampleLanguage doc
  have hheading : AreWhole [.fileStart, .heading 2 [.words "File: ", .text doc.displayName]] := by
    rw [areWhole_cons, areWhole_singleton]
    exact ⟨trivial, List.forall_mem_cons.mpr ⟨isWhole_of_mem_vocabulary _ (by decide),
      isWholeLine_text.mpr (isWhole_displayName ⟨hname, hpath⟩)⟩⟩
  have hoverview : AreWhole (overviewPart doc.overview) ↔ Json.IsWhole doc.overview := by
    cases doc.overview with
    | nil => exact iff_of_true areWhole_nil isWhole_nil
    | cons c overview =>
        rw [overviewPart, areWhole_cons, areWhole_singleton]
        refine (and_iff_right ?_).trans isWholeLine_text
        exact List.forall_mem_singleton.mpr (isWhole_of_mem_vocabulary _ (by decide))
  have hend : AreWhole [.fileEnd] := areWhole_singleton.mpr trivial
  -- With whole labels the file is whole if its texts and its entries are.
  have hlabels : doc.IsWhole ↔ Json.IsWhole doc.overview ∧ (∀ f ∈ doc.functions, f.IsWhole)
      ∧ (∀ c ∈ doc.classes, c.IsWhole) ∧ (∀ i ∈ doc.interfaces, i.IsWhole)
      ∧ (∀ c ∈ doc.constants, c.IsWhole) ∧ ∀ t ∈ doc.types, t.IsWhole := by
    rw [FileDoc.isWhole_iff, and_iff_left hpath, and_iff_left hname]
  rw [hlabels, ofFile_eq_parts]
  simp only [areWhole_append, hheading, hend, true_and, and_true, and_assoc]
  refine and_congr hoverview (and_congr ?_ (and_congr ?_ (and_congr ?_ (and_congr ?_ ?_))))
  · exact areWhole_sectionOf (by decide) (areWhole_function hlanguage 4) doc.functions
  · exact areWhole_sectionOf (by decide) (areWhole_classEntry hlanguage) doc.classes
  · exact areWhole_sectionOf (by decide) (areWhole_interfaceEntry hlanguage) doc.interfaces
  · exact areWhole_sectionOf (by decide) areWhole_constantEntry doc.constants
  · exact areWhole_sectionOf (by decide) (areWhole_typeEntry hlanguage) doc.types

end Block

/-! ### Markdown -/

namespace Markdown

/-- Delimiters have no surrogates. -/
theorem isWhole_backticks (n : Nat) : IsWhole (backticks n) := isWhole_replicate (by decide) n

/-- Code within a line is whole if the code is, since delimiters and padding
are. -/
theorem isWhole_code_iff {t : Text} : IsWhole (code t) ↔ IsWhole t := by
  rw [code]
  split
  · exact isWhole_between_iff (isWhole_cons (by decide) isWhole_nil)
      (isWhole_cons (by decide) isWhole_nil)
  · have hticks := isWhole_backticks (longestRun t + 1)
    rw [List.append_assoc, isWhole_between_iff (isWhole_append hticks (by decide))
      (isWhole_append (by decide) hticks)]

/-- A block of code is whole if the code and the language are: what stands
around them are a fence and line breaks. -/
theorem isWhole_codeBlock_iff {t language : Text} :
    IsWhole (codeBlock t language) ↔ IsWhole t ∧ IsWhole language := by
  have hfence : IsWhole (fence t) := isWhole_backticks _
  have hline : IsWhole "\n" := by decide
  have hend : IsWhole "\n\n" := by decide
  simp only [codeBlock, isWhole_append_iff, isWhole_trimEnd_iff, hfence, hline, hend, true_and,
    and_true]
  exact and_comm

/-- A line of Markdown is whole if its content is. -/
theorem isWhole_inline_iff {line : Inline} : IsWhole (inline line) ↔ Block.IsWholeLine line := by
  rw [inline, isWhole_flatMap_iff]
  refine forall₂_congr fun s _ => ?_
  cases s with
  | words t => exact Iff.rfl
  | text t => exact Iff.rfl
  | code t => exact isWhole_code_iff

/-- A block is written in Markdown without surrogates exactly if the block
has none. One case for each kind; everything that is written around its
texts is ASCII. -/
theorem isWhole_block_iff (b : Block) : IsWhole (block b) ↔ b.IsWholeBlock := by
  have hend : IsWhole "\n\n" := by decide
  have hstars : IsWhole "**" := by decide
  cases b with
  | heading level line =>
      have hmarks : IsWhole (List.replicate level (CodePoint.ofChar '#') ++ " ") :=
        isWhole_append (isWhole_replicate (by decide) level) (by decide)
      exact (isWhole_between_iff hmarks hend).trans isWhole_inline_iff
  | paragraph line =>
      rw [block, isWhole_append_iff, and_iff_left hend]
      exact isWhole_inline_iff
  | label name => exact isWhole_between_iff hstars (by decide)
  | field name line =>
      rw [block, isWhole_append_iff, and_iff_left hend, isWhole_append_iff,
        isWhole_between_iff hstars (by decide), isWhole_inline_iff]
      rfl
  | bullets lines =>
      rw [block, isWhole_append_iff, and_iff_left (by decide), isWhole_flatMap_iff]
      refine forall₂_congr fun line _ => ?_
      exact (isWhole_between_iff (by decide) (by decide)).trans isWhole_inline_iff
  | codeBlock code language => exact isWhole_codeBlock_iff
  | separator => exact iff_of_true (by decide) trivial
  | _ => exact iff_of_true isWhole_nil trivial

end Markdown

/-! ### HTML -/

namespace Html

/-- Escaping neither adds surrogates nor hides any: what it replaces are
four marks of ASCII. -/
theorem isWhole_escape_iff {t : Text} : IsWhole (escape t) ↔ IsWhole t := by
  rw [escape, isWhole_flatMap_iff]
  refine forall₂_congr fun c _ => ?_
  rw [escapeChar]
  -- The five characters that are escaped are ASCII, and so are their entities.
  split
  · next h => exact iff_of_true (by decide) (h ▸ by decide)
  split
  · next h => exact iff_of_true (by decide) (h ▸ by decide)
  split
  · next h => exact iff_of_true (by decide) (h ▸ by decide)
  split
  · next h => exact iff_of_true (by decide) (h ▸ by decide)
  split
  · next h => exact iff_of_true (by decide) (h ▸ by decide)
  · exact List.forall_mem_singleton

/-- A line of a page is whole if its content is. -/
theorem isWhole_inline_iff {line : Inline} : IsWhole (inline line) ↔ Block.IsWholeLine line := by
  rw [inline, isWhole_flatMap_iff]
  refine forall₂_congr fun s _ => ?_
  cases s with
  | words t => exact Iff.rfl
  | text t => exact isWhole_escape_iff
  | code t => exact (isWhole_between_iff (by decide) (by decide)).trans isWhole_escape_iff

/-- A block of code is whole if the code and the language are. Blanks are
dropped at the end, and no surrogate is a blank. -/
theorem isWhole_codeBlock_iff {t language : Text} :
    IsWhole (codeBlock t language) ↔ IsWhole t ∧ IsWhole language := by
  have hopening : IsWhole "<pre><code class=\"language-" := by decide
  have hquote : IsWhole "\">" := by decide
  have hclosing : IsWhole "</code></pre>\n" := by decide
  simp only [codeBlock, isWhole_append_iff, isWhole_escape_iff, isWhole_trimEnd_iff, hopening,
    hquote, hclosing, true_and, and_true]
  exact and_comm

/-- The same of HTML, where the texts are escaped and stand between tags.
Escaping replaces some characters by words, and none of them is a surrogate,
so a text is as whole afterwards as it was before. -/
theorem isWhole_block_iff (b : Block) : IsWhole (block b) ↔ b.IsWholeBlock := by
  cases b with
  | fileStart => exact iff_of_true (by decide) trivial
  | fileEnd => exact iff_of_true (by decide) trivial
  | entryStart kind => exact iff_of_true (by cases kind <;> decide) trivial
  | entryEnd => exact iff_of_true (by decide) trivial
  | heading level line =>
      have hlevel := isWhole_ofNat level
      have hopening : IsWhole "<h" := by decide
      have hmark : IsWhole ">" := by decide
      have hclosing : IsWhole "</h" := by decide
      have hend : IsWhole ">\n" := by decide
      simp only [block, isWhole_append_iff, isWhole_inline_iff, hlevel, hopening, hmark, hclosing,
        hend, true_and, and_true]
      rfl
  | paragraph line => exact (isWhole_between_iff (by decide) (by decide)).trans isWhole_inline_iff
  | label name => exact (isWhole_between_iff (by decide) (by decide)).trans isWhole_escape_iff
  | field name line =>
      rw [block, isWhole_append_iff, and_iff_left (by decide), isWhole_append_iff,
        isWhole_between_iff (by decide) (by decide), isWhole_escape_iff, isWhole_inline_iff]
      rfl
  | bullets lines =>
      rw [block, isWhole_between_iff (by decide) (by decide), isWhole_flatMap_iff]
      refine forall₂_congr fun line _ => ?_
      exact (isWhole_between_iff (by decide) (by decide)).trans isWhole_inline_iff
  | codeBlock code language => exact isWhole_codeBlock_iff
  | separator => exact iff_of_true isWhole_nil trivial

/-- A rule of a style sheet is whole if what it is made of is. -/
theorem isWhole_styleRule {selector declarations : Text} (hselector : IsWhole selector)
    (hdeclarations : IsWhole declarations) : IsWhole (styleRule selector declarations) := by
  simp only [styleRule, isWhole_append_iff]
  exact ⟨⟨⟨⟨by decide, hselector⟩, by decide⟩, hdeclarations⟩, by decide⟩

/-- The style sheet has no surrogates. Every rule is a fixed text, so it can
be looked through. -/
theorem isWhole_styleSheet : ∀ rule ∈ styleSheet, IsWhole rule := by
  simp only [styleSheet, List.forall_mem_cons]
  -- Taking a long string apart is slow, so each part is given by its characters.
  refine ⟨?_, ?_, ?_, ?_, ?_, ?_, ?_, ?_, ?_, ?_, by simp⟩ <;>
  · refine isWhole_styleRule ?_ ?_ <;>
    · rw [Text.ofString_ofList]
      decide +kernel

/-- The front of a page has no surrogates if its timestamp has none: the
title is fixed, and so is the style sheet. -/
theorem isWhole_opening {timestamp : Text} (htime : IsWhole timestamp) :
    IsWhole (opening Document.title timestamp) := by
  have htitle : IsWhole (escape Document.title) := by decide
  have hfront : IsWhole
      "<!DOCTYPE html>\n<html>\n<head>\n    <meta charset=\"utf-8\">\n    <title>" := by
    rw [Text.ofString_ofList]
    decide +kernel
  have hsheet : IsWhole (Text.joinWith "\n" styleSheet) :=
    (isWhole_joinWith_iff (by decide)).mpr isWhole_styleSheet
  have hstyle : IsWhole "</title>\n    <style>\n" := by decide
  have hbody : IsWhole "\n    </style>\n</head>\n<body>\n<h1>" := by decide
  have hstamp : IsWhole "</h1>\n<p><em>Generated on: " := by decide
  have hend : IsWhole "</em></p>\n" := by decide
  simp only [opening, isWhole_append_iff, htitle, hfront, hsheet, hstyle, hbody, hstamp, hend,
    isWhole_escape_iff, htime, and_self]

end Html

/-! ### Documents -/

namespace Document

/-- The digits and marks of a time are ASCII. So a timestamp never spoils a
document, whatever the moment is that it shows. -/
theorem isWhole_textOf (seconds millisecond : Nat) :
    IsWhole (Moment.textOf seconds millisecond) := by
  have hpadded (width n : Nat) : IsWhole (Text.padZeros width (Text.ofNat n)) :=
    isWhole_padZeros (isWhole_ofNat n) width
  have hdash : IsWhole "-" := by decide
  have hcolon : IsWhole ":" := by decide
  have hclock : IsWhole "T" := by decide
  have hpoint : IsWhole "." := by decide
  have hzone : IsWhole "Z" := by decide
  simp only [Moment.textOf, isWhole_append_iff, hpadded, hdash, hcolon, hclock, hpoint, hzone,
    and_self]

/-- Files in a markup are whole if the files are, once this is known of its
blocks. It is used for Markdown and for HTML. -/
theorem isWhole_files_iff {block : Block → Text}
    (hblock : ∀ b, IsWhole (block b) ↔ b.IsWholeBlock) {docs : List FileDoc}
    (hlabels : ∀ doc ∈ docs, doc.HasWholeLabels) :
    IsWhole (docs.flatMap fun doc => (Block.ofFile doc).flatMap block)
      ↔ ∀ doc ∈ docs, doc.IsWhole := by
  rw [isWhole_flatMap_iff]
  refine forall₂_congr fun doc hdoc => ?_
  rw [isWhole_flatMap_iff, ← Block.areWhole_ofFile (hlabels doc hdoc)]
  exact forall₂_congr fun b _ => hblock b

/-- A document in Markdown is whole exactly if its files are. The title is a
fixed text, and the labels are known to be whole. -/
theorem isWhole_markdown_iff {timestamp : Text} (htime : IsWhole timestamp) {docs : List FileDoc}
    (hlabels : ∀ doc ∈ docs, doc.HasWholeLabels) :
    IsWhole (Markdown.document title timestamp docs) ↔ ∀ doc ∈ docs, doc.IsWhole := by
  have hopening : IsWhole (Markdown.opening title timestamp) :=
    isWhole_append (isWhole_append (by decide) htime) (by decide)
  rw [Markdown.document, isWhole_append_iff, and_iff_right hopening,
    isWhole_files_iff Markdown.isWhole_block_iff hlabels]

/-- A page is whole exactly if its files are, on the same conditions. -/
theorem isWhole_html_iff {timestamp : Text} (htime : IsWhole timestamp) {docs : List FileDoc}
    (hlabels : ∀ doc ∈ docs, doc.HasWholeLabels) :
    IsWhole (Html.document title timestamp docs) ↔ ∀ doc ∈ docs, doc.IsWhole := by
  rw [Html.document, isWhole_between_iff (Html.isWhole_opening htime) (by decide),
    isWhole_files_iff Html.isWhole_block_iff hlabels]

/-- An archive is whole exactly if its files are. In JSON the labels stand
too, and they count as texts of the file. -/
theorem isWhole_archive_iff {indent : Option Int} {docs : List FileDoc} :
    IsWhole (Archive.render indent docs) ↔ ∀ doc ∈ docs, doc.IsWhole := by
  rw [Archive.render, isWhole_write_iff rfl,
    hasWholeStrings_map FileDoc.hasWholeStrings_toJson]

/-- **A document has a surrogate if one of its files has**, and only then,
whatever its format. The labels of the files are taken to be whole. -/
theorem isWhole_iff_of_renderAt? {format : Format} {moment : Moment} {docs : List FileDoc}
    {content : Text} (hlabels : ∀ doc ∈ docs, doc.HasWholeLabels)
    (h : renderAt? format moment docs = some content) :
    IsWhole content ↔ ∀ doc ∈ docs, doc.IsWhole := by
  have htime {timestamp : Text} (htimestamp : moment.toText? = some timestamp) :
      IsWhole timestamp := by
    rw [Moment.toText?] at htimestamp
    split at htimestamp
    · exact Option.some.inj htimestamp ▸ isWhole_textOf _ _
    · exact nomatch htimestamp
  cases format with
  | markdown =>
      obtain ⟨timestamp, htimestamp, rfl⟩ := Option.map_eq_some_iff.mp h
      exact isWhole_markdown_iff (htime htimestamp) hlabels
  | html =>
      obtain ⟨timestamp, htimestamp, rfl⟩ := Option.map_eq_some_iff.mp h
      exact isWhole_html_iff (htime htimestamp) hlabels
  | json =>
      obtain rfl := Option.some.inj h
      exact isWhole_archive_iff

end Document

end DocScribe
