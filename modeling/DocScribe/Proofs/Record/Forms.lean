import DocScribe.Proofs.Record.Settling
import DocScribe.Record.Reader
import DocScribe.Record.Writer
import Mathlib.Data.List.Forall2

/-!
# `DocScribe.Proofs.Record.Forms`: the JSON values that show a record

A record can be put into JSON in more than one way. Its fields may
come in any order, each under its key or under its name, and what is
absent may be left out or shown as `null`. `Shows` says of a record
which values show it, without the writer and without the reader.

A `Form` is what a field holds there. The forms of a record are listed
in field order; the records it holds are shown in the same way, each
in an order and with spellings of its own.

The writer is one of the ways (`shows_toJson`).
-/

set_option autoImplicit false

namespace DocScribe

variable {α : Type}

/-! ### Forms of fields -/

/-- The values that show the content of a field, and whether the field
may be left out. -/
structure Form where
  shows : Json → Prop
  omittable : Prop

namespace Form

def text (t : Text) : Form := ⟨fun value => value = .str t, False⟩

def flag (b : Bool) : Form := ⟨fun value => value = .bool b, False⟩

def texts (ts : List Text) : Form := ⟨fun value => value = Json.ofTexts ts, False⟩

/-- What is absent is left out or shown as `null`. -/
def absent : Form := ⟨fun value => value = .null, True⟩

def text? : Option Text → Form
  | none => absent
  | some t => text t

/-- Records in the order of the list. -/
def records (shows : α → Json → Prop) (as : List α) : Form where
  shows value := ∃ items, value = .arr items ∧ List.Forall₂ shows as items
  omittable := False

def record? (shows : α → Json → Prop) : Option α → Form
  | none => absent
  | some a => ⟨shows a, False⟩

end Form

/-- Members that show fields, in field order. -/
inductive ShowFields : List (Label × Form) → Json.Members → Prop
  | nil : ShowFields [] []
  | shown {l : Label} {form : Form} {spelling : Text} {value : Json}
      {fields : List (Label × Form)} {members : Json.Members} (hspelling : spelling ∈ l.spellings)
      (hvalue : form.shows value) (h : ShowFields fields members) :
      ShowFields ((l, form) :: fields) ((spelling, value) :: members)
  | omitted {l : Label} {form : Form} {fields : List (Label × Form)} {members : Json.Members}
      (homit : form.omittable) (h : ShowFields fields members) :
      ShowFields ((l, form) :: fields) members

/-- An object whose members show fields, in any order. -/
def ShowsRecord (fields : List (Label × Form)) (value : Json) : Prop :=
  ∃ members ordered : Json.Members,
    value = .obj members ∧ members.Perm ordered ∧ ShowFields fields ordered

/-! ### Records -/

namespace ParameterDoc

def forms (p : ParameterDoc) : List (Label × Form) :=
  [(nameLabel, .text p.name), (typeLabel, .text p.type), (descriptionLabel, .text p.description),
    (Labels.optional, .flag p.optional), (Labels.defaultValue, .text? p.defaultValue)]

def Shows (p : ParameterDoc) (value : Json) : Prop := ShowsRecord p.forms value

end ParameterDoc

namespace FunctionDoc

def forms (f : FunctionDoc) : List (Label × Form) :=
  [(nameLabel, .text f.name), (descriptionLabel, .text f.description),
    (Labels.parameters, .records ParameterDoc.Shows f.parameters),
    (Labels.returnType, .text f.returnType),
    (Labels.returnDescription, .text f.returnDescription), (examplesLabel, .texts f.examples),
    (Labels.complexity, .text f.complexity)]

def Shows (f : FunctionDoc) (value : Json) : Prop := ShowsRecord f.forms value

end FunctionDoc

namespace ConstructorDoc

def forms (c : ConstructorDoc) : List (Label × Form) :=
  [(descriptionLabel, .text c.description),
    (Labels.parameters, .records ParameterDoc.Shows c.parameters),
    (examplesLabel, .texts c.examples)]

def Shows (c : ConstructorDoc) (value : Json) : Prop := ShowsRecord c.forms value

end ConstructorDoc

namespace PropertyDoc

def forms (p : PropertyDoc) : List (Label × Form) :=
  [(nameLabel, .text p.name), (typeLabel, .text p.type), (descriptionLabel, .text p.description),
    (Labels.access, .text p.access.word), (Labels.readonly, .flag p.readonly)]

def Shows (p : PropertyDoc) (value : Json) : Prop := ShowsRecord p.forms value

end PropertyDoc

namespace ClassDoc

def forms (c : ClassDoc) : List (Label × Form) :=
  [(nameLabel, .text c.name), (descriptionLabel, .text c.description),
    (Labels.construction, .record? ConstructorDoc.Shows c.constructor),
    (Labels.methods, .records FunctionDoc.Shows c.methods),
    (Labels.properties, .records PropertyDoc.Shows c.properties),
    (Labels.inheritance, .texts c.inheritance)]

def Shows (c : ClassDoc) (value : Json) : Prop := ShowsRecord c.forms value

end ClassDoc

namespace InterfaceDoc

def forms (i : InterfaceDoc) : List (Label × Form) :=
  [(nameLabel, .text i.name), (descriptionLabel, .text i.description),
    (Labels.properties, .records PropertyDoc.Shows i.properties),
    (Labels.methods, .records FunctionDoc.Shows i.methods)]

def Shows (i : InterfaceDoc) (value : Json) : Prop := ShowsRecord i.forms value

end InterfaceDoc

namespace ConstantDoc

def forms (c : ConstantDoc) : List (Label × Form) :=
  [(nameLabel, .text c.name), (typeLabel, .text c.type), (Labels.value, .text c.value),
    (descriptionLabel, .text c.description)]

def Shows (c : ConstantDoc) (value : Json) : Prop := ShowsRecord c.forms value

end ConstantDoc

namespace TypeDoc

def forms (t : TypeDoc) : List (Label × Form) :=
  [(nameLabel, .text t.name), (Labels.definition, .text t.definition),
    (descriptionLabel, .text t.description), (examplesLabel, .texts t.examples)]

def Shows (t : TypeDoc) (value : Json) : Prop := ShowsRecord t.forms value

end TypeDoc

namespace FileDoc

def forms (d : FileDoc) : List (Label × Form) :=
  [(Labels.overview, .text d.overview),
    (Labels.functions, .records FunctionDoc.Shows d.functions),
    (Labels.classes, .records ClassDoc.Shows d.classes),
    (Labels.interfaces, .records InterfaceDoc.Shows d.interfaces),
    (Labels.constants, .records ConstantDoc.Shows d.constants),
    (Labels.types, .records TypeDoc.Shows d.types),
    (Labels.fileName, .text? d.fileName), (Labels.filePath, .text? d.filePath)]

def Shows (d : FileDoc) (value : Json) : Prop := ShowsRecord d.forms value

end FileDoc

/-! ### The writer -/

/-- What the writer puts into a field is one of its forms. -/
inductive Form.Writes : Form → Option Json → Prop
  | shown {form : Form} {value : Json} (h : form.shows value) : Form.Writes form (some value)
  | absent : Form.Writes .absent none

namespace Form

/-- A text is written as a text. -/
theorem writes_text (t : Text) : (text t).Writes (some (.str t)) := .shown rfl

/-- A truth value is written as it is. -/
theorem writes_flag (b : Bool) : (flag b).Writes (some (.bool b)) := .shown rfl

/-- Texts are written as a list of them. -/
theorem writes_texts (ts : List Text) : (texts ts).Writes (some (Json.ofTexts ts)) := .shown rfl

/-- A text that may be absent is written or left out, as the way of writing
says. -/
theorem writes_text? (t? : Option Text) : (text? t?).Writes (Json.ofText? t?) := by
  cases t? with
  | none => exact .absent
  | some t => exact .shown rfl

/-- Records are written as a list of objects, each of which shows its
record. -/
theorem writes_records {shows : α → Json → Prop} {toJson : α → Json}
    (h : ∀ a, shows a (toJson a)) (as : List α) :
    (records shows as).Writes (some (.arr (as.map toJson))) := by
  refine .shown ⟨as.map toJson, rfl, ?_⟩
  rw [List.forall₂_map_right_iff]
  exact List.forall₂_same.mpr fun a _ => h a

/-- A record that may be absent is written as an object if it is there. If
it is not, there is nothing under its key, or `null`. -/
theorem writes_record? {shows : α → Json → Prop} {toJson : α → Json}
    (h : ∀ a, shows a (toJson a)) (a? : Option α) :
    (record? shows a?).Writes (a?.map toJson) := by
  cases a? with
  | none => exact .absent
  | some a => exact .shown (h a)

end Form

/-- Written members show their fields, whatever becomes of absent
values. -/
theorem showFields_members (absence : Absence) {fields : List (Label × Form)}
    {written : List (Label × Option Json)}
    (h : List.Forall₂ (fun field w => field.1 = w.1 ∧ field.2.Writes w.2) fields written) :
    ShowFields fields (absence.members written) := by
  induction h with
  | nil => exact .nil
  | @cons field w fields written hfield _ ih =>
      obtain ⟨l, form⟩ := field
      obtain ⟨l', _⟩ := w
      obtain ⟨rfl, hwrites⟩ := hfield
      cases hwrites with
      | shown hvalue => exact .shown (l.key_mem_spellings) hvalue ih
      | absent =>
          cases absence with
          | omitted => exact .omitted trivial ih
          | shown => exact .shown (l.key_mem_spellings) rfl ih

/-- A written object shows its fields. They are written in their order, and
each stands under one spelling of its label. -/
theorem showsRecord_members (absence : Absence) {fields : List (Label × Form)}
    {written : List (Label × Option Json)}
    (h : List.Forall₂ (fun field w => field.1 = w.1 ∧ field.2.Writes w.2) fields written) :
    ShowsRecord fields (.obj (absence.members written)) :=
  ⟨_, _, rfl, List.Perm.refl _, showFields_members absence h⟩

section Writer

open Form

variable (absence : Absence)

/-- What is written of a parameter shows it: field by field, a value that
the form of the field allows. This holds for both ways of writing what is
absent. -/
theorem ParameterDoc.shows_toJson (p : ParameterDoc) : p.Shows (p.toJson absence) := by
  refine showsRecord_members absence ?_
  exact .cons ⟨rfl, writes_text _⟩ <| .cons ⟨rfl, writes_text _⟩ <| .cons ⟨rfl, writes_text _⟩ <|
    .cons ⟨rfl, writes_flag _⟩ <| .cons ⟨rfl, writes_text? _⟩ .nil

/-- What is written of a function shows it, with its parameters. -/
theorem FunctionDoc.shows_toJson (f : FunctionDoc) : f.Shows (f.toJson absence) := by
  have hparameters := writes_records (ParameterDoc.shows_toJson absence) f.parameters
  refine showsRecord_members absence ?_
  exact .cons ⟨rfl, writes_text _⟩ <| .cons ⟨rfl, writes_text _⟩ <| .cons ⟨rfl, hparameters⟩ <|
    .cons ⟨rfl, writes_text _⟩ <| .cons ⟨rfl, writes_text _⟩ <| .cons ⟨rfl, writes_texts _⟩ <|
    .cons ⟨rfl, writes_text _⟩ .nil

/-- What is written of a constructor shows it, with its parameters. -/
theorem ConstructorDoc.shows_toJson (c : ConstructorDoc) : c.Shows (c.toJson absence) := by
  have hparameters := writes_records (ParameterDoc.shows_toJson absence) c.parameters
  refine showsRecord_members absence ?_
  exact .cons ⟨rfl, writes_text _⟩ <| .cons ⟨rfl, hparameters⟩ <|
    .cons ⟨rfl, writes_texts _⟩ .nil

/-- What is written of a property shows it, with its access as a word. -/
theorem PropertyDoc.shows_toJson (p : PropertyDoc) : p.Shows (p.toJson absence) := by
  refine showsRecord_members absence ?_
  exact .cons ⟨rfl, writes_text _⟩ <| .cons ⟨rfl, writes_text _⟩ <| .cons ⟨rfl, writes_text _⟩ <|
    .cons ⟨rfl, writes_text _⟩ <| .cons ⟨rfl, writes_flag _⟩ .nil

/-- What is written of a class shows it, its constructor and its members. -/
theorem ClassDoc.shows_toJson (c : ClassDoc) : c.Shows (c.toJson absence) := by
  have hconstructor := writes_record? (ConstructorDoc.shows_toJson absence) c.constructor
  have hmethods := writes_records (FunctionDoc.shows_toJson absence) c.methods
  have hproperties := writes_records (PropertyDoc.shows_toJson absence) c.properties
  refine showsRecord_members absence ?_
  exact .cons ⟨rfl, writes_text _⟩ <| .cons ⟨rfl, writes_text _⟩ <| .cons ⟨rfl, hconstructor⟩ <|
    .cons ⟨rfl, hmethods⟩ <| .cons ⟨rfl, hproperties⟩ <| .cons ⟨rfl, writes_texts _⟩ .nil

/-- What is written of an interface shows it, with its members. -/
theorem InterfaceDoc.shows_toJson (i : InterfaceDoc) : i.Shows (i.toJson absence) := by
  have hproperties := writes_records (PropertyDoc.shows_toJson absence) i.properties
  have hmethods := writes_records (FunctionDoc.shows_toJson absence) i.methods
  refine showsRecord_members absence ?_
  exact .cons ⟨rfl, writes_text _⟩ <| .cons ⟨rfl, writes_text _⟩ <| .cons ⟨rfl, hproperties⟩ <|
    .cons ⟨rfl, hmethods⟩ .nil

/-- What is written of a constant shows it. -/
theorem ConstantDoc.shows_toJson (c : ConstantDoc) : c.Shows (c.toJson absence) := by
  refine showsRecord_members absence ?_
  exact .cons ⟨rfl, writes_text _⟩ <| .cons ⟨rfl, writes_text _⟩ <| .cons ⟨rfl, writes_text _⟩ <|
    .cons ⟨rfl, writes_text _⟩ .nil

/-- What is written of a type shows it. -/
theorem TypeDoc.shows_toJson (t : TypeDoc) : t.Shows (t.toJson absence) := by
  refine showsRecord_members absence ?_
  exact .cons ⟨rfl, writes_text _⟩ <| .cons ⟨rfl, writes_text _⟩ <| .cons ⟨rfl, writes_text _⟩ <|
    .cons ⟨rfl, writes_texts _⟩ .nil

/-- What is written of a file shows it. So what is said of all values that
show a file, in any spelling, is said of archives in particular. -/
theorem FileDoc.shows_toJson (d : FileDoc) : d.Shows (d.toJson absence) := by
  have hfunctions := writes_records (FunctionDoc.shows_toJson absence) d.functions
  have hclasses := writes_records (ClassDoc.shows_toJson absence) d.classes
  have hinterfaces := writes_records (InterfaceDoc.shows_toJson absence) d.interfaces
  have hconstants := writes_records (ConstantDoc.shows_toJson absence) d.constants
  have htypes := writes_records (TypeDoc.shows_toJson absence) d.types
  refine showsRecord_members absence ?_
  exact .cons ⟨rfl, writes_text _⟩ <| .cons ⟨rfl, hfunctions⟩ <| .cons ⟨rfl, hclasses⟩ <|
    .cons ⟨rfl, hinterfaces⟩ <| .cons ⟨rfl, hconstants⟩ <| .cons ⟨rfl, htypes⟩ <|
    .cons ⟨rfl, writes_text? _⟩ <| .cons ⟨rfl, writes_text? _⟩ .nil

end Writer

end DocScribe
