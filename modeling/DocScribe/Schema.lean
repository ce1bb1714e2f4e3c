import DocScribe.Json.Writer
import DocScribe.Record.Reader

/-!
# `DocScribe.Schema`: the skeleton of a record

A reply is asked for by a skeleton: an object with a request for every
field, a list with one item for every list, and the skeleton of a
record wherever one is nested. A record that occurs again is not
spelled out a second time; a reference names the key of its first
occurrence.

The description works for any finite family of records, also one whose
records contain each other. Each nested record that is spelled out is
new, so records nest at most as deep as the family is large; this
bounds the recursion.

A skeleton is an object, and an object holds one value under a key: of
two fields that share a key the later one takes the place of the
earlier. The records of a documentation have no such fields.
-/

set_option autoImplicit false

namespace DocScribe.Schema

/-- The shape of a field, `ρ` naming the records of the family. -/
inductive Shape (ρ : Type) where
  | scalar
  | list (item : Shape ρ)
  | optional (value : Shape ρ)
  | record (r : ρ)
deriving DecidableEq

/-- A finite family of records: its members, their fields in order,
and the names of the fields that no reply is asked for. Fields of one
record may share a key. -/
structure Family (ρ : Type) where
  records : List ρ
  fields : ρ → List (Label × Shape ρ)
  unrequested : ρ → List Text
  mem_records (r : ρ) : r ∈ records

/-- The records spelled out so far and the keys they stand under. -/
abbrev Seen (ρ : Type) := List (ρ × Text)

/-- The text that stands for a record spelled out under `key`. -/
def reference (key : Text) : Text :=
  "...same structure as " ++ key ++ "..."

/-- The skeleton of one field, given how a new record is spelled
out. -/
def describeShape {ρ : Type} [DecidableEq ρ] (spellOut : ρ → Seen ρ → Json × Seen ρ)
    (label : Label) : Shape ρ → Seen ρ → Json × Seen ρ
  | .scalar, seen => (.str label.request, seen)
  | .list item, seen =>
    let (skeleton, seen') := describeShape spellOut label item seen
    (.arr [skeleton], seen')
  | .optional value, seen => describeShape spellOut label value seen
  | .record r, seen =>
    match seen.find? (fun s => s.1 = r) with
    | some s => (.str (reference s.2), seen)
    | none => spellOut r ((r, label.key) :: seen)

/-- The skeletons of fields one after the other. -/
def describeFields {ρ : Type} [DecidableEq ρ] (spellOut : ρ → Seen ρ → Json × Seen ρ) :
    List (Label × Shape ρ) → Seen ρ → Json.Members × Seen ρ
  | [], seen => ([], seen)
  | (label, shape) :: fields, seen =>
    let (skeleton, seen') := describeShape spellOut label shape seen
    let (members, seen'') := describeFields spellOut fields seen'
    ((label.key, skeleton) :: members, seen'')

/-- The fields that a reply is asked for. -/
def Family.requested {ρ : Type} (family : Family ρ) (r : ρ) : List (Label × Shape ρ) :=
  (family.fields r).filter fun field => !(family.unrequested r).contains field.1.name

/-- The skeleton of a record, with records nested at most `depth`
deep inside it. -/
def describeRecord {ρ : Type} [DecidableEq ρ] (family : Family ρ) :
    Nat → ρ → Seen ρ → Json × Seen ρ
  | 0, _, seen => (.obj [], seen)
  | depth + 1, r, seen =>
    let (members, seen') :=
      describeFields (describeRecord family depth) (family.requested r) seen
    (.obj (Json.ofMembers members), seen')

/-- The skeleton of a record of a family. -/
def describe {ρ : Type} [DecidableEq ρ] (family : Family ρ) (root : ρ) : Json :=
  (describeRecord family (family.records.length + 1) root []).1

/-! ### The records of a documentation -/

/-- The records that can be described. -/
inductive RecordName where
  | parameter
  | function
  | constructor
  | property
  | classDefinition
  | interface
  | constant
  | typeDefinition
  | file
  | options
deriving DecidableEq, Repr

/-- The fields of each record. -/
def fieldsOf : RecordName → List (Label × Shape RecordName)
  | .parameter =>
    [(ParameterDoc.nameLabel, .scalar), (ParameterDoc.typeLabel, .scalar),
      (ParameterDoc.descriptionLabel, .scalar), (Labels.optional, .scalar),
      (Labels.defaultValue, .optional .scalar)]
  | .function =>
    [(FunctionDoc.nameLabel, .scalar), (FunctionDoc.descriptionLabel, .scalar),
      (Labels.parameters, .list (.record .parameter)), (Labels.returnType, .scalar),
      (Labels.returnDescription, .scalar), (FunctionDoc.examplesLabel, .list .scalar),
      (Labels.complexity, .scalar)]
  | .constructor =>
    [(ConstructorDoc.descriptionLabel, .scalar), (Labels.parameters, .list (.record .parameter)),
      (ConstructorDoc.examplesLabel, .list .scalar)]
  | .property =>
    [(PropertyDoc.nameLabel, .scalar), (PropertyDoc.typeLabel, .scalar),
      (PropertyDoc.descriptionLabel, .scalar), (Labels.access, .scalar),
      (Labels.readonly, .scalar)]
  | .classDefinition =>
    [(ClassDoc.nameLabel, .scalar), (ClassDoc.descriptionLabel, .scalar),
      (Labels.construction, .optional (.record .constructor)),
      (Labels.methods, .list (.record .function)), (Labels.properties, .list (.record .property)),
      (Labels.inheritance, .list .scalar)]
  | .interface =>
    [(InterfaceDoc.nameLabel, .scalar), (InterfaceDoc.descriptionLabel, .scalar),
      (Labels.properties, .list (.record .property)), (Labels.methods, .list (.record .function))]
  | .constant =>
    [(ConstantDoc.nameLabel, .scalar), (ConstantDoc.typeLabel, .scalar), (Labels.value, .scalar),
      (ConstantDoc.descriptionLabel, .scalar)]
  | .typeDefinition =>
    [(TypeDoc.nameLabel, .scalar), (Labels.definition, .scalar),
      (TypeDoc.descriptionLabel, .scalar), (TypeDoc.examplesLabel, .list .scalar)]
  | .file =>
    [(Labels.overview, .scalar), (Labels.functions, .list (.record .function)),
      (Labels.classes, .list (.record .classDefinition)),
      (Labels.interfaces, .list (.record .interface)),
      (Labels.constants, .list (.record .constant)),
      (Labels.types, .list (.record .typeDefinition)), (Labels.fileName, .optional .scalar),
      (Labels.filePath, .optional .scalar)]
  | .options => [(Labels.includeExamples, .scalar), (Labels.filePath, .scalar)]

/-- The family of documentation records. -/
def documentation : Family RecordName where
  records :=
    [.parameter, .function, .constructor, .property, .classDefinition, .interface, .constant,
      .typeDefinition, .file, .options]
  fields := fieldsOf
  unrequested := fun r => if r = .file then Labels.source.map (·.name) else []
  mem_records r := by cases r <;> decide

/-- The skeleton of a file's documentation as indented text. -/
def text : Text :=
  (describe documentation .file).write ⟨true, some 2⟩

end DocScribe.Schema
