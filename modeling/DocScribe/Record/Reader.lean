import DocScribe.Json.Display
import DocScribe.Json.Writer
import DocScribe.Record.Basic
import DocScribe.Record.Field
import DocScribe.Text.Blank
import DocScribe.Text.LetterCase

/-!
# `DocScribe.Record.Reader`: records from loosely shaped JSON

A reply is not bound to the shape that was asked for, so every leaf is
brought to its field's type. Text keeps a string and takes the JSON
text of anything else; a flag reads words and otherwise asks whether
the value counts as true; a list takes a single entry for a list of
one and drops what is no entry; a bare string where a record belongs
becomes its name, or its description if the record has no name.

Unknown keys are ignored. Refused as a record are a value that is no
object at all, and an object with an integer of too many digits where
a text or an access is wanted: such an integer cannot be written as
one. No JSON text holds such an integer, since reading has the same
limit.
-/

set_option autoImplicit false

namespace DocScribe

namespace Leaf

/-- What is wrong with a value that is to be written and holds an
integer of too many digits. -/
def integerTooLong : IssueKind :=
  .refused ("Exceeds the limit (4300 digits) for integer string conversion; "
    ++ "use sys.set_int_max_str_digits() to increase the limit")

/-- A value written in some way, if that is possible. -/
def written (write : Json → Text) (value : Json) : Except IssueKind Text :=
  if value.isWritable then .ok (write value) else .error integerTooLong

/-- A value as text: a string as it stands, any other value written as
JSON. -/
def text : Json → Except IssueKind Text
  | .str t => .ok t
  | value => written (Json.write .oneLine) value

/-- The words that deny. -/
def denials : List Text := ["", "false", "no", "n", "off", "0", "none", "null"]

/-- A value as a flag. -/
def flag : Json → Bool
  | .str t => !denials.contains t.trim.toSmall
  | value => value.isTruthy

/-- A value as a list of texts. -/
def texts : Json → Except IssueKind (List Text)
  | .arr items => (items.filter fun item => !item.isNull).mapM text
  | .str t => .ok [t]
  | _ => .ok []

/-- The members of a record given as an object, or as a string that
stands for the field `bare`. -/
def members? (bare : Label) : Json → Option Json.Members
  | .obj members => some members
  | .str t => if t.isBlank then none else some [(bare.key, .str t)]
  | _ => none

/-- A value as a list of records, each by its members. -/
def records (bare : Label) : Json → List Json.Members
  | .arr items => items.filterMap (members? bare)
  | .obj members => [members]
  | _ => []

/-- The word for an access that a text shows; any other text stands for
the first one. -/
def accessWordOf (shown : Text) : Text :=
  let word := shown.trim.toSmall
  if (Access.all.map Access.word).contains word then word else Access.everyone.word

/-- The word for an access that a value shows. -/
def accessWord (value : Json) : Except IssueKind Text :=
  (written Json.display value).map accessWordOf

end Leaf

namespace FieldType

variable {α : Type}

/-- Text. -/
def text : FieldType Text where
  coerce value := (Leaf.text value).map fun t => some (.str t)
  check place value := .ofField place (Lax.text value.toLoose)

/-- Text that may be absent. -/
def text? : FieldType (Option Text) where
  coerce value := (Leaf.text value).map fun t => some (.str t)
  check place value := .ofField place (Lax.optional Lax.text value.toLoose)

/-- A flag. -/
def flag : FieldType Bool where
  coerce value := .ok (some (.bool (Leaf.flag value)))
  check place value := .ofField place (Lax.flag value.toLoose)

/-- One of the words for an access. -/
def accessOfWord (word : Text) : Except IssueKind Access :=
  match Access.ofWord? word with
  | some access => .ok access
  | none => .error (.notOneOf "'public', 'private' or 'protected'")

/-- An access, named by a word. -/
def access : FieldType Access where
  coerce value := .ok (some value)
  check place value := .ofField place ((Leaf.accessWord value).bind accessOfWord)

/-- A list of texts. -/
def texts : FieldType (List Text) where
  coerce value := (Leaf.texts value).map fun ts => some (.arr (ts.map .str))
  check place
    | .arr items => .ofItems place Lax.text (items.map Json.toLoose)
    | _ => .bad [⟨.notList, place⟩]

/-- A record that may be absent; a string stands for its field
`bare`. -/
def record? (bare : Label) (r : RecordType α) : FieldType (Option α) where
  coerce value := .ok ((Leaf.members? bare value).map .obj)
  check place
    | .null => .ok none
    | value => (r.check place value).map some

/-- A list of records; a string stands for the field `bare` of
one. -/
def records (bare : Label) (r : RecordType α) : FieldType (List α) where
  coerce value := .ok (some (.arr ((Leaf.records bare value).map .obj)))
  check place
    | .arr items => .each place r.check 0 items
    | _ => .bad [⟨.notList, place⟩]

end FieldType

namespace ParameterDoc

def nameLabel : Label := Labels.name "param name"
def typeLabel : Label := Labels.type "param type"
def descriptionLabel : Label := Labels.description "param description"

def recordType : RecordType ParameterDoc where
  title := "ParameterDoc"
  fields :=
    ParameterDoc.mk <$> nameLabel.field .text [] <*> typeLabel.field .text []
      <*> descriptionLabel.field .text [] <*> Labels.optional.field .flag false
      <*> Labels.defaultValue.field .text? none

end ParameterDoc

namespace FunctionDoc

def nameLabel : Label := Labels.name "function name"
def descriptionLabel : Label := Labels.description "detailed description"
def examplesLabel : Label := Labels.examples "code example"

def recordType : RecordType FunctionDoc where
  title := "FunctionDoc"
  fields :=
    FunctionDoc.mk <$> nameLabel.field .text [] <*> descriptionLabel.field .text []
      <*> Labels.parameters.field (.records ParameterDoc.nameLabel ParameterDoc.recordType) []
      <*> Labels.returnType.field .text [] <*> Labels.returnDescription.field .text []
      <*> examplesLabel.field .texts [] <*> Labels.complexity.field .text []

end FunctionDoc

namespace ConstructorDoc

def descriptionLabel : Label := Labels.description "constructor description"
def examplesLabel : Label := Labels.examples "example usage"

def recordType : RecordType ConstructorDoc where
  title := "ConstructorDoc"
  fields :=
    ConstructorDoc.mk <$> descriptionLabel.field .text []
      <*> Labels.parameters.field (.records ParameterDoc.nameLabel ParameterDoc.recordType) []
      <*> examplesLabel.field .texts []

end ConstructorDoc

namespace PropertyDoc

def nameLabel : Label := Labels.name "property name"
def typeLabel : Label := Labels.type "property type"
def descriptionLabel : Label := Labels.description "property description"

def recordType : RecordType PropertyDoc where
  title := "PropertyDoc"
  fields :=
    PropertyDoc.mk <$> nameLabel.field .text [] <*> typeLabel.field .text []
      <*> descriptionLabel.field .text [] <*> Labels.access.field .access .everyone
      <*> Labels.readonly.field .flag false

end PropertyDoc

namespace ClassDoc

def nameLabel : Label := Labels.name "class name"
def descriptionLabel : Label := Labels.description "class description"

def recordType : RecordType ClassDoc where
  title := "ClassDoc"
  fields :=
    ClassDoc.mk <$> nameLabel.field .text [] <*> descriptionLabel.field .text []
      <*> Labels.construction.field
        (.record? ConstructorDoc.descriptionLabel ConstructorDoc.recordType) none
      <*> Labels.methods.field (.records FunctionDoc.nameLabel FunctionDoc.recordType) []
      <*> Labels.properties.field (.records PropertyDoc.nameLabel PropertyDoc.recordType) []
      <*> Labels.inheritance.field .texts []

end ClassDoc

namespace InterfaceDoc

def nameLabel : Label := Labels.name "interface name"
def descriptionLabel : Label := Labels.description "interface description"

def recordType : RecordType InterfaceDoc where
  title := "InterfaceDoc"
  fields :=
    InterfaceDoc.mk <$> nameLabel.field .text [] <*> descriptionLabel.field .text []
      <*> Labels.properties.field (.records PropertyDoc.nameLabel PropertyDoc.recordType) []
      <*> Labels.methods.field (.records FunctionDoc.nameLabel FunctionDoc.recordType) []

end InterfaceDoc

namespace ConstantDoc

def nameLabel : Label := Labels.name "constant name"
def typeLabel : Label := Labels.type "constant type"
def descriptionLabel : Label := Labels.description "constant description"

def recordType : RecordType ConstantDoc where
  title := "ConstantDoc"
  fields :=
    ConstantDoc.mk <$> nameLabel.field .text [] <*> typeLabel.field .text []
      <*> Labels.value.field .text [] <*> descriptionLabel.field .text []

end ConstantDoc

namespace TypeDoc

def nameLabel : Label := Labels.name "type name"
def descriptionLabel : Label := Labels.description "type description"
def examplesLabel : Label := Labels.examples "usage example"

def recordType : RecordType TypeDoc where
  title := "TypeDoc"
  fields :=
    TypeDoc.mk <$> nameLabel.field .text [] <*> Labels.definition.field .text []
      <*> descriptionLabel.field .text [] <*> examplesLabel.field .texts []

end TypeDoc

namespace FileDoc

def recordType : RecordType FileDoc where
  title := "DocumentationUnit"
  fields :=
    FileDoc.mk <$> Labels.overview.field .text []
      <*> Labels.functions.field (.records FunctionDoc.nameLabel FunctionDoc.recordType) []
      <*> Labels.classes.field (.records ClassDoc.nameLabel ClassDoc.recordType) []
      <*> Labels.interfaces.field (.records InterfaceDoc.nameLabel InterfaceDoc.recordType) []
      <*> Labels.constants.field (.records ConstantDoc.nameLabel ConstantDoc.recordType) []
      <*> Labels.types.field (.records TypeDoc.nameLabel TypeDoc.recordType) []
      <*> Labels.fileName.field .text? none <*> Labels.filePath.field .text? none

end FileDoc

end DocScribe
