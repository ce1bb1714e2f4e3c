import DocScribe.Json.Basic
import DocScribe.Record.Basic
import DocScribe.Record.Reader

/-!
# `DocScribe.Record.Writer`: records as JSON

A record is written with one member per field, in field order and
under the field's key. Absent values are left out, or shown as `null`
where every field has to be present.
-/

set_option autoImplicit false

namespace DocScribe

/-- What becomes of an absent value. -/
inductive Absence where
  | omitted
  | shown
deriving DecidableEq, Repr

namespace Absence

/-- The members for fields that may be absent. -/
def members (absence : Absence) (fields : List (Label × Option Json)) : Json.Members :=
  fields.filterMap fun field =>
    match field.2 with
    | some value => some (field.1.key, value)
    | none =>
      match absence with
      | .omitted => none
      | .shown => some (field.1.key, .null)

end Absence

namespace Json

/-- A list of texts. -/
def ofTexts (ts : List Text) : Json :=
  .arr (ts.map .str)

/-- An optional text. -/
def ofText? (t : Option Text) : Option Json :=
  t.map .str

end Json

namespace ParameterDoc

def toJson (absence : Absence) (p : ParameterDoc) : Json :=
  .obj <| absence.members
    [(nameLabel, some (.str p.name)), (typeLabel, some (.str p.type)),
      (descriptionLabel, some (.str p.description)), (Labels.optional, some (.bool p.optional)),
      (Labels.defaultValue, Json.ofText? p.defaultValue)]

end ParameterDoc

namespace FunctionDoc

def toJson (absence : Absence) (f : FunctionDoc) : Json :=
  .obj <| absence.members
    [(nameLabel, some (.str f.name)), (descriptionLabel, some (.str f.description)),
      (Labels.parameters, some (.arr (f.parameters.map (·.toJson absence)))),
      (Labels.returnType, some (.str f.returnType)),
      (Labels.returnDescription, some (.str f.returnDescription)),
      (examplesLabel, some (Json.ofTexts f.examples)),
      (Labels.complexity, some (.str f.complexity))]

end FunctionDoc

namespace ConstructorDoc

def toJson (absence : Absence) (c : ConstructorDoc) : Json :=
  .obj <| absence.members
    [(descriptionLabel, some (.str c.description)),
      (Labels.parameters, some (.arr (c.parameters.map (·.toJson absence)))),
      (examplesLabel, some (Json.ofTexts c.examples))]

end ConstructorDoc

namespace PropertyDoc

def toJson (absence : Absence) (p : PropertyDoc) : Json :=
  .obj <| absence.members
    [(nameLabel, some (.str p.name)), (typeLabel, some (.str p.type)),
      (descriptionLabel, some (.str p.description)), (Labels.access, some (.str p.access.word)),
      (Labels.readonly, some (.bool p.readonly))]

end PropertyDoc

namespace ClassDoc

def toJson (absence : Absence) (c : ClassDoc) : Json :=
  .obj <| absence.members
    [(nameLabel, some (.str c.name)), (descriptionLabel, some (.str c.description)),
      (Labels.construction, c.constructor.map (·.toJson absence)),
      (Labels.methods, some (.arr (c.methods.map (·.toJson absence)))),
      (Labels.properties, some (.arr (c.properties.map (·.toJson absence)))),
      (Labels.inheritance, some (Json.ofTexts c.inheritance))]

end ClassDoc

namespace InterfaceDoc

def toJson (absence : Absence) (i : InterfaceDoc) : Json :=
  .obj <| absence.members
    [(nameLabel, some (.str i.name)), (descriptionLabel, some (.str i.description)),
      (Labels.properties, some (.arr (i.properties.map (·.toJson absence)))),
      (Labels.methods, some (.arr (i.methods.map (·.toJson absence))))]

end InterfaceDoc

namespace ConstantDoc

def toJson (absence : Absence) (c : ConstantDoc) : Json :=
  .obj <| absence.members
    [(nameLabel, some (.str c.name)), (typeLabel, some (.str c.type)),
      (Labels.value, some (.str c.value)), (descriptionLabel, some (.str c.description))]

end ConstantDoc

namespace TypeDoc

def toJson (absence : Absence) (t : TypeDoc) : Json :=
  .obj <| absence.members
    [(nameLabel, some (.str t.name)), (Labels.definition, some (.str t.definition)),
      (descriptionLabel, some (.str t.description)),
      (examplesLabel, some (Json.ofTexts t.examples))]

end TypeDoc

namespace FileDoc

def toJson (absence : Absence) (d : FileDoc) : Json :=
  .obj <| absence.members
    [(Labels.overview, some (.str d.overview)),
      (Labels.functions, some (.arr (d.functions.map (·.toJson absence)))),
      (Labels.classes, some (.arr (d.classes.map (·.toJson absence)))),
      (Labels.interfaces, some (.arr (d.interfaces.map (·.toJson absence)))),
      (Labels.constants, some (.arr (d.constants.map (·.toJson absence)))),
      (Labels.types, some (.arr (d.types.map (·.toJson absence)))),
      (Labels.fileName, Json.ofText? d.fileName), (Labels.filePath, Json.ofText? d.filePath)]

end FileDoc

end DocScribe
