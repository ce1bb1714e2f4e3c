import DocScribe.Proofs.Json.Grammar
import DocScribe.Proofs.Record.Shown

/-!
# `DocScribe.Proofs.Record.Legibility`: what shows a record can be read as JSON

A record is whole if no text in it has a surrogate. Every value that
shows a whole record is legible, to any dialect that takes as many
levels as the record has: its keys are the spellings of its fields,
each there once, and its strings are the texts of the record.

How deep a record goes is counted from the inside: a parameter is one
level, a function three with its list of parameters, a class five and
the documentation of a file seven.
-/

set_option autoImplicit false

namespace DocScribe

open Json

variable {α : Type}

/-! ### Whole records -/

structure ParameterDoc.IsWhole (p : ParameterDoc) : Prop where
  name : Json.IsWhole p.name
  type : Json.IsWhole p.type
  description : Json.IsWhole p.description
  defaultValue : ∀ t ∈ p.defaultValue, Json.IsWhole t

structure FunctionDoc.IsWhole (f : FunctionDoc) : Prop where
  name : Json.IsWhole f.name
  description : Json.IsWhole f.description
  parameters : ∀ p ∈ f.parameters, p.IsWhole
  returnType : Json.IsWhole f.returnType
  returnDescription : Json.IsWhole f.returnDescription
  examples : AllWhole f.examples
  complexity : Json.IsWhole f.complexity

structure ConstructorDoc.IsWhole (c : ConstructorDoc) : Prop where
  description : Json.IsWhole c.description
  parameters : ∀ p ∈ c.parameters, p.IsWhole
  examples : AllWhole c.examples

structure PropertyDoc.IsWhole (p : PropertyDoc) : Prop where
  name : Json.IsWhole p.name
  type : Json.IsWhole p.type
  description : Json.IsWhole p.description

structure ClassDoc.IsWhole (c : ClassDoc) : Prop where
  name : Json.IsWhole c.name
  description : Json.IsWhole c.description
  constructor : ∀ made ∈ c.constructor, made.IsWhole
  methods : ∀ f ∈ c.methods, f.IsWhole
  properties : ∀ p ∈ c.properties, p.IsWhole
  inheritance : AllWhole c.inheritance

structure InterfaceDoc.IsWhole (i : InterfaceDoc) : Prop where
  name : Json.IsWhole i.name
  description : Json.IsWhole i.description
  properties : ∀ p ∈ i.properties, p.IsWhole
  methods : ∀ f ∈ i.methods, f.IsWhole

structure ConstantDoc.IsWhole (c : ConstantDoc) : Prop where
  name : Json.IsWhole c.name
  type : Json.IsWhole c.type
  value : Json.IsWhole c.value
  description : Json.IsWhole c.description

structure TypeDoc.IsWhole (t : TypeDoc) : Prop where
  name : Json.IsWhole t.name
  definition : Json.IsWhole t.definition
  description : Json.IsWhole t.description
  examples : AllWhole t.examples

structure FileDoc.IsWhole (d : FileDoc) : Prop where
  overview : Json.IsWhole d.overview
  functions : ∀ f ∈ d.functions, f.IsWhole
  classes : ∀ c ∈ d.classes, c.IsWhole
  interfaces : ∀ i ∈ d.interfaces, i.IsWhole
  constants : ∀ c ∈ d.constants, c.IsWhole
  types : ∀ t ∈ d.types, t.IsWhole
  fileName : ∀ t ∈ d.fileName, Json.IsWhole t
  filePath : ∀ t ∈ d.filePath, Json.IsWhole t

/-! ### Legible forms -/

/-- All values of a form are legible. -/
def Form.IsLegible (d : Dialect) (depth : Nat) (form : Form) : Prop :=
  ∀ value, form.shows value → Legible d depth value

namespace Form

variable {d : Dialect} {depth : Nat}

/-- A text without surrogates can be read back by any reader. -/
theorem isLegible_text {t : Text} (h : Json.IsWhole t) : (text t).IsLegible d depth := by
  intro value hvalue
  subst hvalue
  cases depth <;> exact h.legibleText d

/-- A truth value can be read back by any reader. -/
theorem isLegible_flag (b : Bool) : (flag b).IsLegible d depth := by
  intro value hvalue
  subst hvalue
  cases depth <;> exact trivial

/-- A list of texts takes one level of nesting. -/
theorem isLegible_texts {ts : List Text} (h : AllWhole ts) :
    (texts ts).IsLegible d (depth + 1) := by
  intro value hvalue
  subst hvalue
  intro item hitem
  obtain ⟨t, ht, rfl⟩ := List.mem_map.mp hitem
  exact isLegible_text (h t ht) _ rfl

/-- What is absent is `null`. -/
theorem isLegible_absent : absent.IsLegible d depth := by
  intro value hvalue
  subst hvalue
  cases depth <;> exact trivial

/-- A text that may be absent. -/
theorem isLegible_text? {t? : Option Text} (h : ∀ t ∈ t?, Json.IsWhole t) :
    (text? t?).IsLegible d depth := by
  cases t? with
  | none => exact isLegible_absent
  | some t => exact isLegible_text (h t rfl)

/-- A list of records takes one level more than each of its records, and the
levels below are for the records. -/
theorem isLegible_records {shows : α → Json → Prop} {as : List α}
    (h : ∀ a ∈ as, ∀ value, shows a value → Legible d depth value) :
    (records shows as).IsLegible d (depth + 1) := by
  intro value hvalue
  obtain ⟨items, rfl, hitems⟩ := hvalue
  intro item hitem
  induction hitems with
  | nil => exact absurd hitem (by simp)
  | cons hshows _ ih =>
      rcases List.mem_cons.mp hitem with rfl | hitem
      · exact h _ List.mem_cons_self _ hshows
      · exact ih (fun a ha => h a (List.mem_cons_of_mem _ ha)) hitem

/-- A record that may be absent takes as many as the record. -/
theorem isLegible_record? {shows : α → Json → Prop} {a? : Option α}
    (h : ∀ a ∈ a?, ∀ value, shows a value → Legible d depth value) :
    (record? shows a?).IsLegible d depth := by
  cases a? with
  | none => exact isLegible_absent
  | some a => exact h a rfl

end Form

/-! ### Legible records -/

/-- Every member shows a field under one of its spellings. Fields that are
left out have no member. -/
theorem ShowFields.exists_field {fields : List (Label × Form)} {members : Json.Members}
    (h : ShowFields fields members) :
    ∀ m ∈ members, ∃ field ∈ fields, m.1 ∈ field.1.spellings ∧ field.2.shows m.2 := by
  induction h with
  | nil => exact fun m hm => absurd hm (by simp)
  | shown hspelling hvalue _ ih =>
      intro m hm
      rcases List.mem_cons.mp hm with rfl | hm
      · exact ⟨_, List.mem_cons_self, hspelling, hvalue⟩
      · obtain ⟨field, hfield, hshows⟩ := ih m hm
        exact ⟨field, List.mem_cons_of_mem _ hfield, hshows⟩
  | omitted _ _ ih =>
      intro m hm
      obtain ⟨field, hfield, hshows⟩ := ih m hm
      exact ⟨field, List.mem_cons_of_mem _ hfield, hshows⟩

/-- An object that shows legible fields under plain spellings is
legible. The fields are those of a record type, whose spellings do not
depend on the record. -/
theorem legible_of_showsRecord (r : RecordType α) {d : Dialect} {depth : Nat}
    {fields : List (Label × Form)} (hplain : r.IsPlain)
    (hspellings : spellingsOf fields = r.spellings)
    (hfields : ∀ field ∈ fields, field.2.IsLegible d depth) {value : Json}
    (h : ShowsRecord fields value) : Legible d (depth + 1) value := by
  obtain ⟨members, ordered, rfl, hperm, hshow⟩ := h
  obtain ⟨hdistinct, hwhole⟩ := hplain
  rw [← hspellings] at hdistinct hwhole
  refine ⟨(hperm.map Prod.fst).nodup_iff.mpr (hshow.nodup_keys hdistinct), fun m hm => ?_⟩
  -- A member is the field whose spelling it has, so its key is plain and its value legible.
  obtain ⟨field, hfield, hspelling, hvalue⟩ := hshow.exists_field m (hperm.mem_iff.mp hm)
  have hkey : m.1 ∈ spellingsOf fields := List.mem_flatMap.mpr ⟨field, hfield, hspelling⟩
  exact ⟨(hwhole _ hkey).legibleText d, hfields field hfield _ hvalue⟩

section Records

open Form

variable {d : Dialect}

/-- The words for the ways of access are ASCII. -/
theorem isWhole_word (a : Access) : Json.IsWhole a.word := by
  cases a <;> decide

/-- A parameter is an object of texts, which takes one level. -/
theorem ParameterDoc.legible {p : ParameterDoc} (h : p.IsWhole) (depth : Nat) :
    ∀ value, p.Shows value → Legible d (depth + 1) value := by
  intro value hvalue
  refine legible_of_showsRecord recordType isPlain rfl ?_ hvalue
  simp only [forms, List.forall_mem_cons]
  exact ⟨isLegible_text h.name, isLegible_text h.type, isLegible_text h.description,
    isLegible_flag _, isLegible_text? h.defaultValue, by simp⟩

/-- A function takes three: its own, that of the list of parameters, and
theirs. -/
theorem FunctionDoc.legible {f : FunctionDoc} (h : f.IsWhole) (depth : Nat) :
    ∀ value, f.Shows value → Legible d (depth + 3) value := by
  intro value hvalue
  refine legible_of_showsRecord recordType isPlain rfl ?_ hvalue
  simp only [forms, List.forall_mem_cons]
  exact ⟨isLegible_text h.name, isLegible_text h.description,
    isLegible_records fun x hx => ParameterDoc.legible (h.parameters x hx) depth,
    isLegible_text h.returnType, isLegible_text h.returnDescription, isLegible_texts h.examples,
    isLegible_text h.complexity, by simp⟩

/-- So does a constructor, for the same reason: its parameters and its
examples lie side by side. -/
theorem ConstructorDoc.legible {c : ConstructorDoc} (h : c.IsWhole) (depth : Nat) :
    ∀ value, c.Shows value → Legible d (depth + 3) value := by
  intro value hvalue
  refine legible_of_showsRecord recordType isPlain rfl ?_ hvalue
  simp only [forms, List.forall_mem_cons]
  exact ⟨isLegible_text h.description,
    isLegible_records fun x hx => ParameterDoc.legible (h.parameters x hx) depth,
    isLegible_texts h.examples, by simp⟩

/-- A property takes one, like a parameter. -/
theorem PropertyDoc.legible {p : PropertyDoc} (h : p.IsWhole) (depth : Nat) :
    ∀ value, p.Shows value → Legible d (depth + 1) value := by
  intro value hvalue
  refine legible_of_showsRecord recordType isPlain rfl ?_ hvalue
  simp only [forms, List.forall_mem_cons]
  exact ⟨isLegible_text h.name, isLegible_text h.type, isLegible_text h.description,
    isLegible_text (isWhole_word _), isLegible_flag _, by simp⟩

/-- A class takes five: its own, that of the list of its methods, and three
for each of them. -/
theorem ClassDoc.legible {c : ClassDoc} (h : c.IsWhole) (depth : Nat) :
    ∀ value, c.Shows value → Legible d (depth + 5) value := by
  intro value hvalue
  refine legible_of_showsRecord recordType isPlain rfl ?_ hvalue
  simp only [forms, List.forall_mem_cons]
  exact ⟨isLegible_text h.name, isLegible_text h.description,
    isLegible_record? fun x hx => ConstructorDoc.legible (h.constructor x hx) (depth + 1),
    isLegible_records fun x hx => FunctionDoc.legible (h.methods x hx) depth,
    isLegible_records fun x hx => PropertyDoc.legible (h.properties x hx) (depth + 2),
    isLegible_texts h.inheritance, by simp⟩

/-- So does an interface, whose methods are the same. Its properties lie
less deep, and what is legible with few levels is legible with more. -/
theorem InterfaceDoc.legible {i : InterfaceDoc} (h : i.IsWhole) (depth : Nat) :
    ∀ value, i.Shows value → Legible d (depth + 5) value := by
  intro value hvalue
  refine legible_of_showsRecord recordType isPlain rfl ?_ hvalue
  simp only [forms, List.forall_mem_cons]
  exact ⟨isLegible_text h.name, isLegible_text h.description,
    isLegible_records fun x hx => PropertyDoc.legible (h.properties x hx) (depth + 2),
    isLegible_records fun x hx => FunctionDoc.legible (h.methods x hx) depth, by simp⟩

/-- A constant takes one level, as it has texts only. -/
theorem ConstantDoc.legible {c : ConstantDoc} (h : c.IsWhole) (depth : Nat) :
    ∀ value, c.Shows value → Legible d (depth + 1) value := by
  intro value hvalue
  refine legible_of_showsRecord recordType isPlain rfl ?_ hvalue
  simp only [forms, List.forall_mem_cons]
  exact ⟨isLegible_text h.name, isLegible_text h.type, isLegible_text h.value,
    isLegible_text h.description, by simp⟩

/-- A type takes two levels, for its list of examples. -/
theorem TypeDoc.legible {t : TypeDoc} (h : t.IsWhole) (depth : Nat) :
    ∀ value, t.Shows value → Legible d (depth + 2) value := by
  intro value hvalue
  refine legible_of_showsRecord recordType isPlain rfl ?_ hvalue
  simp only [forms, List.forall_mem_cons]
  exact ⟨isLegible_text h.name, isLegible_text h.definition, isLegible_text h.description,
    isLegible_texts h.examples, by simp⟩

/-- A file takes seven levels, which is far from the limit of any reader.
The deepest of its fields are the classes, with their methods and the
parameters of these. -/
theorem FileDoc.legible {doc : FileDoc} (h : doc.IsWhole) (depth : Nat) :
    ∀ value, doc.Shows value → Legible d (depth + 7) value := by
  intro value hvalue
  refine legible_of_showsRecord recordType isPlain rfl ?_ hvalue
  simp only [forms, List.forall_mem_cons]
  exact ⟨isLegible_text h.overview,
    isLegible_records fun x hx => FunctionDoc.legible (h.functions x hx) (depth + 2),
    isLegible_records fun x hx => ClassDoc.legible (h.classes x hx) depth,
    isLegible_records fun x hx => InterfaceDoc.legible (h.interfaces x hx) depth,
    isLegible_records fun x hx => ConstantDoc.legible (h.constants x hx) (depth + 4),
    isLegible_records fun x hx => TypeDoc.legible (h.types x hx) (depth + 3),
    isLegible_text? h.fileName, isLegible_text? h.filePath, by simp⟩

end Records

end DocScribe
