import DocScribe.Proofs.Json.RoundTrip
import DocScribe.Proofs.Record.Acceptance

/-!
# `DocScribe.Proofs.Record.Leaves`: records keep what their leaves hold

A leaf that belongs to a text keeps whatever value it has
(`Leaf.exists_text_keeps`). A string is taken as it stands. Any other value is
taken by its JSON text, and that text gives the value back unless the
first half of a surrogate pair stands directly in front of a second half
in one of its strings.

What a record keeps of its members is said field by field
(`ParameterDoc.Keeps` up to `FileDoc.Keeps`), by the value that counts for
the field: of two spellings the key comes first, and `null` counts for
nothing (`Label.held?`). A nested record keeps the members that it is read
from in the same way. Every value within the bounds of the reader is read
as a record that does (`FileDoc.keeps`).

The proof goes the way of `IsLenient`, from types of fields to fields behind
others and to records.
-/

set_option autoImplicit false

namespace DocScribe

open Json

variable {α β : Type}

/-! ### Leaves -/

namespace Leaf

/-- A text that keeps a value: the value itself if it is a string, else a
text that is decoded as the value again, provided that no half of a
surrogate pair meets the other half in its strings. -/
def Keeps : Json → Text → Prop
  | .str s, t => t = s
  | value, t => Json.parse t = .ok value ↔ ∀ s ∈ value.strings, Unpaired s

/-- A text that is there and keeps a value. -/
def KeepsSome (value : Json) (t? : Option Text) : Prop :=
  ∃ t, t? = some t ∧ Keeps value t

/-- Texts that keep the items of a list, one each and in their order;
`null` is no item. A string stands for a list of itself. -/
def KeepsItems : Json → List Text → Prop
  | .arr items, ts => List.Forall₂ Keeps (items.filter fun item => !item.isNull) ts
  | .str s, ts => ts = [s]
  | _, ts => ts = []

/-- Records that keep the members given for each, in their order. -/
def KeepsRecords (bare : Label) (keeps : Json.Members → α → Prop) (value : Json) (as : List α) :
    Prop :=
  List.Forall₂ keeps (records bare value) as

/-- A record that keeps the members given for it, if there are some. -/
def KeepsRecord (bare : Label) (keeps : Json.Members → α → Prop) (value : Json) (a? : Option α) :
    Prop :=
  match members? bare value with
  | some members => ∃ a, a? = some a ∧ keeps members a
  | none => a? = none

end Leaf

/-- The value that counts for a field: that of the key, else that of the
name, if it is not `null`. -/
def Label.held? (l : Label) (members : Json.Members) : Option Json :=
  (l.locate? members.present).map Prod.snd

/-- What stands in a field of a record keeps the value that counts for it,
or is the default if none does. -/
def Label.Keeps (l : Label) (keeps : Json → α → Prop) (default : α) (members : Json.Members)
    (a : α) : Prop :=
  match l.held? members with
  | some value => keeps value a
  | none => a = default

/-! ### Records -/

structure ParameterDoc.Keeps (members : Json.Members) (p : ParameterDoc) : Prop where
  name : nameLabel.Keeps Leaf.Keeps [] members p.name
  type : typeLabel.Keeps Leaf.Keeps [] members p.type
  description : descriptionLabel.Keeps Leaf.Keeps [] members p.description
  defaultValue : Labels.defaultValue.Keeps Leaf.KeepsSome none members p.defaultValue

structure FunctionDoc.Keeps (members : Json.Members) (f : FunctionDoc) : Prop where
  name : nameLabel.Keeps Leaf.Keeps [] members f.name
  description : descriptionLabel.Keeps Leaf.Keeps [] members f.description
  parameters : Labels.parameters.Keeps
    (Leaf.KeepsRecords ParameterDoc.nameLabel ParameterDoc.Keeps) [] members f.parameters
  returnType : Labels.returnType.Keeps Leaf.Keeps [] members f.returnType
  returnDescription : Labels.returnDescription.Keeps Leaf.Keeps [] members f.returnDescription
  examples : examplesLabel.Keeps Leaf.KeepsItems [] members f.examples
  complexity : Labels.complexity.Keeps Leaf.Keeps [] members f.complexity

structure ConstructorDoc.Keeps (members : Json.Members) (c : ConstructorDoc) : Prop where
  description : descriptionLabel.Keeps Leaf.Keeps [] members c.description
  parameters : Labels.parameters.Keeps
    (Leaf.KeepsRecords ParameterDoc.nameLabel ParameterDoc.Keeps) [] members c.parameters
  examples : examplesLabel.Keeps Leaf.KeepsItems [] members c.examples

structure PropertyDoc.Keeps (members : Json.Members) (p : PropertyDoc) : Prop where
  name : nameLabel.Keeps Leaf.Keeps [] members p.name
  type : typeLabel.Keeps Leaf.Keeps [] members p.type
  description : descriptionLabel.Keeps Leaf.Keeps [] members p.description

structure ClassDoc.Keeps (members : Json.Members) (c : ClassDoc) : Prop where
  name : nameLabel.Keeps Leaf.Keeps [] members c.name
  description : descriptionLabel.Keeps Leaf.Keeps [] members c.description
  constructor : Labels.construction.Keeps
    (Leaf.KeepsRecord ConstructorDoc.descriptionLabel ConstructorDoc.Keeps) none members
    c.constructor
  methods : Labels.methods.Keeps
    (Leaf.KeepsRecords FunctionDoc.nameLabel FunctionDoc.Keeps) [] members c.methods
  properties : Labels.properties.Keeps
    (Leaf.KeepsRecords PropertyDoc.nameLabel PropertyDoc.Keeps) [] members c.properties
  inheritance : Labels.inheritance.Keeps Leaf.KeepsItems [] members c.inheritance

structure InterfaceDoc.Keeps (members : Json.Members) (i : InterfaceDoc) : Prop where
  name : nameLabel.Keeps Leaf.Keeps [] members i.name
  description : descriptionLabel.Keeps Leaf.Keeps [] members i.description
  properties : Labels.properties.Keeps
    (Leaf.KeepsRecords PropertyDoc.nameLabel PropertyDoc.Keeps) [] members i.properties
  methods : Labels.methods.Keeps
    (Leaf.KeepsRecords FunctionDoc.nameLabel FunctionDoc.Keeps) [] members i.methods

structure ConstantDoc.Keeps (members : Json.Members) (c : ConstantDoc) : Prop where
  name : nameLabel.Keeps Leaf.Keeps [] members c.name
  type : typeLabel.Keeps Leaf.Keeps [] members c.type
  value : Labels.value.Keeps Leaf.Keeps [] members c.value
  description : descriptionLabel.Keeps Leaf.Keeps [] members c.description

structure TypeDoc.Keeps (members : Json.Members) (t : TypeDoc) : Prop where
  name : nameLabel.Keeps Leaf.Keeps [] members t.name
  definition : Labels.definition.Keeps Leaf.Keeps [] members t.definition
  description : descriptionLabel.Keeps Leaf.Keeps [] members t.description
  examples : examplesLabel.Keeps Leaf.KeepsItems [] members t.examples

structure FileDoc.Keeps (members : Json.Members) (d : FileDoc) : Prop where
  overview : Labels.overview.Keeps Leaf.Keeps [] members d.overview
  functions : Labels.functions.Keeps
    (Leaf.KeepsRecords FunctionDoc.nameLabel FunctionDoc.Keeps) [] members d.functions
  classes : Labels.classes.Keeps
    (Leaf.KeepsRecords ClassDoc.nameLabel ClassDoc.Keeps) [] members d.classes
  interfaces : Labels.interfaces.Keeps
    (Leaf.KeepsRecords InterfaceDoc.nameLabel InterfaceDoc.Keeps) [] members d.interfaces
  constants : Labels.constants.Keeps
    (Leaf.KeepsRecords ConstantDoc.nameLabel ConstantDoc.Keeps) [] members d.constants
  types : Labels.types.Keeps
    (Leaf.KeepsRecords TypeDoc.nameLabel TypeDoc.Keeps) [] members d.types
  fileName : Labels.fileName.Keeps Leaf.KeepsSome none members d.fileName
  filePath : Labels.filePath.Keeps Leaf.KeepsSome none members d.filePath

/-! ### What leaves are read as -/

/-- A value within the bounds of the reader. -/
abbrev Json.InBounds (value : Json) : Prop := Fits Dialect.common.nesting value

namespace Leaf

/-- A value within the bounds has a text, since it can be written, and
the text keeps it. -/
theorem exists_text_keeps {value : Json} (h : value.InBounds) :
    ∃ t, text value = .ok t ∧ Keeps value t := by
  cases value with
  | str s => exact ⟨s, rfl, rfl⟩
  | _ => exact ⟨_, written_of_isWritable _ (Fits.isWritable h), parse_write_iff h⟩

/-- Items within the bounds have texts that keep them, one each and in
order. Within the bounds no integer is too long. -/
theorem exists_mapM_text_keeps {items : List Json} (h : ∀ item ∈ items, item.InBounds) :
    ∃ ts, items.mapM text = .ok ts ∧ List.Forall₂ Keeps items ts := by
  induction items with
  | nil => exact ⟨[], rfl, .nil⟩
  | cons item items ih =>
      rw [List.forall_mem_cons] at h
      obtain ⟨t, ht, hkeeps⟩ := exists_text_keeps h.1
      obtain ⟨ts, hts, hmore⟩ := ih h.2
      refine ⟨t :: ts, ?_, .cons hkeeps hmore⟩
      rw [List.mapM_cons, ht, hts]
      rfl

/-- A value within the bounds has texts that keep its items, if it has
any. -/
theorem exists_texts_keepsItems {value : Json} (h : value.InBounds) :
    ∃ ts, texts value = .ok ts ∧ KeepsItems value ts := by
  cases value with
  | arr items =>
      -- On the way to the items one level is used up.
      exact exists_mapM_text_keeps fun item hitem =>
        Fits.succ (h item (List.mem_filter.mp hitem).1)
  | str s => exact ⟨[s], rfl, rfl⟩
  | _ => exact ⟨[], rfl, rfl⟩

/-- The members of an object, or of what stands for one, are within the
bounds if the value is. -/
theorem inBounds_of_members? {bare : Label} {value : Json} (h : value.InBounds)
    {members : Json.Members} (hmembers : members? bare value = some members) :
    (Json.obj members).InBounds := by
  rw [members?.eq_def] at hmembers
  split at hmembers
  · exact Option.some.inj hmembers ▸ h
  · split at hmembers
    · cases hmembers
    · obtain rfl := Option.some.inj hmembers
      exact ⟨List.nodup_singleton _, List.forall_mem_singleton.mpr trivial⟩
  · cases hmembers

/-- So are the members of each record in a list, also if a text stands for
the record. -/
theorem inBounds_of_mem_records {bare : Label} {value : Json} (h : value.InBounds) :
    ∀ members ∈ records bare value, (Json.obj members).InBounds := by
  intro members hmembers
  rw [records.eq_def] at hmembers
  split at hmembers
  · obtain ⟨item, hitem, hitem'⟩ := List.mem_filterMap.mp hmembers
    exact inBounds_of_members? (Fits.succ (h item hitem)) hitem'
  · exact List.mem_singleton.mp hmembers ▸ h
  · cases hmembers

end Leaf

/-- Members within the bounds are read as a record that has to do with
them. -/
def RecordType.Keeps (r : RecordType α) (keeps : Json.Members → α → Prop) : Prop :=
  ∀ members : Json.Members, (Json.obj members).InBounds → ∃ a, keeps members a ∧ r.Reads members a

namespace FieldType

/-- A value within the bounds is read as something that has to do with
it. -/
def Keeps (type : FieldType α) (keeps : Json → α → Prop) : Prop :=
  ∀ value : Json, value.InBounds → ∃ a, keeps value a ∧ type.Reads value a

/-- A text keeps any value: a string as it is, and any other value as its
JSON text. -/
theorem keeps_text : text.Keeps Leaf.Keeps := fun value h => by
  obtain ⟨t, ht, hkeeps⟩ := Leaf.exists_text_keeps h
  exact ⟨t, hkeeps, reads_text ht⟩

/-- A text that may be absent keeps any value that is there. -/
theorem keeps_text? : text?.Keeps Leaf.KeepsSome := fun value h => by
  obtain ⟨t, ht, hkeeps⟩ := Leaf.exists_text_keeps h
  exact ⟨some t, ⟨t, rfl, hkeeps⟩, reads_text? ht⟩

/-- A list of texts keeps the items of a list. -/
theorem keeps_texts : texts.Keeps Leaf.KeepsItems := fun value h => by
  obtain ⟨ts, hts, hkeeps⟩ := Leaf.exists_texts_keepsItems h
  exact ⟨ts, hkeeps, reads_texts hts⟩

/-- Of a flag nothing is said but that there is one. -/
theorem keeps_flag : flag.Keeps fun _ _ => True := fun value _ =>
  ⟨_, trivial, reads_flag value⟩

/-- So it is with an access. -/
theorem keeps_access : access.Keeps fun _ _ => True := fun value h => by
  rcases Leaf.accessWord_cases value with ⟨a, ha⟩ | ⟨hlong, _⟩
  · exact ⟨a, trivial, reads_access ha⟩
  · exact absurd hlong (by simp [Fits.isWritable h])

/-- A list of records keeps what stands for records, in order, each as the
type of the records keeps it. Items that stand for none are left out. -/
theorem keeps_records (bare : Label) {r : RecordType α} {keeps : Json.Members → α → Prop}
    (hr : r.Keeps keeps) : (records bare r).Keeps (Leaf.KeepsRecords bare keeps) := by
  intro value h
  have hall : ∀ found : List Json.Members, (∀ members ∈ found, (Json.obj members).InBounds) →
      ∃ as, List.Forall₂ keeps found as ∧ List.Forall₂ r.Reads found as := by
    intro found hfound
    induction found with
    | nil => exact ⟨[], .nil, .nil⟩
    | cons members more ih =>
        rw [List.forall_mem_cons] at hfound
        obtain ⟨a, ha, hreads⟩ := hr members hfound.1
        obtain ⟨as, has, hmore⟩ := ih hfound.2
        exact ⟨a :: as, .cons ha has, .cons hreads hmore⟩
  obtain ⟨as, has, hreads⟩ := hall _ (Leaf.inBounds_of_mem_records h)
  exact ⟨as, has, reads_records hreads⟩

end FieldType

/-! ### What records are read as -/

/-- Where the value of the key is not dropped, or there is no other
spelling, the second stage finds what the first one makes of the value
that counts. -/
theorem Label.locate?_of_settle {l : Label} {coerce : Coercion}
    {coercions : List (Label × Coercion)} (hdistinct : (spellingsOf coercions).Nodup)
    (hfield : (l, coerce) ∈ coercions) {members settled : Json.Members}
    (hsettle : settle coercions members = .ok settled)
    (hkept : l.key = l.name
      ∨ ∀ value, members.present.get? l.key = some value → coerce.kept? value ≠ none) :
    (l.locate? settled).map Prod.snd = (l.held? members).bind coerce.kept? := by
  have hkey := get?_of_settle hdistinct hsettle hfield l.key_mem_spellings
  have hname := get?_of_settle hdistinct hsettle hfield (Label.mem_spellings_iff.mpr (.inr rfl))
  rw [held?, locate?, locate?, hkey, hname]
  cases hvalue : members.present.get? l.key with
  | none => cases members.present.get? l.name <;> simp [Option.map_map, Function.comp_def]
  | some value =>
      dsimp only [Option.bind_some, Option.map_some]
      cases hcoerce : coerce.kept? value with
      | some settled => rfl
      | none =>
          rcases hkept with hone | htotal
          · rw [← hone, hvalue, Option.bind_some, hcoerce]
            rfl
          · exact absurd hcoerce (htotal value hvalue)

namespace Fields

/-- Members within the bounds, settled by these and other fields, give
something that has to do with them. -/
def Keeps (fields : Fields α) (keeps : Json.Members → α → Prop) : Prop :=
  ∀ coercions, fields.coercions ⊆ coercions → (spellingsOf coercions).Nodup →
    ∀ members settled : Json.Members, (Json.obj members).InBounds →
      settle coercions members = .ok settled → ∃ a, keeps members a ∧ fields.Give settled a

/-- What counts among members within the bounds is within them. -/
theorem inBounds_of_get?_present {members : Json.Members} (h : (Json.obj members).InBounds)
    {k : Text} {value : Json} (hvalue : members.present.get? k = some value) : value.InBounds :=
  Fits.succ (h.2 _ (List.mem_filter.mp (Json.Members.mem_of_get? hvalue)).1)

/-- A value that counts for a field is one of the members, so it is within
the bounds if they are. -/
theorem inBounds_of_held? {l : Label} {members : Json.Members} (h : (Json.obj members).InBounds)
    {value : Json} (hheld : l.held? members = some value) : value.InBounds := by
  rw [Label.held?, Label.locate?] at hheld
  split at hheld
  · next hkey => exact inBounds_of_get?_present h (hkey.trans hheld)
  · rw [Option.map_map, Option.map_eq_some_iff] at hheld
    obtain ⟨found, hname, rfl⟩ := hheld
    exact inBounds_of_get?_present h hname

/-- A field keeps the value that counts for it, if its type keeps all that
its coercion does not drop. -/
theorem keeps_field_of {l : Label} {type : FieldType α} {default : α} {keeps : Json → α → Prop}
    (hkept : l.key = l.name ∨ ∀ value : Json, value.InBounds → type.coerce.kept? value ≠ none)
    (h : ∀ value : Json, value.InBounds → (∃ a, keeps value a ∧ type.Reads value a)
      ∨ type.coerce value = .ok none ∧ keeps value default) :
    (l.field type default).Keeps (l.Keeps keeps default) := by
  intro coercions hsub hdistinct members settled hbounds hsettle
  have hfield : (l, type.coerce) ∈ coercions := hsub (List.mem_singleton_self _)
  have hfound := Label.locate?_of_settle hdistinct hfield hsettle
    (hkept.imp_right fun h value hvalue => h value (inBounds_of_get?_present hbounds hvalue))
  -- Without a value that is coerced the field has its default.
  have habsent (hnone : (l.held? members).bind type.coerce.kept? = none) :
      (l.field type default).Give settled default := by
    rw [hnone, Option.map_eq_none_iff] at hfound
    exact give_field_of_none hfound
  simp only [Label.Keeps]
  cases hheld : l.held? members with
  | none =>
      refine ⟨default, rfl, habsent ?_⟩
      rw [hheld]
      rfl
  | some value =>
      rcases h value (inBounds_of_held? hbounds hheld) with ⟨a, ha, hreads⟩ | ⟨hdropped, hdefault⟩
      · obtain ⟨kept, hcoerce, hcheck⟩ := hreads
        rw [hheld, Option.bind_some, Coercion.kept?_eq_some_iff.mpr hcoerce,
          Option.map_eq_some_iff] at hfound
        obtain ⟨⟨spelling, _⟩, hlocate, rfl⟩ := hfound
        exact ⟨a, ha, give_field_of_some hlocate hcheck⟩
      · refine ⟨default, hdefault, habsent ?_⟩
        rw [hheld, Option.bind_some, Coercion.kept?, hdropped]

/-- A type that reads every value drops nothing, so the field may have two
spellings. -/
theorem keeps_field (l : Label) {type : FieldType α} {default : α} {keeps : Json → α → Prop}
    (h : type.Keeps keeps) : (l.field type default).Keeps (l.Keeps keeps default) := by
  refine keeps_field_of (.inr fun value hbounds => ?_) fun value hbounds => .inl (h value hbounds)
  obtain ⟨_, _, kept, hcoerce, _⟩ := h value hbounds
  rw [Coercion.kept?_eq_some_iff.mpr hcoerce]
  exact Option.some_ne_none kept

/-- A field for a text keeps what its value says. -/
theorem keeps_text (l : Label) : (l.field .text []).Keeps (l.Keeps Leaf.Keeps []) :=
  keeps_field l FieldType.keeps_text

/-- A field for a text that may be absent keeps what stands under its
label. -/
theorem keeps_text? (l : Label) : (l.field .text? none).Keeps (l.Keeps Leaf.KeepsSome none) :=
  keeps_field l FieldType.keeps_text?

/-- A field for several texts keeps the items that stand under its label. -/
theorem keeps_texts (l : Label) : (l.field .texts []).Keeps (l.Keeps Leaf.KeepsItems []) :=
  keeps_field l FieldType.keeps_texts

/-- Of a flag nothing is said: any value is one. -/
theorem keeps_flag (l : Label) (default : Bool) :
    (l.field .flag default).Keeps (l.Keeps (fun _ _ => True) default) :=
  keeps_field l FieldType.keeps_flag

/-- Neither is anything of an access: other words than the three stand for
the usual one. -/
theorem keeps_access (l : Label) (default : Access) :
    (l.field .access default).Keeps (l.Keeps (fun _ _ => True) default) :=
  keeps_field l FieldType.keeps_access

/-- A list of records keeps the members that each record is read from. -/
theorem keeps_records (l bare : Label) {r : RecordType α} {keeps : Json.Members → α → Prop}
    (hr : r.Keeps keeps) :
    (l.field (.records bare r) []).Keeps (l.Keeps (Leaf.KeepsRecords bare keeps) []) :=
  keeps_field l (FieldType.keeps_records bare hr)

/-- What stands for no record is dropped, so the field must have one
spelling. -/
theorem keeps_record? {l : Label} (hone : l.key = l.name) (bare : Label) {r : RecordType α}
    {keeps : Json.Members → α → Prop} (hr : r.Keeps keeps) :
    (l.field (.record? bare r) none).Keeps (l.Keeps (Leaf.KeepsRecord bare keeps) none) := by
  refine keeps_field_of (.inl hone) fun value hbounds => ?_
  cases hmembers : Leaf.members? bare value with
  | none =>
      refine .inr ⟨?_, ?_⟩
      · show Except.ok ((Leaf.members? bare value).map Json.obj) = _
        rw [hmembers, Option.map_none]
      · simp only [Leaf.KeepsRecord, hmembers]
  | some members =>
      obtain ⟨a, ha, hreads⟩ := hr members (Leaf.inBounds_of_members? hbounds hmembers)
      refine .inl ⟨some a, ?_, FieldType.reads_record? hmembers hreads⟩
      simp only [Leaf.KeepsRecord, hmembers]
      exact ⟨a, rfl, ha⟩

/-- The first field of a record: the constructor takes what has to do with
the members. -/
theorem Keeps.first {f : α → β} {fields : Fields α} {P : Json.Members → α → Prop}
    {Q : Json.Members → β → Prop} (h : fields.Keeps P)
    (hf : ∀ members a, P members a → Q members (f a)) : (f <$> fields).Keeps Q := by
  intro coercions hsub hdistinct members settled hbounds hsettle
  obtain ⟨a, ha, hgive⟩ := h coercions hsub hdistinct members settled hbounds hsettle
  exact ⟨f a, hf members a ha, give_map f hgive⟩

/-- One more field of a record: the constructor, applied to the fields so
far, takes what has to do with the members. -/
theorem Keeps.next {fields : Fields (α → β)} {more : Fields α} {P : Json.Members → α → Prop}
    {Q : Json.Members → β → Prop} (h : more.Keeps P)
    (hfields : fields.Keeps fun members f => ∀ a, P members a → Q members (f a)) :
    (fields <*> more).Keeps Q := by
  intro coercions hsub hdistinct members settled hbounds hsettle
  have hsub' : fields.coercions ++ more.coercions ⊆ coercions := hsub
  rw [List.append_subset] at hsub'
  obtain ⟨f, hf, hgive⟩ := hfields coercions hsub'.1 hdistinct members settled hbounds hsettle
  obtain ⟨a, ha, hgive'⟩ := h coercions hsub'.2 hdistinct members settled hbounds hsettle
  exact ⟨f a, hf a ha, give_seq hgive hgive'⟩

end Fields

/-- A record type keeps what its fields keep. It is lenient, so the first
stage of members within the bounds succeeds. -/
theorem RecordType.keeps_of_fields {r : RecordType α} {keeps : Json.Members → α → Prop}
    (hplain : r.IsPlain) (hlenient : r.IsLenient) (h : r.fields.Keeps keeps) : r.Keeps keeps := by
  intro members hbounds
  obtain ⟨_, hread⟩ := hlenient.exists_reads (Fits.isWritable hbounds)
  obtain ⟨settled, hsettle⟩ := hread.exists_settle
  obtain ⟨a, ha, hgive⟩ := h r.fields.coercions (List.Subset.refl _) hplain.1 members settled
    hbounds hsettle
  exact ⟨a, ha, reads_of_settle hsettle hgive⟩

open Fields

/-- A parameter keeps what each of its fields says. A flag is no text and
loses what it was told, so it is left out. -/
theorem ParameterDoc.keeps : recordType.Keeps Keeps := by
  refine RecordType.keeps_of_fields isPlain isLenient ?_
  refine .next (keeps_text? _) <| .next (keeps_flag _ _) <| .next (keeps_text _) <|
    .next (keeps_text _) <| .first (keeps_text _) ?_
  exact fun _ _ hname _ htype _ hdescription _ _ _ hdefault =>
    ⟨hname, htype, hdescription, hdefault⟩

/-- A function keeps what its fields say, and its parameters do, in order
and without those that are none. -/
theorem FunctionDoc.keeps : recordType.Keeps Keeps := by
  refine RecordType.keeps_of_fields isPlain isLenient ?_
  have hparameters := keeps_records Labels.parameters ParameterDoc.nameLabel ParameterDoc.keeps
  refine .next (keeps_text _) <| .next (keeps_texts _) <| .next (keeps_text _) <|
    .next (keeps_text _) <| .next hparameters <| .next (keeps_text _) <| .first (keeps_text _) ?_
  exact fun _ _ hname _ hdescription _ hparameters _ htype _ hreturn _ hexamples _ hcomplexity =>
    ⟨hname, hdescription, hparameters, htype, hreturn, hexamples, hcomplexity⟩

/-- A constructor keeps what its fields say, and so do its parameters. -/
theorem ConstructorDoc.keeps : recordType.Keeps Keeps := by
  refine RecordType.keeps_of_fields isPlain isLenient ?_
  have hparameters := keeps_records Labels.parameters ParameterDoc.nameLabel ParameterDoc.keeps
  refine .next (keeps_texts _) <| .next hparameters <| .first (keeps_text _) ?_
  exact fun _ _ hdescription _ hparameters _ hexamples => ⟨hdescription, hparameters, hexamples⟩

/-- A property keeps what its texts say. Its access and its flag are read as
words and are left out. -/
theorem PropertyDoc.keeps : recordType.Keeps Keeps := by
  refine RecordType.keeps_of_fields isPlain isLenient ?_
  refine .next (keeps_flag _ _) <| .next (keeps_access _ _) <| .next (keeps_text _) <|
    .next (keeps_text _) <| .first (keeps_text _) ?_
  exact fun _ _ hname _ htype _ hdescription _ _ _ _ => ⟨hname, htype, hdescription⟩

/-- A class keeps what its fields say, with its constructor, its methods and
its properties. The key of the constructor is its name as well, so there is
only one place to look for it. -/
theorem ClassDoc.keeps : recordType.Keeps Keeps := by
  refine RecordType.keeps_of_fields isPlain isLenient ?_
  have hone : Labels.construction.key = Labels.construction.name := rfl
  have hconstructor := keeps_record? hone ConstructorDoc.descriptionLabel ConstructorDoc.keeps
  have hmethods := keeps_records Labels.methods FunctionDoc.nameLabel FunctionDoc.keeps
  have hproperties := keeps_records Labels.properties PropertyDoc.nameLabel PropertyDoc.keeps
  refine .next (keeps_texts _) <| .next hproperties <| .next hmethods <| .next hconstructor <|
    .next (keeps_text _) <| .first (keeps_text _) ?_
  exact fun _ _ hname _ hdescription _ hconstructor _ hmethods _ hproperties _ hparents =>
    ⟨hname, hdescription, hconstructor, hmethods, hproperties, hparents⟩

/-- An interface keeps what its fields say, with its properties and
methods. -/
theorem InterfaceDoc.keeps : recordType.Keeps Keeps := by
  refine RecordType.keeps_of_fields isPlain isLenient ?_
  have hproperties := keeps_records Labels.properties PropertyDoc.nameLabel PropertyDoc.keeps
  have hmethods := keeps_records Labels.methods FunctionDoc.nameLabel FunctionDoc.keeps
  refine .next hmethods <| .next hproperties <| .next (keeps_text _) <| .first (keeps_text _) ?_
  exact fun _ _ hname _ hdescription _ hproperties _ hmethods =>
    ⟨hname, hdescription, hproperties, hmethods⟩

/-- A constant keeps what its fields say, which are texts. -/
theorem ConstantDoc.keeps : recordType.Keeps Keeps := by
  refine RecordType.keeps_of_fields isPlain isLenient ?_
  refine .next (keeps_text _) <| .next (keeps_text _) <| .next (keeps_text _) <|
    .first (keeps_text _) ?_
  exact fun _ _ hname _ htype _ hvalue _ hdescription => ⟨hname, htype, hvalue, hdescription⟩

/-- A type keeps what its fields say. The fields come in the order of the
record, and the last step puts together what is known of each of them. -/
theorem TypeDoc.keeps : recordType.Keeps Keeps := by
  refine RecordType.keeps_of_fields isPlain isLenient ?_
  refine .next (keeps_texts _) <| .next (keeps_text _) <| .next (keeps_text _) <|
    .first (keeps_text _) ?_
  exact fun _ _ hname _ hdefinition _ hdescription _ hexamples =>
    ⟨hname, hdefinition, hdescription, hexamples⟩

/-- Members within the bounds are read as documentation of a file that keeps
them. -/
theorem FileDoc.keeps : recordType.Keeps Keeps := by
  refine RecordType.keeps_of_fields isPlain isLenient ?_
  have hfunctions := keeps_records Labels.functions FunctionDoc.nameLabel FunctionDoc.keeps
  have hclasses := keeps_records Labels.classes ClassDoc.nameLabel ClassDoc.keeps
  have hinterfaces := keeps_records Labels.interfaces InterfaceDoc.nameLabel InterfaceDoc.keeps
  have hconstants := keeps_records Labels.constants ConstantDoc.nameLabel ConstantDoc.keeps
  have htypes := keeps_records Labels.types TypeDoc.nameLabel TypeDoc.keeps
  refine .next (keeps_text? _) <| .next (keeps_text? _) <| .next htypes <| .next hconstants <|
    .next hinterfaces <| .next hclasses <| .next hfunctions <| .first (keeps_text _) ?_
  exact fun _ _ hoverview _ hfunctions _ hclasses _ hinterfaces _ hconstants _ htypes _ hname _
    hpath => ⟨hoverview, hfunctions, hclasses, hinterfaces, hconstants, htypes, hname, hpath⟩

end DocScribe
