import DocScribe.Proofs.Json.Strings
import DocScribe.Proofs.Record.Acceptance
import DocScribe.Proofs.Record.Legibility
import Mathlib.Tactic.MkIffOfInductiveProp

/-!
# `DocScribe.Proofs.Record.Wholeness`: surrogates on the way through a record

Between JSON and a record no surrogate comes up or gets lost. Written as
JSON, a record has whole strings exactly if it is whole
(`FileDoc.hasWholeStrings_toJson`); its keys are ASCII. Read from a value
with whole strings, a record is whole (`FileDoc.keepsWhole`): a text is
taken as it stands, and what is no text becomes one by a style that
escapes everything.

Reading goes the way of `IsLenient`: from types of fields to fields behind
others and to records. What is to hold of the record is handed on from the
last field to the first, as what is to hold of the constructor applied to
the fields so far.
-/

set_option autoImplicit false

namespace DocScribe

open Json

variable {α β : Type}

attribute [mk_iff] ParameterDoc.IsWhole FunctionDoc.IsWhole ConstructorDoc.IsWhole
  PropertyDoc.IsWhole ClassDoc.IsWhole InterfaceDoc.IsWhole ConstantDoc.IsWhole TypeDoc.IsWhole
  FileDoc.IsWhole

/-! ### Records as JSON -/

/-- Members under the keys of a record type: what is left out does not
count. -/
theorem hasWholeStrings_members (r : RecordType α) {fields : List (Label × Option Json)}
    (hplain : r.IsPlain) (hspellings : spellingsOf fields = r.spellings) :
    (Json.obj (Absence.omitted.members fields)).HasWholeStrings
      ↔ ∀ field ∈ fields, ∀ value ∈ field.2, value.HasWholeStrings := by
  have hkey : ∀ field ∈ fields, Json.IsWhole field.1.key := by
    intro field hfield
    refine hplain.2 _ (hspellings ▸ ?_)
    exact List.mem_flatMap.mpr ⟨field, hfield, field.1.key_mem_spellings⟩
  rw [hasWholeStrings_obj, Absence.members]
  constructor
  · intro h field hfield value hvalue
    refine (h (field.1.key, value) (List.mem_filterMap.mpr ⟨field, hfield, ?_⟩)).2
    rw [hvalue]
  · intro h m hm
    obtain ⟨field, hfield, hm⟩ := List.mem_filterMap.mp hm
    cases hvalue : field.2 with
    | none => exact nomatch hvalue ▸ hm
    | some value =>
        rw [hvalue] at hm
        obtain rfl := Option.some.inj hm
        exact ⟨hkey field hfield, h field hfield value hvalue⟩

/-- A list of texts has the surrogates of its texts. -/
theorem hasWholeStrings_ofTexts {ts : List Text} :
    (ofTexts ts).HasWholeStrings ↔ AllWhole ts := by
  rw [ofTexts, hasWholeStrings_arr, List.forall_mem_map]
  exact forall₂_congr fun t _ => hasWholeStrings_str

/-- A list of records, by the records in it. The keys of these are fixed and
whole. -/
theorem hasWholeStrings_map {toJson : α → Json} {P : α → Prop}
    (h : ∀ a, (toJson a).HasWholeStrings ↔ P a) (as : List α) :
    (Json.arr (as.map toJson)).HasWholeStrings ↔ ∀ a ∈ as, P a := by
  rw [hasWholeStrings_arr, List.forall_mem_map]
  exact forall₂_congr fun a _ => h a

/-- What is written of a parameter has a surrogate exactly if one of its
texts has. The keys are fixed and have none. -/
theorem ParameterDoc.hasWholeStrings_toJson (p : ParameterDoc) :
    (p.toJson .omitted).HasWholeStrings ↔ p.IsWhole := by
  rw [toJson, hasWholeStrings_members recordType isPlain rfl, isWhole_iff]
  simp [hasWholeStrings_str, hasWholeStrings_bool, ofText?]

/-- A function is written with whole strings exactly if it is whole, and so
are its parameters. -/
theorem FunctionDoc.hasWholeStrings_toJson (f : FunctionDoc) :
    (f.toJson .omitted).HasWholeStrings ↔ f.IsWhole := by
  rw [toJson, hasWholeStrings_members recordType isPlain rfl, isWhole_iff]
  simp [hasWholeStrings_str, hasWholeStrings_ofTexts,
    hasWholeStrings_map ParameterDoc.hasWholeStrings_toJson]

/-- A constructor is written with whole strings exactly if it is whole. -/
theorem ConstructorDoc.hasWholeStrings_toJson (c : ConstructorDoc) :
    (c.toJson .omitted).HasWholeStrings ↔ c.IsWhole := by
  rw [toJson, hasWholeStrings_members recordType isPlain rfl, isWhole_iff]
  simp [hasWholeStrings_str, hasWholeStrings_ofTexts,
    hasWholeStrings_map ParameterDoc.hasWholeStrings_toJson]

/-- A property is written with whole strings exactly if it is whole. Its
access is a fixed word. -/
theorem PropertyDoc.hasWholeStrings_toJson (p : PropertyDoc) :
    (p.toJson .omitted).HasWholeStrings ↔ p.IsWhole := by
  rw [toJson, hasWholeStrings_members recordType isPlain rfl, isWhole_iff]
  simp [hasWholeStrings_str, hasWholeStrings_bool, isWhole_word]

/-- A class is written with whole strings exactly if it is whole. If it has
no constructor, nothing is written for that. -/
theorem ClassDoc.hasWholeStrings_toJson (c : ClassDoc) :
    (c.toJson .omitted).HasWholeStrings ↔ c.IsWhole := by
  rw [toJson, hasWholeStrings_members recordType isPlain rfl, isWhole_iff]
  simp [hasWholeStrings_str, hasWholeStrings_ofTexts, ConstructorDoc.hasWholeStrings_toJson,
    hasWholeStrings_map FunctionDoc.hasWholeStrings_toJson,
    hasWholeStrings_map PropertyDoc.hasWholeStrings_toJson]

/-- An interface is written with whole strings exactly if it is whole. -/
theorem InterfaceDoc.hasWholeStrings_toJson (i : InterfaceDoc) :
    (i.toJson .omitted).HasWholeStrings ↔ i.IsWhole := by
  rw [toJson, hasWholeStrings_members recordType isPlain rfl, isWhole_iff]
  simp [hasWholeStrings_str, hasWholeStrings_map FunctionDoc.hasWholeStrings_toJson,
    hasWholeStrings_map PropertyDoc.hasWholeStrings_toJson]

/-- A constant is written with whole strings exactly if it is whole. -/
theorem ConstantDoc.hasWholeStrings_toJson (c : ConstantDoc) :
    (c.toJson .omitted).HasWholeStrings ↔ c.IsWhole := by
  rw [toJson, hasWholeStrings_members recordType isPlain rfl, isWhole_iff]
  simp [hasWholeStrings_str]

/-- A type is written with whole strings exactly if it is whole. -/
theorem TypeDoc.hasWholeStrings_toJson (t : TypeDoc) :
    (t.toJson .omitted).HasWholeStrings ↔ t.IsWhole := by
  rw [toJson, hasWholeStrings_members recordType isPlain rfl, isWhole_iff]
  simp [hasWholeStrings_str, hasWholeStrings_ofTexts]

/-- The documentation of a file has whole strings as JSON if it is whole,
and only then. -/
theorem FileDoc.hasWholeStrings_toJson (d : FileDoc) :
    (d.toJson .omitted).HasWholeStrings ↔ d.IsWhole := by
  rw [toJson, hasWholeStrings_members recordType isPlain rfl, isWhole_iff]
  simp [hasWholeStrings_str, ofText?, hasWholeStrings_map FunctionDoc.hasWholeStrings_toJson,
    hasWholeStrings_map ClassDoc.hasWholeStrings_toJson,
    hasWholeStrings_map InterfaceDoc.hasWholeStrings_toJson,
    hasWholeStrings_map ConstantDoc.hasWholeStrings_toJson,
    hasWholeStrings_map TypeDoc.hasWholeStrings_toJson]

/-! ### What leaves are read as -/

/-- A text is taken as it stands, and any other value is escaped, so no
surrogate comes in. -/
theorem isWhole_of_leafText {value : Json} (hwhole : value.HasWholeStrings) {t : Text}
    (h : Leaf.text value = .ok t) : Json.IsWhole t := by
  cases value with
  | str s => exact Except.ok.inj h ▸ hasWholeStrings_str.mp hwhole
  | _ =>
      rw [Leaf.text, Leaf.written] at h
      · split at h
        · exact Except.ok.inj h ▸ isWhole_write_of_escapesAll rfl _
        · cases h
      · rintro _ ⟨⟩

/-- The texts of items with whole strings are whole. Induction on the
items. -/
theorem allWhole_of_mapM_leafText {items : List Json}
    (hwhole : ∀ item ∈ items, item.HasWholeStrings) {ts : List Text}
    (h : items.mapM Leaf.text = .ok ts) : AllWhole ts := by
  induction items generalizing ts with
  | nil =>
      obtain rfl := Except.ok.inj h
      exact List.forall_mem_nil _
  | cons item items ih =>
      rw [List.forall_mem_cons] at hwhole
      rw [List.mapM_cons] at h
      cases hfirst : Leaf.text item with
      | error kind =>
          rw [hfirst] at h
          cases h
      | ok t =>
          rw [hfirst] at h
          cases hmore : items.mapM Leaf.text with
          | error kind =>
              rw [hmore] at h
              cases h
          | ok more =>
              rw [hmore] at h
              obtain rfl := Except.ok.inj h
              exact List.forall_mem_cons.mpr
                ⟨isWhole_of_leafText hwhole.1 hfirst, ih hwhole.2 hmore⟩

/-- The texts of a value with whole strings are whole, whether it is a list
or a single value. -/
theorem allWhole_of_leafTexts {value : Json} (hwhole : value.HasWholeStrings) {ts : List Text}
    (h : Leaf.texts value = .ok ts) : AllWhole ts := by
  rw [Leaf.texts.eq_def] at h
  split at h
  · exact allWhole_of_mapM_leafText
      (fun item hitem => hasWholeStrings_arr.mp hwhole item (List.mem_filter.mp hitem).1) h
  · exact Except.ok.inj h ▸ List.forall_mem_singleton.mpr (hasWholeStrings_str.mp hwhole)
  · exact Except.ok.inj h ▸ List.forall_mem_nil _

/-- What stands for a record is an object of the value or one of its
strings. -/
theorem hasWholeStrings_of_members? {bare : Label} (hbare : Json.IsWhole bare.key) {value : Json}
    (h : value.HasWholeStrings) {members : Json.Members}
    (hmembers : Leaf.members? bare value = some members) :
    (Json.obj members).HasWholeStrings := by
  rw [Leaf.members?.eq_def] at hmembers
  split at hmembers
  · exact Option.some.inj hmembers ▸ h
  · split at hmembers
    · cases hmembers
    · obtain rfl := Option.some.inj hmembers
      exact hasWholeStrings_obj.mpr (List.forall_mem_singleton.mpr
        ⟨hbare, hasWholeStrings_str.mpr (hasWholeStrings_str.mp h)⟩)
  · cases hmembers

/-- The records of a list have only the strings of the list. A text that
stands for a record becomes one with a single key, which is whole. -/
theorem hasWholeStrings_of_mem_records {bare : Label} (hbare : Json.IsWhole bare.key)
    {value : Json} (h : value.HasWholeStrings) :
    ∀ members ∈ Leaf.records bare value, (Json.obj members).HasWholeStrings := by
  intro members hmembers
  rw [Leaf.records.eq_def] at hmembers
  split at hmembers
  · obtain ⟨item, hitem, hitem'⟩ := List.mem_filterMap.mp hmembers
    exact hasWholeStrings_of_members? hbare (hasWholeStrings_arr.mp h item hitem) hitem'
  · exact List.mem_singleton.mp hmembers ▸ h
  · cases hmembers

/-! ### What records are read as -/

/-- Members with whole strings that can be written are read as a record
with a property. -/
def RecordType.KeepsWhole (r : RecordType α) (P : α → Prop) : Prop :=
  ∀ members : Json.Members, (Json.obj members).HasWholeStrings →
    (Json.obj members).isWritable = true → ∃ a, P a ∧ r.Reads members a

namespace FieldType

/-- A value with whole strings that can be written is dropped, or it is
read as something with a property. -/
def KeepsWhole (type : FieldType α) (P : α → Prop) : Prop :=
  ∀ value : Json, value.HasWholeStrings → value.isWritable = true →
    type.coerce value = .ok none ∨ ∃ a, P a ∧ type.Reads value a

/-- A text that is read off a value without surrogates has none. If the
value is no string, it is written in ASCII. -/
theorem keepsWhole_text : text.KeepsWhole Json.IsWhole := by
  intro value hwhole hvalue
  rcases Leaf.text_cases value with ⟨t, ht⟩ | ⟨hlong, _⟩
  · exact .inr ⟨t, isWhole_of_leafText hwhole ht, reads_text ht⟩
  · exact absurd hlong (by simp [hvalue])

/-- A text that may be absent has none either, if it is read off such a
value. -/
theorem keepsWhole_text? : text?.KeepsWhole fun t? => ∀ t ∈ t?, Json.IsWhole t := by
  intro value hwhole hvalue
  rcases Leaf.text_cases value with ⟨t, ht⟩ | ⟨hlong, _⟩
  · refine .inr ⟨some t, fun t' ht' => ?_, reads_text? ht⟩
    exact Option.some.inj ht' ▸ isWhole_of_leafText hwhole ht
  · exact absurd hlong (by simp [hvalue])

/-- A list of texts that is read off such a value has none, in any of its
items. -/
theorem keepsWhole_texts : texts.KeepsWhole AllWhole := by
  intro value hwhole hvalue
  rcases Leaf.texts_cases value with ⟨ts, hts⟩ | ⟨hlong, _⟩
  · exact .inr ⟨ts, allWhole_of_leafTexts hwhole hts, reads_texts hts⟩
  · exact absurd hlong (by simp [hvalue])

/-- A flag has no surrogates. -/
theorem keepsWhole_flag : flag.KeepsWhole fun _ => True :=
  fun value _ _ => .inr ⟨_, trivial, reads_flag value⟩

/-- Neither has an access. -/
theorem keepsWhole_access : access.KeepsWhole fun _ => True := by
  intro value _ hvalue
  rcases Leaf.accessWord_cases value with ⟨a, ha⟩ | ⟨hlong, _⟩
  · exact .inr ⟨a, trivial, reads_access ha⟩
  · exact absurd hlong (by simp [hvalue])

/-- A list of records keeps what each record keeps: each is read from
strings of the list. Induction on what stands for a record. -/
theorem keepsWhole_records (bare : Label) {r : RecordType α} {P : α → Prop}
    (hbare : Json.IsWhole bare.key) (hr : r.KeepsWhole P) :
    (records bare r).KeepsWhole fun as => ∀ a ∈ as, P a := by
  intro value hwhole hvalue
  have hall : ∀ found : List Json.Members,
      (∀ members ∈ found, (Json.obj members).HasWholeStrings) →
      (∀ members ∈ found, (Json.obj members).isWritable = true) →
        ∃ as, (∀ a ∈ as, P a) ∧ List.Forall₂ r.Reads found as := by
    intro found hfound hwritable
    induction found with
    | nil => exact ⟨[], List.forall_mem_nil _, .nil⟩
    | cons members more ih =>
        rw [List.forall_mem_cons] at hfound hwritable
        obtain ⟨a, ha, hreads⟩ := hr members hfound.1 hwritable.1
        obtain ⟨as, has, hmore⟩ := ih hfound.2 hwritable.2
        exact ⟨a :: as, List.forall_mem_cons.mpr ⟨ha, has⟩, .cons hreads hmore⟩
  obtain ⟨as, has, hreads⟩ := hall _ (hasWholeStrings_of_mem_records hbare hwhole)
    (Leaf.isWritable_of_mem_records _ hvalue)
  exact .inr ⟨as, has, reads_records hreads⟩

/-- A record that may be absent keeps what the record keeps, and where it is
absent there is nothing to keep. -/
theorem keepsWhole_record? (bare : Label) {r : RecordType α} {P : α → Prop}
    (hbare : Json.IsWhole bare.key) (hr : r.KeepsWhole P) :
    (record? bare r).KeepsWhole fun a? => ∀ a ∈ a?, P a := by
  intro value hwhole hvalue
  cases hmembers : Leaf.members? bare value with
  | none =>
      refine .inl ?_
      show Except.ok ((Leaf.members? bare value).map Json.obj) = _
      rw [hmembers, Option.map_none]
  | some members =>
      obtain ⟨a, ha, hreads⟩ := hr members (hasWholeStrings_of_members? hbare hwhole hmembers)
        (Leaf.isWritable_of_members? hmembers hvalue)
      refine .inr ⟨some a, fun b hb => ?_, reads_record? hmembers hreads⟩
      exact Option.some.inj hb ▸ ha

end FieldType

namespace Fields

/-- Members with whole strings that can be written, settled by these and
other fields, give something with a property. -/
def KeepsWhole (fields : Fields α) (P : α → Prop) : Prop :=
  ∀ coercions, fields.coercions ⊆ coercions → (spellingsOf coercions).Nodup →
    ∀ members settled : Json.Members, (Json.obj members).HasWholeStrings →
      (Json.obj members).isWritable = true → settle coercions members = .ok settled →
        ∃ a, P a ∧ fields.Give settled a

/-- A field that is absent has its default; one that is there comes from
a value among the members. -/
theorem keepsWhole_field (l : Label) {type : FieldType α} {default : α} {P : α → Prop}
    (h : type.KeepsWhole P) (hdefault : P default) : (l.field type default).KeepsWhole P := by
  intro coercions hsub hdistinct members settled hwhole hwritable hsettle
  have hfield : (l, type.coerce) ∈ coercions := hsub (List.mem_singleton_self _)
  cases hlocate : l.locate? settled with
  | none => exact ⟨default, hdefault, give_field_of_none hlocate⟩
  | some found =>
      obtain ⟨m, hm, _, hcoerce⟩ := coerced_of_locate? hdistinct hsettle hfield hlocate
      have hread := h m.2 (hasWholeStrings_obj.mp hwhole m hm).2 (isWritable_obj.mp hwritable m hm)
      rcases hread with hdropped | ⟨a, ha, kept, hkept, hcheck⟩
      · cases hdropped.symm.trans hcoerce
      · have heq : kept = found.2 := by simpa using hkept.symm.trans hcoerce
        exact ⟨a, ha, give_field_of_some hlocate (heq ▸ hcheck)⟩

/-- The first field of a record: the constructor takes what has its
property. -/
theorem KeepsWhole.first {f : α → β} {l : Label} {type : FieldType α} {default : α}
    {P : α → Prop} {Q : β → Prop} (h : type.KeepsWhole P) (hdefault : P default)
    (hf : ∀ a, P a → Q (f a)) : (f <$> l.field type default).KeepsWhole Q := by
  intro coercions hsub hdistinct members settled hwhole hwritable hsettle
  obtain ⟨a, ha, hgive⟩ := keepsWhole_field l h hdefault coercions hsub hdistinct members settled
    hwhole hwritable hsettle
  exact ⟨f a, hf a ha, give_map f hgive⟩

/-- One more field of a record: the constructor, applied to the fields so
far, takes what has the property of this one. -/
theorem KeepsWhole.next {fields : Fields (α → β)} {l : Label} {type : FieldType α} {default : α}
    {P : α → Prop} {Q : β → Prop} (h : type.KeepsWhole P) (hdefault : P default)
    (hfields : fields.KeepsWhole fun f => ∀ a, P a → Q (f a)) :
    (fields <*> l.field type default).KeepsWhole Q := by
  intro coercions hsub hdistinct members settled hwhole hwritable hsettle
  have hsub' : fields.coercions ++ [(l, type.coerce)] ⊆ coercions := hsub
  rw [List.append_subset] at hsub'
  obtain ⟨f, hf, hgive⟩ := hfields coercions hsub'.1 hdistinct members settled hwhole hwritable
    hsettle
  obtain ⟨a, ha, hgive'⟩ := keepsWhole_field l h hdefault coercions hsub'.2 hdistinct members
    settled hwhole hwritable hsettle
  exact ⟨f a, hf a ha, give_seq hgive hgive'⟩

end Fields

/-- A record type keeps what its fields keep, since the fields are read from
its members and nothing else is. -/
theorem RecordType.keepsWhole_of_fields {r : RecordType α} {P : α → Prop} (hplain : r.IsPlain)
    (hlenient : r.IsLenient) (h : r.fields.KeepsWhole P) : r.KeepsWhole P := by
  intro members hwhole hwritable
  obtain ⟨_, hread⟩ := hlenient.exists_reads hwritable
  obtain ⟨settled, hsettle⟩ := hread.exists_settle
  obtain ⟨a, ha, hgive⟩ := h r.fields.coercions (List.Subset.refl _) hplain.1 members settled
    hwhole hwritable hsettle
  exact ⟨a, ha, reads_of_settle hsettle hgive⟩

open Fields FieldType

/-- A parameter that is read from strings without surrogates has none,
whatever was put in the place of its fields. -/
theorem ParameterDoc.keepsWhole : recordType.KeepsWhole IsWhole := by
  refine RecordType.keepsWhole_of_fields isPlain isLenient ?_
  refine .next keepsWhole_text? (by simp) <| .next keepsWhole_flag trivial <|
    .next keepsWhole_text isWhole_nil <| .next keepsWhole_text isWhole_nil <|
    .first keepsWhole_text isWhole_nil ?_
  exact fun _ hname _ htype _ hdescription _ _ _ hdefault =>
    ⟨hname, htype, hdescription, hdefault⟩

/-- A function that is read from such strings has none, with its parameters
and examples. Where a field is missing its default is an empty text or list,
and that is whole. -/
theorem FunctionDoc.keepsWhole : recordType.KeepsWhole IsWhole := by
  refine RecordType.keepsWhole_of_fields isPlain isLenient ?_
  have hparameters := keepsWhole_records ParameterDoc.nameLabel (by decide)
    ParameterDoc.keepsWhole
  refine .next keepsWhole_text isWhole_nil <| .next keepsWhole_texts (by simp [AllWhole]) <|
    .next keepsWhole_text isWhole_nil <| .next keepsWhole_text isWhole_nil <|
    .next hparameters (by simp) <| .next keepsWhole_text isWhole_nil <|
    .first keepsWhole_text isWhole_nil ?_
  exact fun _ hname _ hdescription _ hparameters _ htype _ hreturn _ hexamples _ hcomplexity =>
    ⟨hname, hdescription, hparameters, htype, hreturn, hexamples, hcomplexity⟩

/-- A constructor that is read from such strings has none, and its
parameters have none. -/
theorem ConstructorDoc.keepsWhole : recordType.KeepsWhole IsWhole := by
  refine RecordType.keepsWhole_of_fields isPlain isLenient ?_
  have hparameters := keepsWhole_records ParameterDoc.nameLabel (by decide)
    ParameterDoc.keepsWhole
  refine .next keepsWhole_texts (by simp [AllWhole]) <| .next hparameters (by simp) <|
    .first keepsWhole_text isWhole_nil ?_
  exact fun _ hdescription _ hparameters _ hexamples => ⟨hdescription, hparameters, hexamples⟩

/-- A property that is read from such strings has none. Its access and its
flag hold no texts. -/
theorem PropertyDoc.keepsWhole : recordType.KeepsWhole IsWhole := by
  refine RecordType.keepsWhole_of_fields isPlain isLenient ?_
  refine .next keepsWhole_flag trivial <| .next keepsWhole_access trivial <|
    .next keepsWhole_text isWhole_nil <| .next keepsWhole_text isWhole_nil <|
    .first keepsWhole_text isWhole_nil ?_
  exact fun _ hname _ htype _ hdescription _ _ _ _ => ⟨hname, htype, hdescription⟩

/-- A class that is read from such strings has none. Of its constructor and
its members it is known already. -/
theorem ClassDoc.keepsWhole : recordType.KeepsWhole IsWhole := by
  refine RecordType.keepsWhole_of_fields isPlain isLenient ?_
  have hconstructor := keepsWhole_record? ConstructorDoc.descriptionLabel (by decide)
    ConstructorDoc.keepsWhole
  have hmethods := keepsWhole_records FunctionDoc.nameLabel (by decide)
    FunctionDoc.keepsWhole
  have hproperties := keepsWhole_records PropertyDoc.nameLabel (by decide)
    PropertyDoc.keepsWhole
  refine .next keepsWhole_texts (by simp [AllWhole]) <| .next hproperties (by simp) <|
    .next hmethods (by simp) <| .next hconstructor (by simp) <|
    .next keepsWhole_text isWhole_nil <| .first keepsWhole_text isWhole_nil ?_
  exact fun _ hname _ hdescription _ hconstructor _ hmethods _ hproperties _ hparents =>
    ⟨hname, hdescription, hconstructor, hmethods, hproperties, hparents⟩

/-- An interface that is read from such strings has none. Its members are
those of a class. -/
theorem InterfaceDoc.keepsWhole : recordType.KeepsWhole IsWhole := by
  refine RecordType.keepsWhole_of_fields isPlain isLenient ?_
  have hproperties := keepsWhole_records PropertyDoc.nameLabel (by decide)
    PropertyDoc.keepsWhole
  have hmethods := keepsWhole_records FunctionDoc.nameLabel (by decide)
    FunctionDoc.keepsWhole
  refine .next hmethods (by simp) <| .next hproperties (by simp) <|
    .next keepsWhole_text isWhole_nil <| .first keepsWhole_text isWhole_nil ?_
  exact fun _ hname _ hdescription _ hproperties _ hmethods =>
    ⟨hname, hdescription, hproperties, hmethods⟩

/-- A constant that is read from such strings has none. -/
theorem ConstantDoc.keepsWhole : recordType.KeepsWhole IsWhole := by
  refine RecordType.keepsWhole_of_fields isPlain isLenient ?_
  refine .next keepsWhole_text isWhole_nil <| .next keepsWhole_text isWhole_nil <|
    .next keepsWhole_text isWhole_nil <| .first keepsWhole_text isWhole_nil ?_
  exact fun _ hname _ htype _ hvalue _ hdescription => ⟨hname, htype, hvalue, hdescription⟩

/-- A type that is read from such strings has none, in its texts and its
examples. -/
theorem TypeDoc.keepsWhole : recordType.KeepsWhole IsWhole := by
  refine RecordType.keepsWhole_of_fields isPlain isLenient ?_
  refine .next keepsWhole_texts (by simp [AllWhole]) <| .next keepsWhole_text isWhole_nil <|
    .next keepsWhole_text isWhole_nil <| .first keepsWhole_text isWhole_nil ?_
  exact fun _ hname _ hdefinition _ hdescription _ hexamples =>
    ⟨hname, hdefinition, hdescription, hexamples⟩

/-- Members with whole strings that can be written are read as whole
documentation of a file. -/
theorem FileDoc.keepsWhole : recordType.KeepsWhole IsWhole := by
  refine RecordType.keepsWhole_of_fields isPlain isLenient ?_
  have hfunctions := keepsWhole_records FunctionDoc.nameLabel (by decide)
    FunctionDoc.keepsWhole
  have hclasses := keepsWhole_records ClassDoc.nameLabel (by decide)
    ClassDoc.keepsWhole
  have hinterfaces := keepsWhole_records InterfaceDoc.nameLabel (by decide)
    InterfaceDoc.keepsWhole
  have hconstants := keepsWhole_records ConstantDoc.nameLabel (by decide)
    ConstantDoc.keepsWhole
  have htypes := keepsWhole_records TypeDoc.nameLabel (by decide) TypeDoc.keepsWhole
  refine .next keepsWhole_text? (by simp) <| .next keepsWhole_text? (by simp) <|
    .next htypes (by simp) <| .next hconstants (by simp) <| .next hinterfaces (by simp) <|
    .next hclasses (by simp) <| .next hfunctions (by simp) <|
    .first keepsWhole_text isWhole_nil ?_
  exact fun _ hoverview _ hfunctions _ hclasses _ hinterfaces _ hconstants _ htypes _ hname _
    hpath => ⟨hoverview, hfunctions, hclasses, hinterfaces, hconstants, htypes, hname, hpath⟩

end DocScribe
