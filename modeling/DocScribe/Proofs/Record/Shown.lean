import DocScribe.Proofs.Record.Acceptance
import DocScribe.Proofs.Record.Forms

/-!
# `DocScribe.Proofs.Record.Shown`: a shown record is read back

Whatever way a record is shown in JSON, reading the value gives the
record again (`reads_of_shows` for each of the nine). Three steps lead
there. In members that show fields each field *stands* under at most
one of its spellings, wherever it comes (`Label.Stands`). What stands
there is brought to the field's type without a change (`Form.Fits`).
And the fields together make the record that they are the fields of
(`Fields.ShownIn`).
-/

set_option autoImplicit false

namespace DocScribe

variable {α β : Type}

/-! ### Where a field stands -/

/-- A field stands in members under one of its spellings only, or it
may be left out and is. -/
def Label.Stands (l : Label) (form : Form) (members : Json.Members) : Prop :=
  (form.omittable ∧ ∀ k ∈ l.spellings, members.get? k = none)
    ∨ ∃ spelling ∈ l.spellings, ∃ value, form.shows value
      ∧ members.get? spelling = some value
      ∧ ∀ k ∈ l.spellings, k ≠ spelling → members.get? k = none

/-- Members that agree under the spellings of a field show it alike. What
else they hold is no matter of this field. -/
theorem Label.Stands.congr {l : Label} {form : Form} {members members' : Json.Members}
    (h : l.Stands form members) (heq : ∀ k ∈ l.spellings, members'.get? k = members.get? k) :
    l.Stands form members' := by
  rcases h with ⟨homit, hnone⟩ | ⟨spelling, hspelling, value, hvalue, hget, hothers⟩
  · exact .inl ⟨homit, fun k hk => (heq k hk).trans (hnone k hk)⟩
  · refine .inr ⟨spelling, hspelling, value, hvalue, (heq _ hspelling).trans hget, ?_⟩
    exact fun k hk hne => (heq k hk).trans (hothers k hk hne)

/-- Members that show fields have no other keys, and each of these fields
under one spelling only. -/
theorem ShowFields.keys_subset {fields : List (Label × Form)} {members : Json.Members}
    (h : ShowFields fields members) : members.keys ⊆ spellingsOf fields := by
  induction h with
  | nil => exact List.Subset.refl _
  | shown hspelling _ _ ih =>
      intro k hk
      rw [spellingsOf, List.flatMap_cons, List.mem_append]
      rcases List.mem_cons.mp hk with rfl | hk
      · exact .inl hspelling
      · exact .inr (ih hk)
  | omitted _ _ ih =>
      intro k hk
      rw [spellingsOf, List.flatMap_cons, List.mem_append]
      exact .inr (ih hk)

/-- Members that show fields with spellings of their own have every
key once. -/
theorem ShowFields.nodup_keys {fields : List (Label × Form)} {members : Json.Members}
    (h : ShowFields fields members) (hdistinct : (spellingsOf fields).Nodup) :
    members.keys.Nodup := by
  induction h with
  | nil => exact List.nodup_nil
  | shown hspelling _ hrest ih =>
      rw [spellingsOf, List.flatMap_cons, List.nodup_append] at hdistinct
      obtain ⟨_, htail, hapart⟩ := hdistinct
      -- Spellings of two fields are never the same, so the key comes once.
      rw [Json.Members.keys, List.map_cons, List.nodup_cons]
      refine ⟨fun hmem => ?_, ih htail⟩
      exact hapart _ hspelling _ (hrest.keys_subset hmem) rfl
  | omitted _ _ ih =>
      rw [spellingsOf, List.flatMap_cons, List.nodup_append] at hdistinct
      exact ih hdistinct.2.1

/-- In members that show fields, every one of the fields stands: it is shown
under one of its spellings and under no other, or it is left out. Induction
on the fields. -/
theorem ShowFields.stands {fields : List (Label × Form)} {members : Json.Members}
    (h : ShowFields fields members) (hdistinct : (spellingsOf fields).Nodup) :
    ∀ field ∈ fields, field.1.Stands field.2 members := by
  induction h with
  | nil => exact fun field hfield => absurd hfield (by simp)
  | @shown l form spelling value fields members hspelling hvalue hrest ih =>
      -- The spellings of the fields are apart, so the first member hides none of the others.
      rw [spellingsOf, List.flatMap_cons, List.nodup_append] at hdistinct
      obtain ⟨_, htail, hapart⟩ := hdistinct
      intro field hfield
      rcases List.mem_cons.mp hfield with rfl | hfield
      · refine .inr ⟨spelling, hspelling, value, hvalue, ?_, fun k hk hne => ?_⟩
        · rw [Json.Members.get?_cons, if_pos rfl]
        · rw [Json.Members.get?_cons, if_neg (Ne.symm hne), Json.Members.get?_eq_none_iff]
          exact fun hmem => hapart k hk k (hrest.keys_subset hmem) rfl
      · refine (ih htail field hfield).congr fun k hk => ?_
        have hmem : k ∈ spellingsOf fields := List.mem_flatMap.mpr ⟨field, hfield, hk⟩
        rw [Json.Members.get?_cons, if_neg (hapart spelling hspelling k hmem)]
  | @omitted l form fields members homit hrest ih =>
      rw [spellingsOf, List.flatMap_cons, List.nodup_append] at hdistinct
      obtain ⟨_, htail, hapart⟩ := hdistinct
      intro field hfield
      rcases List.mem_cons.mp hfield with rfl | hfield
      · refine .inl ⟨homit, fun k hk => ?_⟩
        rw [Json.Members.get?_eq_none_iff]
        exact fun hmem => hapart k hk k (hrest.keys_subset hmem) rfl
      · exact ih htail field hfield

/-- In an object that shows fields, every one of the fields stands, whatever
the order of its members is. -/
theorem ShowsRecord.exists_stands {fields : List (Label × Form)} {value : Json}
    (h : ShowsRecord fields value) (hdistinct : (spellingsOf fields).Nodup) :
    ∃ members : Json.Members, value = .obj members ∧ members.keys.Nodup
      ∧ ∀ field ∈ fields, field.1.Stands field.2 members := by
  obtain ⟨members, ordered, rfl, hperm, hshow⟩ := h
  have hkeys : members.keys.Nodup :=
    (hperm.map Prod.fst).nodup_iff.mpr (hshow.nodup_keys hdistinct)
  refine ⟨members, rfl, hkeys, fun field hfield => ?_⟩
  -- With every key there once, the order of the members does not count.
  exact (hshow.stands hdistinct field hfield).congr fun k _ =>
    Json.Members.get?_of_perm hkeys hperm k

/-! ### What is read of a field -/

/-- The values of a form are read as `a`, and `a` is the default where
nothing is shown. -/
structure Form.Fits (form : Form) (type : FieldType α) (default a : α) : Prop where
  omitted : form.omittable → a = default
  shown : ∀ value, form.shows value → (value = .null ∧ a = default)
    ∨ (value.isNull = false ∧ type.Reads value a)

/-- The keys whose value is not `null`. If keys were doubled, a `null` could
hide a value behind it, so they are assumed to differ. -/
theorem Json.Members.get?_present {members : Json.Members} (hkeys : members.keys.Nodup)
    (k : Text) : members.present.get? k = (members.get? k).filter fun value => !value.isNull := by
  have hpresent : members.present.keys.Nodup := hkeys.sublist (List.filter_sublist.map _)
  refine Option.ext fun value => ?_
  rw [get?_eq_some_iff hpresent, Option.filter_eq_some_iff, get?_eq_some_iff hkeys]
  exact List.mem_filter

section Field

variable {l : Label} {form : Form} {type : FieldType α} {default a : α}
  {coercions : List (Label × Coercion)} {members settled : Json.Members}

/-- A field without a value has its default. That includes a field whose
value is `null`. -/
theorem give_field_of_absent (hdistinct : (spellingsOf coercions).Nodup)
    (hfield : (l, type.coerce) ∈ coercions) (hsettle : settle coercions members = .ok settled)
    (hnone : ∀ k ∈ l.spellings, members.present.get? k = none) :
    (l.field type default).Give settled default := by
  have hget : ∀ k ∈ l.spellings, settled.get? k = none := by
    intro k hk
    rw [get?_of_settle hdistinct hsettle hfield hk, hnone k hk]
    rfl
  have hlocate : l.locate? settled = none := by
    rw [Label.locate?, hget l.key l.key_mem_spellings]
    dsimp only
    rw [hget l.name (Label.mem_spellings_iff.mpr (.inr rfl))]
    rfl
  exact Fields.give_field_of_none hlocate

/-- A field with one value is read from it, under whichever of its spellings
the value stands, if nothing counts under the other. -/
theorem give_field_of_present (hdistinct : (spellingsOf coercions).Nodup)
    (hfield : (l, type.coerce) ∈ coercions) (hsettle : settle coercions members = .ok settled)
    {spelling : Text} {value : Json} (hspelling : spelling ∈ l.spellings)
    (hvalue : members.present.get? spelling = some value)
    (hothers : ∀ k ∈ l.spellings, k ≠ spelling → members.present.get? k = none)
    (hreads : type.Reads value a) : (l.field type default).Give settled a := by
  obtain ⟨kept, hcoerce, hcheck⟩ := hreads
  have hget : settled.get? spelling = some kept := by
    rw [get?_of_settle hdistinct hsettle hfield hspelling, hvalue]
    exact Coercion.kept?_eq_some_iff.mpr hcoerce
  -- The key is looked for before the name, so there the value must be missing
  -- if it stands under the name.
  have hlocate : l.locate? settled = some (spelling, kept) := by
    rw [Label.locate?]
    rcases Label.mem_spellings_iff.mp hspelling with rfl | rfl
    · rw [hget]
    · by_cases hkey : l.key = l.name
      · rw [hkey, hget]
      · have hnone : settled.get? l.key = none := by
          rw [get?_of_settle hdistinct hsettle hfield l.key_mem_spellings,
            hothers l.key l.key_mem_spellings hkey]
          rfl
        rw [hnone, hget]
        rfl
  exact Fields.give_field_of_some hlocate hcheck

/-- What counts of a field that stands in members: nothing, and the field
shows its default, or one value that is read as what the field shows. -/
theorem Label.Stands.counts (h : l.Stands form members) (hfits : form.Fits type default a)
    (hkeys : members.keys.Nodup) :
    (a = default ∧ ∀ k ∈ l.spellings, members.present.get? k = none)
      ∨ ∃ spelling ∈ l.spellings, ∃ value, members.present.get? spelling = some value
        ∧ (∀ k ∈ l.spellings, k ≠ spelling → members.present.get? k = none)
        ∧ type.Reads value a := by
  have hnone : ∀ k, members.get? k = none → members.present.get? k = none := by
    intro k hk
    rw [Json.Members.get?_present hkeys, hk]
    rfl
  rcases h with ⟨homit, habsent⟩ | ⟨spelling, hspelling, value, hvalue, hget, hothers⟩
  · exact .inl ⟨hfits.omitted homit, fun k hk => hnone k (habsent k hk)⟩
  · have hpresent := Json.Members.get?_present hkeys spelling
    rw [hget] at hpresent
    -- A `null` is dropped before the first stage, as if the field were left out.
    rcases hfits.shown value hvalue with ⟨rfl, hdefault⟩ | ⟨hnull, hreads⟩
    · refine .inl ⟨hdefault, fun k hk => ?_⟩
      by_cases hk' : k = spelling
      · rw [hk', hpresent]
        rfl
      · exact hnone k (hothers k hk hk')
    · refine .inr ⟨spelling, hspelling, value, ?_, fun k hk hne => hnone k (hothers k hk hne),
        hreads⟩
      rw [hpresent, Option.filter_some, hnull]
      rfl

/-- The value of a field that stands in members is converted, since it shows
something of the type of the field. -/
theorem Label.Stands.converts (h : l.Stands form members) (hfits : form.Fits type default a)
    (hkeys : members.keys.Nodup) :
    ∀ k ∈ l.spellings, ∀ value, members.present.get? k = some value →
      ∃ kept?, type.coerce value = .ok kept? := by
  intro k hk value hvalue
  rcases h.counts hfits hkeys with ⟨_, hnone⟩ | ⟨spelling, _, shown, hshown, hothers, hreads⟩
  · cases (hnone k hk).symm.trans hvalue
  · by_cases hk' : k = spelling
    · rw [hk', hshown] at hvalue
      obtain rfl := Option.some.inj hvalue
      obtain ⟨kept, hcoerce, _⟩ := hreads
      exact ⟨some kept, hcoerce⟩
    · cases (hothers k hk hk').symm.trans hvalue

/-- A field that stands in members is read as what it shows. The first stage
leaves it under one of its spellings, and the second reads it from there. -/
theorem Label.Stands.give (h : l.Stands form members) (hfits : form.Fits type default a)
    (hkeys : members.keys.Nodup) (hdistinct : (spellingsOf coercions).Nodup)
    (hfield : (l, type.coerce) ∈ coercions) (hsettle : settle coercions members = .ok settled) :
    (l.field type default).Give settled a := by
  rcases h.counts hfits hkeys with ⟨rfl, hnone⟩ | ⟨_, hspelling, _, hvalue, hothers, hreads⟩
  · exact give_field_of_absent hdistinct hfield hsettle hnone
  · exact give_field_of_present hdistinct hfield hsettle hspelling hvalue hothers hreads

end Field

/-! ### What the forms of a record fit -/

/-- The texts of a list of texts are the texts. None of them is `null`, so
none is dropped. -/
theorem Leaf.texts_ofTexts (ts : List Text) : Leaf.texts (Json.ofTexts ts) = .ok ts := by
  show ((ts.map Json.str).filter fun item => !item.isNull).mapM Leaf.text = .ok ts
  induction ts with
  | nil => rfl
  | cons t ts ih =>
      rw [List.map_cons, List.filter_cons_of_pos rfl, List.mapM_cons, ih]
      rfl

namespace Form

/-- What is never left out nor `null` fits by what it is read as. -/
theorem fits_of_reads {shows : Json → Prop} {type : FieldType α} {default a : α}
    (h : ∀ value, shows value → value.isNull = false ∧ type.Reads value a) :
    (Form.mk shows False).Fits type default a :=
  ⟨False.elim, fun value hvalue => .inr (h value hvalue)⟩

/-- A text that is shown is read as it is, and if it is left out it was
empty. -/
theorem fits_text (t default : Text) : (text t).Fits FieldType.text default t := by
  refine fits_of_reads fun value hvalue => ?_
  subst hvalue
  exact ⟨rfl, FieldType.reads_text rfl⟩

/-- A flag is left out if it has its default. -/
theorem fits_flag (b default : Bool) : (flag b).Fits FieldType.flag default b := by
  refine fits_of_reads fun value hvalue => ?_
  subst hvalue
  exact ⟨rfl, FieldType.reads_flag (.bool b)⟩

/-- The word for an access is read as that access. There are three of them,
and each is one of the words. -/
theorem fits_access (a default : Access) : (text a.word).Fits FieldType.access default a := by
  refine fits_of_reads fun value hvalue => ?_
  subst hvalue
  refine ⟨rfl, FieldType.reads_access ?_⟩
  cases a <;> rfl

/-- A list of texts is read item by item. -/
theorem fits_texts (ts default : List Text) : (texts ts).Fits FieldType.texts default ts := by
  refine fits_of_reads fun value hvalue => ?_
  subst hvalue
  exact ⟨rfl, FieldType.reads_texts (Leaf.texts_ofTexts ts)⟩

/-- What is absent is read as absent, whether it is `null` or left out. -/
theorem fits_absent {type : FieldType (Option α)} : absent.Fits type none none :=
  ⟨fun _ => rfl, fun _ hvalue => .inl ⟨hvalue, rfl⟩⟩

/-- A text that may be absent. If it is, nothing is shown, and the default
is that there is none. -/
theorem fits_text? (t? : Option Text) : (text? t?).Fits FieldType.text? none t? := by
  cases t? with
  | none => exact fits_absent
  | some t =>
      refine fits_of_reads fun value hvalue => ?_
      subst hvalue
      exact ⟨rfl, FieldType.reads_text? rfl⟩

/-- Records fit if each value that shows one is an object that holds
it. -/
theorem fits_records {shows : α → Json → Prop} {r : RecordType α} {bare : Label}
    (h : ∀ a value, shows a value → ∃ members, value = .obj members ∧ r.Reads members a)
    (as default : List α) : (records shows as).Fits (FieldType.records bare r) default as := by
  refine fits_of_reads fun value hvalue => ?_
  obtain ⟨items, rfl, hitems⟩ := hvalue
  refine ⟨rfl, FieldType.reads_records ?_⟩
  show List.Forall₂ r.Reads (items.filterMap (Leaf.members? bare)) as
  induction hitems with
  | nil => exact .nil
  | cons hshows _ ih =>
      obtain ⟨members, rfl, hreads⟩ := h _ _ hshows
      exact .cons hreads ih

/-- A record that may be absent is read if the record is. An object always
stands for a record. -/
theorem fits_record? {shows : α → Json → Prop} {r : RecordType α} {bare : Label}
    (h : ∀ a value, shows a value → ∃ members, value = .obj members ∧ r.Reads members a)
    (a? : Option α) : (record? shows a?).Fits (FieldType.record? bare r) none a? := by
  cases a? with
  | none => exact fits_absent
  | some a =>
      refine fits_of_reads fun value hvalue => ?_
      obtain ⟨members, rfl, hreads⟩ := h a value hvalue
      exact ⟨rfl, FieldType.reads_record? rfl hreads⟩

end Form

/-! ### Records -/

namespace Fields

/-- Fields that show `a` with the first of the given forms; the `rest`
is not taken yet. Their values are converted by the first stage and give
`a` in the second one. -/
def ShownIn (fields : Fields α) (forms rest : List (Label × Form)) (a : α) : Prop :=
  rest ⊆ forms ∧ ∀ members : Json.Members, members.keys.Nodup →
    (∀ field ∈ forms, field.1.Stands field.2 members) →
      (∀ field ∈ fields.coercions, ∀ k ∈ field.1.spellings, ∀ value,
        members.present.get? k = some value → ∃ kept?, field.2 value = .ok kept?)
      ∧ ∀ coercions settled, fields.coercions ⊆ coercions → (spellingsOf coercions).Nodup →
        settle coercions members = .ok settled → fields.Give settled a

/-- The first field takes the first form: what the form shows is what the
field is read as. -/
theorem ShownIn.first {f : α → β} {l : Label} {type : FieldType α} {default a : α} {form : Form}
    {rest : List (Label × Form)} (h : form.Fits type default a) :
    (f <$> l.field type default).ShownIn ((l, form) :: rest) rest (f a) := by
  refine ⟨List.subset_cons_self _ _, fun members hkeys hstands => ?_⟩
  have hstand := hstands (l, form) List.mem_cons_self
  refine ⟨List.forall_mem_singleton.mpr (hstand.converts h hkeys), ?_⟩
  intro coercions settled hsub hdistinct hsettle
  have hfield : (l, type.coerce) ∈ coercions := hsub (List.mem_singleton_self _)
  exact give_map f (hstand.give h hkeys hdistinct hfield hsettle)

/-- The next field takes the next form, and the function of the fields
before is applied to what it is read as. -/
theorem ShownIn.next {fields : Fields (α → β)} {f : α → β} {l : Label} {type : FieldType α}
    {default a : α} {form : Form} {forms rest : List (Label × Form)}
    (hfields : fields.ShownIn forms ((l, form) :: rest) f) (h : form.Fits type default a) :
    (fields <*> l.field type default).ShownIn forms rest (f a) := by
  obtain ⟨hrest, hshown⟩ := hfields
  refine ⟨List.Subset.trans (List.subset_cons_self _ _) hrest, fun members hkeys hstands => ?_⟩
  obtain ⟨hconverts, hgive⟩ := hshown members hkeys hstands
  have hstand := hstands (l, form) (hrest List.mem_cons_self)
  refine ⟨List.forall_mem_append.mpr
    ⟨hconverts, List.forall_mem_singleton.mpr (hstand.converts h hkeys)⟩, ?_⟩
  intro coercions settled hsub hdistinct hsettle
  have hsub' : fields.coercions ++ [(l, type.coerce)] ⊆ coercions := hsub
  rw [List.append_subset] at hsub'
  have hf := hgive coercions settled hsub'.1 hdistinct hsettle
  have hfield : (l, type.coerce) ∈ coercions := hsub'.2 (List.mem_singleton_self _)
  exact give_seq hf (hstand.give h hkeys hdistinct hfield hsettle)

end Fields

/-- A record whose fields show it is read from every value that shows
it. -/
theorem RecordType.reads_of_showsRecord {r : RecordType α} {forms : List (Label × Form)} {a : α}
    (hplain : r.IsPlain) (hspellings : spellingsOf forms = r.spellings)
    (hfields : r.fields.ShownIn forms [] a) {value : Json} (h : ShowsRecord forms value) :
    ∃ members, value = .obj members ∧ r.Reads members a := by
  obtain ⟨members, rfl, hkeys, hstands⟩ := h.exists_stands (hspellings ▸ hplain.1)
  obtain ⟨hconverts, hgive⟩ := hfields.2 members hkeys hstands
  obtain ⟨settled, hsettle⟩ := exists_settle hplain.1 hconverts
  exact ⟨members, rfl, reads_of_settle hsettle
    (hgive r.fields.coercions settled (List.Subset.refl _) hplain.1 hsettle)⟩

open Fields Form

/-- A value that shows a parameter is read as this parameter. The value may
be spelled with keys or names, in any order, with or without what is
absent. -/
theorem ParameterDoc.reads_of_shows (p : ParameterDoc) (value : Json) :
    p.Shows value → ∃ members, value = .obj members ∧ recordType.Reads members p := by
  refine RecordType.reads_of_showsRecord isPlain rfl ?_
  exact (ShownIn.first (fits_text p.name _)).next (fits_text p.type _)
    |>.next (fits_text p.description _) |>.next (fits_flag p.optional _)
    |>.next (fits_text? p.defaultValue)

/-- A value that shows a function is read as it. Its parameters may each be
spelled in a way of its own. -/
theorem FunctionDoc.reads_of_shows (f : FunctionDoc) (value : Json) :
    f.Shows value → ∃ members, value = .obj members ∧ recordType.Reads members f := by
  refine RecordType.reads_of_showsRecord isPlain rfl ?_
  exact (ShownIn.first (fits_text f.name _)).next (fits_text f.description _)
    |>.next (fits_records ParameterDoc.reads_of_shows f.parameters _)
    |>.next (fits_text f.returnType _)
    |>.next (fits_text f.returnDescription _) |>.next (fits_texts f.examples _)
    |>.next (fits_text f.complexity _)

/-- A value that shows a constructor is read as it, with its parameters. -/
theorem ConstructorDoc.reads_of_shows (c : ConstructorDoc) (value : Json) :
    c.Shows value → ∃ members, value = .obj members ∧ recordType.Reads members c := by
  refine RecordType.reads_of_showsRecord isPlain rfl ?_
  exact (ShownIn.first (fits_text c.description _)).next
      (fits_records ParameterDoc.reads_of_shows c.parameters _)
    |>.next (fits_texts c.examples _)

/-- A value that shows a property is read as it. The word for its access is
one of the three. -/
theorem PropertyDoc.reads_of_shows (p : PropertyDoc) (value : Json) :
    p.Shows value → ∃ members, value = .obj members ∧ recordType.Reads members p := by
  refine RecordType.reads_of_showsRecord isPlain rfl ?_
  exact (ShownIn.first (fits_text p.name _)).next (fits_text p.type _)
    |>.next (fits_text p.description _) |>.next (fits_access p.access _)
    |>.next (fits_flag p.readonly _)

/-- A value that shows a class is read as it, with or without a constructor,
which is the one record that may be left out. -/
theorem ClassDoc.reads_of_shows (c : ClassDoc) (value : Json) :
    c.Shows value → ∃ members, value = .obj members ∧ recordType.Reads members c := by
  refine RecordType.reads_of_showsRecord isPlain rfl ?_
  exact (ShownIn.first (fits_text c.name _)).next (fits_text c.description _)
    |>.next (fits_record? ConstructorDoc.reads_of_shows c.constructor)
    |>.next (fits_records FunctionDoc.reads_of_shows c.methods _)
    |>.next (fits_records PropertyDoc.reads_of_shows c.properties _)
    |>.next (fits_texts c.inheritance _)

/-- A value that shows an interface is read as it, with its members. -/
theorem InterfaceDoc.reads_of_shows (i : InterfaceDoc) (value : Json) :
    i.Shows value → ∃ members, value = .obj members ∧ recordType.Reads members i := by
  refine RecordType.reads_of_showsRecord isPlain rfl ?_
  exact (ShownIn.first (fits_text i.name _)).next (fits_text i.description _)
    |>.next (fits_records PropertyDoc.reads_of_shows i.properties _)
    |>.next (fits_records FunctionDoc.reads_of_shows i.methods _)

/-- A value that shows a constant is read as it. -/
theorem ConstantDoc.reads_of_shows (c : ConstantDoc) (value : Json) :
    c.Shows value → ∃ members, value = .obj members ∧ recordType.Reads members c := by
  refine RecordType.reads_of_showsRecord isPlain rfl ?_
  exact (ShownIn.first (fits_text c.name _)).next (fits_text c.type _)
    |>.next (fits_text c.value _) |>.next (fits_text c.description _)

/-- A value that shows a type is read as it. -/
theorem TypeDoc.reads_of_shows (t : TypeDoc) (value : Json) :
    t.Shows value → ∃ members, value = .obj members ∧ recordType.Reads members t := by
  refine RecordType.reads_of_showsRecord isPlain rfl ?_
  exact (ShownIn.first (fits_text t.name _)).next (fits_text t.definition _)
    |>.next (fits_text t.description _) |>.next (fits_texts t.examples _)

/-- A value that shows a file is read as it. This is what a reply and an
archive have in common: whatever shows a file is read as the file. -/
theorem FileDoc.reads_of_shows (d : FileDoc) (value : Json) :
    d.Shows value → ∃ members, value = .obj members ∧ recordType.Reads members d := by
  refine RecordType.reads_of_showsRecord isPlain rfl ?_
  exact (ShownIn.first (fits_text d.overview _)).next
      (fits_records FunctionDoc.reads_of_shows d.functions _)
    |>.next (fits_records ClassDoc.reads_of_shows d.classes _)
    |>.next (fits_records InterfaceDoc.reads_of_shows d.interfaces _)
    |>.next (fits_records ConstantDoc.reads_of_shows d.constants _)
    |>.next (fits_records TypeDoc.reads_of_shows d.types _)
    |>.next (fits_text? d.fileName) |>.next (fits_text? d.filePath)

end DocScribe
