import DocScribe.Proofs.Record.Acceptance
import DocScribe.Schema
import Mathlib.Data.List.Nodup

/-!
# `DocScribe.Proofs.Record.Noise`: what a record does not say

Two values are the same but for noise (`Schema.Noise`) if one is the other
with something added that says nothing, or with the same said in another
way: an unknown key, a field that is `null`, the other spelling of a key,
another order of the keys, an item of a list that is no item. The noise may
be in the record itself or in a record that it holds.

No record type takes notice of it (`RecordType.IgnoresNoise`, for each of
the nine): both values are read as the same record, if their integers can
be written. What the noise is in one field is told
by what stands under its spellings before and after (`Label.Alike`), and
from there the way leads along the fields of the record type.
-/

set_option autoImplicit false

namespace DocScribe

/-- Whether a value stands for no record in a list of records. -/
def Json.standsForNone : Json → Bool
  | .null | .bool _ | .int _ | .float _ | .arr _ => true
  | .str t => t.isBlank
  | .obj _ => false

namespace Schema

/-- One value is the other with some noise, `shape` being what both are to
be read as. -/
inductive Noise : Shape RecordName → Json → Json → Prop
  /-- a key that spells no field of the record -/
  | unknownKey {r : RecordName} {a b : Json.Members} {key : Text} {value : Json}
      (hunknown : key ∉ spellingsOf (fieldsOf r)) (hnew : key ∉ Json.Members.keys (a ++ b)) :
      Noise (.record r) (.obj (a ++ b)) (.obj (a ++ (key, value) :: b))
  /-- a field that is `null`, where it was absent -/
  | absentField {r : RecordName} {l : Label} {shape : Shape RecordName} {a b : Json.Members}
      {key : Text} (hfield : (l, shape) ∈ fieldsOf r) (hspelling : key ∈ l.spellings)
      (habsent : ∀ k ∈ l.spellings, k ∉ Json.Members.keys (a ++ b)) :
      Noise (.record r) (.obj (a ++ b)) (.obj (a ++ (key, .null) :: b))
  /-- a field under its name in the place of its key -/
  | otherSpelling {r : RecordName} {l : Label} {shape : Shape RecordName} {a b : Json.Members}
      {value : Json} (hfield : (l, shape) ∈ fieldsOf r)
      (hkey : l.key ∉ Json.Members.keys (a ++ b)) (hname : l.name ∉ Json.Members.keys (a ++ b)) :
      Noise (.record r) (.obj (a ++ (l.key, value) :: b)) (.obj (a ++ (l.name, value) :: b))
  /-- the keys in another order, each of them there once -/
  | reordered {r : RecordName} {m m' : Json.Members} (hkeys : m.keys.Nodup) (hperm : m.Perm m') :
      Noise (.record r) (.obj m) (.obj m')
  /-- noise in the value of a field -/
  | inField {r : RecordName} {l : Label} {shape : Shape RecordName} {a b : Json.Members}
      {key : Text} {value value' : Json} (hfield : (l, shape) ∈ fieldsOf r)
      (hspelling : key ∈ l.spellings) (hnoise : Noise shape value value') :
      Noise (.record r) (.obj (a ++ (key, value) :: b)) (.obj (a ++ (key, value') :: b))
  /-- noise in what may be absent -/
  | inOptional {shape : Shape RecordName} {value value' : Json}
      (hnoise : Noise shape value value') :
      Noise (.optional shape) value value'
  /-- noise in an item of a list -/
  | inItem {shape : Shape RecordName} {a b : List Json} {value value' : Json}
      (hnoise : Noise shape value value') :
      Noise (.list shape) (.arr (a ++ value :: b)) (.arr (a ++ value' :: b))
  /-- noise in a record that stands for a list of one -/
  | inOnly {r : RecordName} {value value' : Json} (hnoise : Noise (.record r) value value') :
      Noise (.list (.record r)) value value'
  /-- an item that stands for no record -/
  | strayItem {r : RecordName} {a b : List Json} {value : Json}
      (hnone : value.standsForNone = true) :
      Noise (.list (.record r)) (.arr (a ++ b)) (.arr (a ++ value :: b))
  /-- a text that is `null` -/
  | nullItem {a b : List Json} :
      Noise (.list .scalar) (.arr (a ++ b)) (.arr (a ++ .null :: b))

/-- The fields of each record have spellings of their own, so what is done
under one spelling is seen by one field at most. -/
theorem nodup_spellings_fieldsOf (r : RecordName) : (spellingsOf (fieldsOf r)).Nodup := by
  cases r with
  | parameter => exact ParameterDoc.isPlain.1
  | function => exact FunctionDoc.isPlain.1
  | constructor => exact ConstructorDoc.isPlain.1
  | property => exact PropertyDoc.isPlain.1
  | classDefinition => exact ClassDoc.isPlain.1
  | interface => exact InterfaceDoc.isPlain.1
  | constant => exact ConstantDoc.isPlain.1
  | typeDefinition => exact TypeDoc.isPlain.1
  | file => exact FileDoc.isPlain.1
  | options => decide

/-- Records are noisy as objects. -/
theorem Noise.exists_obj {r : RecordName} {value value' : Json}
    (h : Noise (.record r) value value') :
    ∃ m m', value = .obj m ∧ value' = .obj m' := by
  cases h <;> exact ⟨_, _, rfl, rfl⟩

/-- Noise only adds values to those that have to be written, so without it
a value can be written if it can with it. -/
theorem Noise.isWritable {shape : Shape RecordName} {value value' : Json}
    (h : Noise shape value value') (h' : value'.isWritable = true) : value.isWritable = true := by
  induction h with
  | unknownKey _ _ =>
      rw [Json.isWritable_obj] at h' ⊢
      exact fun m hm => h' m (((List.sublist_cons_self _ _).append_left _).subset hm)
  | absentField _ _ _ =>
      rw [Json.isWritable_obj] at h' ⊢
      exact fun m hm => h' m (((List.sublist_cons_self _ _).append_left _).subset hm)
  | otherSpelling =>
      rw [Json.isWritable_obj, List.forall_mem_append, List.forall_mem_cons] at h' ⊢
      exact h'
  | reordered _ hperm =>
      rw [Json.isWritable_obj] at h' ⊢
      exact fun m hm => h' m (hperm.subset hm)
  | inField _ _ _ ih =>
      rw [Json.isWritable_obj, List.forall_mem_append, List.forall_mem_cons] at h' ⊢
      exact ⟨h'.1, ih h'.2.1, h'.2.2⟩
  | inOptional _ ih => exact ih h'
  | inItem _ ih =>
      rw [Json.isWritable_arr, List.forall_mem_append, List.forall_mem_cons] at h' ⊢
      exact ⟨h'.1, ih h'.2.1, h'.2.2⟩
  | inOnly _ ih => exact ih h'
  | strayItem _ =>
      rw [Json.isWritable_arr] at h' ⊢
      exact fun item hitem => h' item (((List.sublist_cons_self _ _).append_left _).subset hitem)
  | nullItem =>
      rw [Json.isWritable_arr] at h' ⊢
      exact fun item hitem => h' item (((List.sublist_cons_self _ _).append_left _).subset hitem)

/-- There is no noise in what is `null`. -/
theorem Noise.isNull {shape : Shape RecordName} {value value' : Json}
    (h : Noise shape value value') : value.isNull = false ∧ value'.isNull = false := by
  induction h with
  | inOptional _ ih => exact ih
  | inOnly _ ih => exact ih
  | _ => exact ⟨rfl, rfl⟩

end Schema

open Schema

/-! ### Members that count, with one more among them -/

namespace Json.Members

variable {a b : Members} {k key : Text} {value : Json}

/-- What is present among members is present in one part of them or the
other. -/
theorem present_append (a b : Members) : present (a ++ b) = present a ++ present b :=
  List.filter_append a b

/-- A key that is not there holds nothing. -/
theorem get?_present_of_not_mem {members : Members} (h : k ∉ members.keys) :
    members.present.get? k = none := by
  rw [get?_eq_none_iff]
  intro hmem
  obtain ⟨m, hm, rfl⟩ := List.mem_map.mp hmem
  exact h (List.mem_map_of_mem (List.mem_filter.mp hm).1)

/-- The first member hides the others, unless it is `null` and counts as
absent. -/
theorem get?_present_cons (key : Text) (value : Json) (b : Members) (k : Text) :
    (present ((key, value) :: b)).get? k
      = if k = key ∧ value.isNull = false then some value else (present b).get? k := by
  show get? (List.filter _ _) k = _
  rw [List.filter_cons]
  cases hnull : value.isNull with
  | true => simp [present]
  | false => simp [get?_cons, present, eq_comm (a := key)]

/-- What is found and is not `null` counts, and is found again among what
counts. -/
theorem get?_present_of_some {members : Members} (h : members.get? k = some value)
    (hvalue : value.isNull = false) : members.present.get? k = some value := by
  induction members with
  | nil => exact nomatch h
  | cons m members ih =>
      obtain ⟨key, first⟩ := m
      rw [get?_cons] at h
      rw [get?_present_cons]
      split at h
      · next hkey =>
        obtain rfl := Option.some.inj h
        exact if_pos ⟨hkey.symm, hvalue⟩
      · next hkey => rw [if_neg fun hboth => hkey hboth.1.symm, ih h]

/-- What is found where one member stands between others. -/
theorem get?_present_insert (a : Members) (key : Text) (value : Json) (b : Members) (k : Text) :
    (present (a ++ (key, value) :: b)).get? k
      = ((present a).get? k).or
        (if k = key ∧ value.isNull = false then some value else (present b).get? k) := by
  rw [present_append, get?_append, get?_present_cons]

/-- A member that is put in is not noticed under other keys. -/
theorem get?_present_insert_of_ne (h : k ≠ key) :
    (present (a ++ (key, value) :: b)).get? k = (present (a ++ b)).get? k := by
  rw [get?_present_insert, if_neg fun hboth => h hboth.1, present_append, get?_append]

/-- A member that is `null` is not noticed under any key, since it counts as
absent. -/
theorem get?_present_insert_null :
    (present (a ++ (key, .null) :: b)).get? k = (present (a ++ b)).get? k := by
  rw [get?_present_insert, if_neg (by simp [isNull]), present_append, get?_append]

/-- Under a key of its own it is found if it is not `null`. -/
theorem get?_present_insert_self (h : key ∉ keys (a ++ b)) :
    (present (a ++ (key, value) :: b)).get? key
      = if value.isNull = false then some value else none := by
  have hnone := get?_present_of_not_mem h
  rw [present_append, get?_append, Option.or_eq_none_iff] at hnone
  rw [get?_present_insert, hnone.1, hnone.2, Option.none_or]
  simp

end Json.Members

/-! ### What the noise is in one field -/

/-- What stands under the spellings of a field, in two records that are the
same but for noise. -/
inductive Label.Alike (l : Label) (shape : Schema.Shape RecordName)
    (look look' : Text → Option Json) : Prop
  /-- the same -/
  | same (h : ∀ k ∈ l.spellings, look' k = look k)
  /-- what stood under the key stands under the name -/
  | moved (hname : look l.name = none) (hkey : look' l.key = none) (h : look' l.name = look l.key)
  /-- there is noise in one of the values -/
  | edited {spelling : Text} {value value' : Json} (hspelling : spelling ∈ l.spellings)
      (hvalue : look spelling = some value) (hvalue' : look' spelling = some value')
      (hnoise : Noise shape value value')
      (hothers : ∀ k ∈ l.spellings, k ≠ spelling → look' k = look k)

section Alike

variable {l other : Label} {shape shape' : Schema.Shape RecordName} {r : RecordName}
  {a b : Json.Members} {value value' : Json} {key : Text}

/-- A field that stands under its name instead of its key has moved. Another
field of the record does not notice, as its spellings are others. -/
theorem Label.alike_of_otherSpelling (hl : (l, shape) ∈ fieldsOf r)
    (hfield : (other, shape') ∈ fieldsOf r) (hkey : other.key ∉ Json.Members.keys (a ++ b))
    (hname : other.name ∉ Json.Members.keys (a ++ b)) :
    l.Alike shape (Json.Members.present (a ++ (other.key, value) :: b)).get?
      (Json.Members.present (a ++ (other.name, value) :: b)).get? := by
  by_cases hsame : (other, shape') = (l, shape)
  · obtain ⟨rfl, rfl⟩ := Prod.mk.inj hsame
    by_cases hone : other.key = other.name
    · rw [hone]
      exact .same fun k _ => rfl
    · refine .moved ?_ ?_ ?_
      · rw [Json.Members.get?_present_insert_of_ne (Ne.symm hone),
          Json.Members.get?_present_of_not_mem hname]
      · rw [Json.Members.get?_present_insert_of_ne hone,
          Json.Members.get?_present_of_not_mem hkey]
      · rw [Json.Members.get?_present_insert_self hname,
          Json.Members.get?_present_insert_self hkey]
  · have hapart : ∀ k ∈ l.spellings, k ∉ other.spellings := fun k hk hk' =>
      hsame (eq_of_mem_spellings (nodup_spellings_fieldsOf r) hfield hl hk' hk)
    refine .same fun k hk => ?_
    rw [Json.Members.get?_present_insert_of_ne, Json.Members.get?_present_insert_of_ne]
    · rintro rfl
      exact hapart _ hk other.key_mem_spellings
    · rintro rfl
      exact hapart _ hk (Label.mem_spellings_iff.mpr (.inr rfl))

/-- Noise in a value under a spelling of a field is noise of that field,
unless an earlier member of the same key hides the value. -/
theorem Label.alike_of_noise (hkey : key ∈ l.spellings) (hnoise : Noise shape value value') :
    l.Alike shape (Json.Members.present (a ++ (key, value) :: b)).get?
      (Json.Members.present (a ++ (key, value') :: b)).get? := by
  have hothers (k : Text) (hne : k ≠ key) :
      (Json.Members.present (a ++ (key, value') :: b)).get? k
        = (Json.Members.present (a ++ (key, value) :: b)).get? k := by
    rw [Json.Members.get?_present_insert_of_ne hne, Json.Members.get?_present_insert_of_ne hne]
  obtain ⟨hnull, hnull'⟩ := hnoise.isNull
  have hvalue := Json.Members.get?_present_insert a key value b key
  have hvalue' := Json.Members.get?_present_insert a key value' b key
  rw [if_pos ⟨rfl, hnull⟩] at hvalue
  rw [if_pos ⟨rfl, hnull'⟩] at hvalue'
  cases hfront : (Json.Members.present a).get? key with
  | some first =>
      rw [hfront] at hvalue hvalue'
      refine .same fun k _ => ?_
      by_cases hne : k = key
      · rw [hne, hvalue, hvalue']
        rfl
      · exact hothers k hne
  | none =>
      rw [hfront] at hvalue hvalue'
      exact .edited hkey hvalue hvalue' hnoise fun k _ hne => hothers k hne

/-- Noise in a record is noise in one of its fields, if in any. One case for
each kind of noise: what stands under the spellings of a field before and
after is the same, or has moved from one spelling to the other, or was
changed by noise inside. -/
theorem Schema.Noise.alike {m m' : Json.Members} (h : Noise (.record r) (.obj m) (.obj m'))
    (hl : (l, shape) ∈ fieldsOf r) : l.Alike shape m.present.get? m'.present.get? := by
  cases h with
  | unknownKey hunknown hnew =>
      refine .same fun k hk => Json.Members.get?_present_insert_of_ne ?_
      rintro rfl
      exact hunknown (List.mem_flatMap.mpr ⟨_, hl, hk⟩)
  | absentField hfield hspelling habsent =>
      exact .same fun k hk => Json.Members.get?_present_insert_null
  | otherSpelling hfield hkey hname => exact Label.alike_of_otherSpelling hl hfield hkey hname
  | reordered hkeys hperm =>
      refine .same fun k hk => ?_
      have hpresent : m.present.keys.Nodup := hkeys.sublist (List.filter_sublist.map _)
      exact (Json.Members.get?_of_perm hpresent (hperm.filter _) k).symm
  | @inField _ other shape' a b key value value' hfield hspelling hnoise =>
      by_cases hk : key ∈ l.spellings
      · obtain ⟨rfl, rfl⟩ := Prod.mk.inj
          (eq_of_mem_spellings (nodup_spellings_fieldsOf r) hfield hl hspelling hk)
        exact Label.alike_of_noise hk hnoise
      · -- Another field has other spellings than the key of the value.
        refine .same fun k hk' => ?_
        have hne : k ≠ key := by
          rintro rfl
          exact hk hk'
        rw [Json.Members.get?_present_insert_of_ne hne, Json.Members.get?_present_insert_of_ne hne]

end Alike

/-! ### Types of fields -/

variable {α β : Type}

/-- A record type ignores noise: it is lenient, and noisy members hold the
same record as those without the noise. -/
structure RecordType.IgnoresNoise (r : RecordType α) (name : RecordName) : Prop where
  lenient : r.IsLenient
  same : ∀ m m' : Json.Members, Noise (.record name) (.obj m) (.obj m') →
    (Json.obj m').isWritable = true → ∃ a, r.Reads m a ∧ r.Reads m' a

namespace FieldType

/-- A type of fields ignores noise: it is lenient, and it keeps noisy
values and reads them like those without the noise. -/
structure IgnoresNoise (type : FieldType α) (shape : Schema.Shape RecordName) : Prop where
  lenient : type.IsLenient
  same : ∀ value value', Noise shape value value' → value'.isWritable = true →
    ∃ a, type.Reads value a ∧ type.Reads value' a

/-- There is no noise in a single value, so a field for one ignores it. -/
theorem ignoresNoise_scalar {type : FieldType α} (h : type.IsLenient) :
    type.IgnoresNoise .scalar :=
  ⟨h, fun _ _ hnoise => nomatch hnoise⟩

/-- There is no noise in a single value that may be absent either. -/
theorem ignoresNoise_optional_scalar {type : FieldType α} (h : type.IsLenient) :
    type.IgnoresNoise (.optional .scalar) := by
  refine ⟨h, fun value value' hnoise _ => ?_⟩
  cases hnoise with
  | inOptional hnoise => exact nomatch hnoise

/-- A list of texts leaves out an item that is `null`, and there is no other
noise in one. -/
theorem ignoresNoise_texts : texts.IgnoresNoise (.list .scalar) := by
  refine ⟨isLenient_texts, fun value value' hnoise hwritable => ?_⟩
  have hsame : Leaf.texts value' = Leaf.texts value := by
    cases hnoise with
    | inItem hnoise => exact nomatch hnoise
    | nullItem => simp [Leaf.texts, Json.isNull]
  rcases Leaf.texts_cases value' with ⟨ts, hts⟩ | ⟨hlong, _⟩
  · exact ⟨ts, reads_texts (hsame ▸ hts), reads_texts hts⟩
  · exact absurd hlong (by simp [hwritable])

/-- What stands for no record has no members. It is dropped, so it does not
matter what else it says. -/
theorem members?_of_standsForNone {bare : Label} {value : Json} (h : value.standsForNone = true) :
    Leaf.members? bare value = none := by
  cases value with
  | str t => exact if_pos h
  | obj members => exact nomatch h
  | _ => rfl

/-- A list of records ignores noise in its items if their type does, and
items that stand for no record. -/
theorem ignoresNoise_records (bare : Label) {r : RecordType α} {name : RecordName}
    (hr : r.IgnoresNoise name) : (records bare r).IgnoresNoise (.list (.record name)) := by
  refine ⟨isLenient_records bare hr.lenient, fun value value' hnoise hwritable => ?_⟩
  cases hnoise with
  | @inItem _ a b value value' hnoise =>
      obtain ⟨m, m', rfl, rfl⟩ := hnoise.exists_obj
      rw [Json.isWritable_arr, List.forall_mem_append, List.forall_mem_cons] at hwritable
      obtain ⟨hfront, hitem, hbehind⟩ := hwritable
      obtain ⟨x, hx, hx'⟩ := hr.same m m' hnoise hitem
      obtain ⟨as, has⟩ := exists_forall₂_reads hr.lenient
        (Leaf.isWritable_of_mem_records bare (Json.isWritable_arr.mpr hfront))
      obtain ⟨bs, hbs⟩ := exists_forall₂_reads hr.lenient
        (Leaf.isWritable_of_mem_records bare (Json.isWritable_arr.mpr hbehind))
      rw [Leaf.records] at has hbs
      refine ⟨as ++ x :: bs, reads_records ?_, reads_records ?_⟩
      · simpa [Leaf.records, Leaf.members?] using List.rel_append has (.cons hx hbs)
      · simpa [Leaf.records, Leaf.members?] using List.rel_append has (.cons hx' hbs)
  | inOnly hnoise =>
      -- An object is a list of one.
      obtain ⟨m, m', rfl, rfl⟩ := hnoise.exists_obj
      obtain ⟨x, hx, hx'⟩ := hr.same m m' hnoise hwritable
      exact ⟨[x], reads_records (.cons hx .nil), reads_records (.cons hx' .nil)⟩
  | @strayItem _ a b value hnone =>
      have hsame : Leaf.records bare (.arr (a ++ value :: b))
          = Leaf.records bare (.arr (a ++ b)) := by
        simp [Leaf.records, members?_of_standsForNone hnone]
      obtain ⟨as, has⟩ := exists_forall₂_reads hr.lenient
        (Leaf.isWritable_of_mem_records bare hwritable)
      exact ⟨as, reads_records (hsame ▸ has), reads_records has⟩

/-- A record that may be absent ignores noise if its type does: noise keeps
it a record. -/
theorem ignoresNoise_record? (bare : Label) {r : RecordType α} {name : RecordName}
    (hr : r.IgnoresNoise name) : (record? bare r).IgnoresNoise (.optional (.record name)) := by
  refine ⟨isLenient_record? bare hr.lenient, fun value value' hnoise hwritable => ?_⟩
  cases hnoise with
  | inOptional hnoise =>
      obtain ⟨m, m', rfl, rfl⟩ := hnoise.exists_obj
      obtain ⟨x, hx, hx'⟩ := hr.same m m' hnoise hwritable
      exact ⟨some x, reads_record? rfl hx, reads_record? rfl hx'⟩

end FieldType

/-! ### Fields and records -/

/-- What is found of a field is what is found under its key, or else under
its name. -/
theorem Label.locate?_value (l : Label) (members : Json.Members) :
    (l.locate? members).map Prod.snd = (members.get? l.key).or (members.get? l.name) := by
  rw [Label.locate?]
  cases members.get? l.key with
  | some value => rfl
  | none =>
      cases members.get? l.name with
      | some value => rfl
      | none => rfl

section Field

variable {l : Label} {shape : Schema.Shape RecordName} {type : FieldType α} {default : α}
  {coercions : List (Label × Coercion)} {m m' s s' : Json.Members}

/-- What the second stage finds of a field, by what stands under its
spellings. -/
theorem value_of_settle (hdistinct : (spellingsOf coercions).Nodup)
    (hfield : (l, type.coerce) ∈ coercions) (hsettle : settle coercions m = .ok s) :
    (l.locate? s).map Prod.snd
      = ((m.present.get? l.key).bind type.coerce.kept?).or
          ((m.present.get? l.name).bind type.coerce.kept?) := by
  rw [Label.locate?_value, get?_of_settle hdistinct hsettle hfield l.key_mem_spellings,
    get?_of_settle hdistinct hsettle hfield (Label.mem_spellings_iff.mpr (.inr rfl))]

/-- A field is read alike where both values of it are checked alike, or
where it has none in either record and so has its default. -/
theorem give_alike {found found' : Option Json}
    (hfound : (l.locate? s).map Prod.snd = found) (hfound' : (l.locate? s').map Prod.snd = found')
    (h : (found = none ∧ found' = none) ∨ ∃ value value' a, found = some value
      ∧ found' = some value' ∧ (∀ place, type.check place value = .ok a)
      ∧ ∀ place, type.check place value' = .ok a) :
    ∃ a, (l.field type default).Give s a ∧ (l.field type default).Give s' a := by
  rcases h with ⟨rfl, rfl⟩ | ⟨value, value', a, rfl, rfl, hcheck, hcheck'⟩
  · rw [Option.map_eq_none_iff] at hfound hfound'
    exact ⟨default, Fields.give_field_of_none hfound, Fields.give_field_of_none hfound'⟩
  · obtain ⟨⟨spelling, _⟩, hlocate, rfl⟩ := Option.map_eq_some_iff.mp hfound
    obtain ⟨⟨spelling', _⟩, hlocate', rfl⟩ := Option.map_eq_some_iff.mp hfound'
    exact ⟨a, Fields.give_field_of_some hlocate hcheck, Fields.give_field_of_some hlocate' hcheck'⟩

/-- What is found of a field whose values can be written is checked
without fault. -/
theorem exists_checked (hlenient : type.IsLenient) {x y : Option Json}
    (hx : ∀ value, x = some value → value.isWritable = true)
    (hy : ∀ value, y = some value → value.isWritable = true) :
    (x.bind type.coerce.kept?).or (y.bind type.coerce.kept?) = none
      ∨ ∃ value a, (x.bind type.coerce.kept?).or (y.bind type.coerce.kept?) = some value
        ∧ ∀ place, type.check place value = .ok a := by
  cases hfound : (x.bind type.coerce.kept?).or (y.bind type.coerce.kept?) with
  | none => exact .inl rfl
  | some value =>
      have hgiven : ∃ given : Json, given.isWritable = true
          ∧ type.coerce given = .ok (some value) := by
        rcases Option.or_eq_some_iff.mp hfound with hkey | ⟨-, hname⟩
        · obtain ⟨given, hgiven, hkept⟩ := Option.bind_eq_some_iff.mp hkey
          exact ⟨given, hx given hgiven, Coercion.kept?_eq_some_iff.mp hkept⟩
        · obtain ⟨given, hgiven, hkept⟩ := Option.bind_eq_some_iff.mp hname
          exact ⟨given, hy given hgiven, Coercion.kept?_eq_some_iff.mp hkept⟩
      obtain ⟨given, hwritable, hcoerce⟩ := hgiven
      rcases hlenient.checks given value hcoerce with ⟨a, ha⟩ | ⟨hlong, _⟩
      · exact .inr ⟨value, a, rfl, ha⟩
      · exact absurd hlong (by simp [hwritable])

/-- A field is read alike from records that are alike in it. That what
stands under its spellings may have moved is the case to look at: under each
of them a value may be dropped by the coercion, and the key counts before
the name. -/
theorem Label.Alike.give (h : l.Alike shape m.present.get? m'.present.get?)
    (htype : type.IgnoresNoise shape) (hdistinct : (spellingsOf coercions).Nodup)
    (hfield : (l, type.coerce) ∈ coercions) (hsettle : settle coercions m = .ok s)
    (hsettle' : settle coercions m' = .ok s') (hm : (Json.obj m).isWritable = true)
    (hm' : (Json.obj m').isWritable = true) :
    ∃ a, (l.field type default).Give s a ∧ (l.field type default).Give s' a := by
  have hkey := l.key_mem_spellings
  have hname : l.name ∈ l.spellings := Label.mem_spellings_iff.mpr (.inr rfl)
  have hfound := value_of_settle hdistinct hfield hsettle
  have hfound' := value_of_settle hdistinct hfield hsettle'
  have hheld (k : Text) (value : Json) (hvalue : m.present.get? k = some value) :
      value.isWritable = true :=
    Json.isWritable_of_get?_present hm hvalue
  -- It is enough that the same is found of the field, whatever that is.
  have hsame : ∀ x y : Option Json, (∀ value, x = some value → value.isWritable = true) →
      (∀ value, y = some value → value.isWritable = true) →
      (l.locate? s).map Prod.snd = (x.bind type.coerce.kept?).or (y.bind type.coerce.kept?) →
      (l.locate? s').map Prod.snd = (x.bind type.coerce.kept?).or (y.bind type.coerce.kept?) →
      ∃ a, (l.field type default).Give s a ∧ (l.field type default).Give s' a := by
    intro x y hx hy hxy hxy'
    refine give_alike hxy hxy' ?_
    rcases exists_checked htype.lenient hx hy with hnone | ⟨value, a, hvalue, hcheck⟩
    · exact .inl ⟨hnone, hnone⟩
    · exact .inr ⟨value, value, a, hvalue, hvalue, hcheck, hcheck⟩
  cases h with
  | same h =>
      exact hsame _ _ (hheld _) (hheld _) hfound (by rw [hfound', h _ hkey, h _ hname])
  | moved hnone hnone' h =>
      exact hsame none (m.present.get? l.key) (fun _ h => nomatch h) (hheld _)
        (by rw [hfound, hnone]; simp) (by rw [hfound', hnone', h])
  | @edited spelling value value' hspelling hvalue hvalue' hnoise hothers =>
      obtain ⟨a, ⟨w, hw, hcheck⟩, ⟨w', hw', hcheck'⟩⟩ := htype.same value value' hnoise
        (Json.isWritable_of_get?_present hm' hvalue')
      rw [← Coercion.kept?_eq_some_iff] at hw hw'
      by_cases hk : spelling = l.key
      · subst hk
        refine give_alike hfound hfound' (.inr ⟨w, w', a, ?_, ?_, hcheck, hcheck'⟩)
        · rw [hvalue, Option.bind_some, hw, Option.some_or]
        · rw [hvalue', Option.bind_some, hw', Option.some_or]
      · -- The value stands under the name, so what the key holds is the same.
        obtain rfl := (Label.mem_spellings_iff.mp hspelling).resolve_left hk
        have hother := hothers l.key hkey (Ne.symm hk)
        cases hfirst : (m.present.get? l.key).bind type.coerce.kept? with
        | some u =>
            refine hsame (m.present.get? l.key) none (hheld _) (fun _ h => nomatch h) ?_ ?_
            · rw [hfound, hfirst, Option.some_or, Option.some_or]
            · rw [hfound', hother, hfirst, Option.some_or, Option.some_or]
        | none =>
            refine give_alike hfound hfound' (.inr ⟨w, w', a, ?_, ?_, hcheck, hcheck'⟩)
            · rw [hfirst, Option.none_or, hvalue, Option.bind_some, hw]
            · rw [hother, hfirst, Option.none_or, hvalue', Option.bind_some, hw']

end Field

namespace Fields

/-- Fields that ignore noise, with the first of the given shapes; the
`rest` is not taken yet. -/
def IgnoresNoiseIn (fields : Fields α) (shapes rest : List (Label × Schema.Shape RecordName)) :
    Prop :=
  rest ⊆ shapes ∧ ∀ (coercions : List (Label × Coercion)) (m m' s s' : Json.Members),
    fields.coercions ⊆ coercions → (spellingsOf coercions).Nodup →
    settle coercions m = .ok s → settle coercions m' = .ok s' →
    (Json.obj m).isWritable = true → (Json.obj m').isWritable = true →
    (∀ field ∈ shapes, field.1.Alike field.2 m.present.get? m'.present.get?) →
    ∃ a, fields.Give s a ∧ fields.Give s' a

/-- The first field takes the first shape, so the shapes of a record are
gone through along with its fields. -/
theorem IgnoresNoiseIn.first {f : α → β} {l : Label} {shape : Schema.Shape RecordName}
    {type : FieldType α} {default : α} {rest : List (Label × Schema.Shape RecordName)}
    (h : type.IgnoresNoise shape) :
    (f <$> l.field type default).IgnoresNoiseIn ((l, shape) :: rest) rest := by
  refine ⟨List.subset_cons_self _ _, ?_⟩
  intro coercions m m' s s' hsub hdistinct hsettle hsettle' hm hm' halike
  have hfield : (l, type.coerce) ∈ coercions := hsub (List.mem_singleton_self _)
  obtain ⟨a, ha, ha'⟩ := (halike (l, shape) List.mem_cons_self).give h hdistinct hfield hsettle
    hsettle' hm hm'
  exact ⟨f a, give_map f ha, give_map f ha'⟩

/-- The next field takes the next shape, and the function of the fields
before is applied to what it gives. -/
theorem IgnoresNoiseIn.next {fields : Fields (α → β)} {l : Label}
    {shape : Schema.Shape RecordName} {type : FieldType α} {default : α}
    {shapes rest : List (Label × Schema.Shape RecordName)}
    (hfields : fields.IgnoresNoiseIn shapes ((l, shape) :: rest)) (h : type.IgnoresNoise shape) :
    (fields <*> l.field type default).IgnoresNoiseIn shapes rest := by
  obtain ⟨hrest, hgive⟩ := hfields
  refine ⟨List.Subset.trans (List.subset_cons_self _ _) hrest, ?_⟩
  intro coercions m m' s s' hsub hdistinct hsettle hsettle' hm hm' halike
  have hsub' : fields.coercions ++ [(l, type.coerce)] ⊆ coercions := hsub
  rw [List.append_subset] at hsub'
  obtain ⟨f, hf, hf'⟩ := hgive coercions m m' s s' hsub'.1 hdistinct hsettle hsettle' hm hm' halike
  obtain ⟨a, ha, ha'⟩ := (halike (l, shape) (hrest List.mem_cons_self)).give h hdistinct
    (hsub'.2 (List.mem_singleton_self _)) hsettle hsettle' hm hm'
  exact ⟨f a, give_seq hf ha, give_seq hf' ha'⟩

end Fields

namespace RecordType

/-- Records that can be written and are alike in every field are read as
one. -/
theorem exists_reads_of_alike {r : RecordType α} {shapes : List (Label × Schema.Shape RecordName)}
    (hplain : r.IsPlain) (hlenient : r.IsLenient) (hfields : r.fields.IgnoresNoiseIn shapes [])
    {m m' : Json.Members} (hm : (Json.obj m).isWritable = true)
    (hm' : (Json.obj m').isWritable = true)
    (h : ∀ field ∈ shapes, field.1.Alike field.2 m.present.get? m'.present.get?) :
    ∃ a, r.Reads m a ∧ r.Reads m' a := by
  obtain ⟨_, hread⟩ := hlenient.exists_reads hm
  obtain ⟨_, hread'⟩ := hlenient.exists_reads hm'
  obtain ⟨s, hsettle⟩ := hread.exists_settle
  obtain ⟨s', hsettle'⟩ := hread'.exists_settle
  obtain ⟨a, ha, ha'⟩ := hfields.2 r.fields.coercions m m' s s' (List.Subset.refl _) hplain.1
    hsettle hsettle' hm hm' h
  exact ⟨a, reads_of_settle hsettle ha, reads_of_settle hsettle' ha'⟩

/-- A record type ignores noise if all of its fields do. -/
theorem ignoresNoise_of_fields {r : RecordType α} {name : RecordName} (hplain : r.IsPlain)
    (hlenient : r.IsLenient) (hfields : r.fields.IgnoresNoiseIn (fieldsOf name) []) :
    r.IgnoresNoise name :=
  ⟨hlenient, fun _ _ h hm' => exists_reads_of_alike hplain hlenient hfields (h.isWritable hm') hm'
    fun _ hfield => h.alike hfield⟩

end RecordType

open Fields FieldType

/-- A parameter ignores noise: all of its fields are scalars, and none of
them is a list or a record. -/
theorem ParameterDoc.ignoresNoise : ParameterDoc.recordType.IgnoresNoise .parameter :=
  RecordType.ignoresNoise_of_fields isPlain isLenient <|
    IgnoresNoiseIn.first (ignoresNoise_scalar isLenient_text)
      |>.next (ignoresNoise_scalar isLenient_text)
      |>.next (ignoresNoise_scalar isLenient_text)
      |>.next (ignoresNoise_scalar isLenient_flag)
      |>.next (ignoresNoise_optional_scalar isLenient_text?)

/-- So does a function, since its parameters do, and a list of examples. Its
other fields are texts. -/
theorem FunctionDoc.ignoresNoise : FunctionDoc.recordType.IgnoresNoise .function :=
  RecordType.ignoresNoise_of_fields isPlain isLenient <|
    IgnoresNoiseIn.first (ignoresNoise_scalar isLenient_text)
      |>.next (ignoresNoise_scalar isLenient_text)
      |>.next (ignoresNoise_records _ ParameterDoc.ignoresNoise)
      |>.next (ignoresNoise_scalar isLenient_text)
      |>.next (ignoresNoise_scalar isLenient_text)
      |>.next ignoresNoise_texts
      |>.next (ignoresNoise_scalar isLenient_text)

/-- A constructor ignores noise, since its parameters do. -/
theorem ConstructorDoc.ignoresNoise : ConstructorDoc.recordType.IgnoresNoise .constructor :=
  RecordType.ignoresNoise_of_fields isPlain isLenient <|
    IgnoresNoiseIn.first (ignoresNoise_scalar isLenient_text)
      |>.next (ignoresNoise_records _ ParameterDoc.ignoresNoise)
      |>.next ignoresNoise_texts

/-- A property ignores noise, the words of its access read as any others. -/
theorem PropertyDoc.ignoresNoise : PropertyDoc.recordType.IgnoresNoise .property :=
  RecordType.ignoresNoise_of_fields isPlain isLenient <|
    IgnoresNoiseIn.first (ignoresNoise_scalar isLenient_text)
      |>.next (ignoresNoise_scalar isLenient_text)
      |>.next (ignoresNoise_scalar isLenient_text)
      |>.next (ignoresNoise_scalar isLenient_access)
      |>.next (ignoresNoise_scalar isLenient_flag)

/-- A class ignores noise, also in what it holds of constructor, methods and
properties. -/
theorem ClassDoc.ignoresNoise : ClassDoc.recordType.IgnoresNoise .classDefinition :=
  RecordType.ignoresNoise_of_fields isPlain isLenient <|
    IgnoresNoiseIn.first (ignoresNoise_scalar isLenient_text)
      |>.next (ignoresNoise_scalar isLenient_text)
      |>.next (ignoresNoise_record? _ ConstructorDoc.ignoresNoise)
      |>.next (ignoresNoise_records _ FunctionDoc.ignoresNoise)
      |>.next (ignoresNoise_records _ PropertyDoc.ignoresNoise)
      |>.next ignoresNoise_texts

/-- So does an interface, in its properties and methods. -/
theorem InterfaceDoc.ignoresNoise : InterfaceDoc.recordType.IgnoresNoise .interface :=
  RecordType.ignoresNoise_of_fields isPlain isLenient <|
    IgnoresNoiseIn.first (ignoresNoise_scalar isLenient_text)
      |>.next (ignoresNoise_scalar isLenient_text)
      |>.next (ignoresNoise_records _ PropertyDoc.ignoresNoise)
      |>.next (ignoresNoise_records _ FunctionDoc.ignoresNoise)

/-- A constant ignores noise. It has texts only, and no examples. -/
theorem ConstantDoc.ignoresNoise : ConstantDoc.recordType.IgnoresNoise .constant :=
  RecordType.ignoresNoise_of_fields isPlain isLenient <|
    IgnoresNoiseIn.first (ignoresNoise_scalar isLenient_text)
      |>.next (ignoresNoise_scalar isLenient_text)
      |>.next (ignoresNoise_scalar isLenient_text)
      |>.next (ignoresNoise_scalar isLenient_text)

/-- So does the definition of a type, which has texts and a list of them. -/
theorem TypeDoc.ignoresNoise : TypeDoc.recordType.IgnoresNoise .typeDefinition :=
  RecordType.ignoresNoise_of_fields isPlain isLenient <|
    IgnoresNoiseIn.first (ignoresNoise_scalar isLenient_text)
      |>.next (ignoresNoise_scalar isLenient_text)
      |>.next (ignoresNoise_scalar isLenient_text)
      |>.next ignoresNoise_texts

/-- The fields of a file ignore noise, all that it documents included. The
labels of the file are fields like the others here; that they are left out
of a payload is said elsewhere. -/
theorem FileDoc.ignoresNoiseIn :
    FileDoc.recordType.fields.IgnoresNoiseIn (fieldsOf .file) [] :=
  IgnoresNoiseIn.first (ignoresNoise_scalar isLenient_text)
    |>.next (ignoresNoise_records _ FunctionDoc.ignoresNoise)
    |>.next (ignoresNoise_records _ ClassDoc.ignoresNoise)
    |>.next (ignoresNoise_records _ InterfaceDoc.ignoresNoise)
    |>.next (ignoresNoise_records _ ConstantDoc.ignoresNoise)
    |>.next (ignoresNoise_records _ TypeDoc.ignoresNoise)
    |>.next (ignoresNoise_optional_scalar isLenient_text?)
    |>.next (ignoresNoise_optional_scalar isLenient_text?)

end DocScribe
