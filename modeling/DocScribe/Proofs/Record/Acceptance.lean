import DocScribe.Proofs.Record.Settling
import Mathlib.Data.List.Forall2

/-!
# `DocScribe.Proofs.Record.Acceptance`: the second stage takes what the first one leaves

A type of fields *reads* a value as `a` if the coerced value passes
the strict check with the result `a`, wherever it stands. For each of
the eight types it is said here what a value is read as
(`reads_text`, `reads_flag`, … `reads_records`), and from this that no
value other than `null` is refused unless it holds an integer that is
too long to be written (`IsLenient`). Then nothing else is reported.

From types of fields to records it goes along the way in which a
record type is put together: `IsLenient` holds of a single field and of
fields behind others, and so of the record. Each of the nine record
types takes every list of members whose integers can be written: its
fields have spellings of their own and refuse nothing else, and a
record comes behind the records that it holds.
-/

set_option autoImplicit false

namespace DocScribe

variable {α β : Type}

/-! ### Values that can be written -/

namespace Json

/-- What counts among members that can be written can be written. -/
theorem isWritable_of_get?_present {members : Members} (h : (obj members).isWritable = true)
    {key : Text} {value : Json} (hvalue : members.present.get? key = some value) :
    value.isWritable = true :=
  isWritable_obj.mp h _ (List.mem_filter.mp (Members.mem_of_get? hvalue)).1

end Json

namespace Leaf

/-- A value that can be written is, in whatever way. -/
theorem written_of_isWritable (write : Json → Text) {value : Json}
    (h : value.isWritable = true) : written write value = .ok (write value) :=
  if_pos h

/-- A value is written, or an integer in it is too long. There is no other
reason for which no text can be made of a value. -/
theorem written_cases (write : Json → Text) (value : Json) :
    (∃ t, written write value = .ok t)
      ∨ value.isWritable = false ∧ written write value = .error integerTooLong := by
  cases hvalue : value.isWritable with
  | true => exact .inl ⟨_, written_of_isWritable write hvalue⟩
  | false =>
      refine .inr ⟨rfl, ?_⟩
      rw [written, if_neg (by simp [hvalue])]

/-- A value has a text, or an integer in it is too long. A string
always has one. -/
theorem text_cases (value : Json) :
    (∃ t, text value = .ok t)
      ∨ value.isWritable = false ∧ text value = .error integerTooLong := by
  cases value with
  | str t => exact .inl ⟨t, rfl⟩
  | _ => exact written_cases _ _

/-- The items of a list have texts, or an integer in one of them is too
long: the first item without a text is the one that is reported. -/
theorem mapM_text_cases (items : List Json) :
    (∃ ts, items.mapM text = .ok ts)
      ∨ (Json.arr items).isWritable = false ∧ items.mapM text = .error integerTooLong := by
  induction items with
  | nil => exact .inl ⟨[], rfl⟩
  | cons item items ih =>
      have hfails : item.isWritable = false ∨ (Json.arr items).isWritable = false →
          (Json.arr (item :: items)).isWritable = false := by
        intro h
        rw [Json.isWritable] at h ⊢
        rw [Json.areWritable]
        rcases h with h | h <;> simp [h]
      rw [List.mapM_cons]
      rcases text_cases item with ⟨t, ht⟩ | ⟨hitem, ht⟩
      · rw [ht]
        rcases ih with ⟨ts, hts⟩ | ⟨hitems, hts⟩
        · exact .inl ⟨t :: ts, by rw [hts]; rfl⟩
        · exact .inr ⟨hfails (.inr hitems), by rw [hts]; rfl⟩
      · exact .inr ⟨hfails (.inl hitem), by rw [ht]; rfl⟩

/-- A value has texts, or an integer in it is too long. A list has those of
its items, a text has itself, and all other values have none. -/
theorem texts_cases (value : Json) :
    (∃ ts, texts value = .ok ts)
      ∨ value.isWritable = false ∧ texts value = .error integerTooLong := by
  cases value with
  | arr items =>
      rcases mapM_text_cases (items.filter fun item => !item.isNull) with hts | ⟨hlong, herror⟩
      · exact .inl hts
      · refine .inr ⟨?_, herror⟩
        -- What is no item has no integer.
        rw [Bool.eq_false_iff, ne_eq, Json.isWritable_arr] at hlong ⊢
        exact fun hall => hlong fun item hitem => hall item (List.mem_filter.mp hitem).1
  | str t => exact .inl ⟨[t], rfl⟩
  | _ => exact .inl ⟨[], rfl⟩

/-- Any text stands for one of the words for an access: the three stand for
themselves, in any letters, and all others for the first. -/
theorem exists_accessWordOf (shown : Text) :
    ∃ access : Access, accessWordOf shown = access.word := by
  rw [accessWordOf]
  split
  · next h =>
    obtain ⟨access, _, heq⟩ := List.mem_map.mp (List.contains_iff_mem.mp h)
    exact ⟨access, heq.symm⟩
  · exact ⟨.everyone, rfl⟩

/-- A value shows one of the words for an access, or an integer in it is
too long to be shown. -/
theorem accessWord_cases (value : Json) :
    (∃ access : Access, accessWord value = .ok access.word)
      ∨ value.isWritable = false ∧ accessWord value = .error integerTooLong := by
  rw [accessWord]
  rcases written_cases Json.display value with ⟨shown, hshown⟩ | ⟨hlong, herror⟩
  · obtain ⟨access, haccess⟩ := exists_accessWordOf shown
    exact .inl ⟨access, by rw [hshown, ← haccess]; rfl⟩
  · exact .inr ⟨hlong, by rw [herror]; rfl⟩

/-- The members of an object, or of what stands for one, can be written
if the value can. -/
theorem isWritable_of_members? {bare : Label} {value : Json} {members : Json.Members}
    (hmembers : members? bare value = some members) (h : value.isWritable = true) :
    (Json.obj members).isWritable = true := by
  rw [members?.eq_def] at hmembers
  split at hmembers
  · exact Option.some.inj hmembers ▸ h
  · split at hmembers
    · cases hmembers
    · obtain rfl := Option.some.inj hmembers
      rfl
  · cases hmembers

/-- The members of each record in a list can be written if the list
can. -/
theorem isWritable_of_mem_records (bare : Label) {value : Json} (h : value.isWritable = true) :
    ∀ members ∈ records bare value, (Json.obj members).isWritable = true := by
  intro members hmembers
  rw [records.eq_def] at hmembers
  split at hmembers
  · obtain ⟨item, hitem, hitem'⟩ := List.mem_filterMap.mp hmembers
    exact isWritable_of_members? hitem' (Json.isWritable_arr.mp h item hitem)
  · exact List.mem_singleton.mp hmembers ▸ h
  · cases hmembers

end Leaf

/-! ### Checks that are lenient -/

namespace Checked

/-- Refused, and nothing is wrong but integers that are too long. -/
def IsTooLong : Checked α → Prop
  | .ok _ => False
  | .bad issues => ∀ issue ∈ issues, issue.kind = Leaf.integerTooLong

/-- A record that is refused for integers only names them, each in its
place. -/
theorem IsTooLong.exists_eq {c : Checked α} (h : c.IsTooLong) :
    ∃ issues, c = .bad issues ∧ ∀ issue ∈ issues, issue.kind = Leaf.integerTooLong := by
  cases c with
  | ok a => exact h.elim
  | bad issues => exact ⟨issues, rfl, h⟩

/-- A check of a value comes out the same wherever the value stands,
unless an integer in it is too long: then nothing else is wrong. -/
def Lenient (value : Json) (check : List Place → Checked α) : Prop :=
  (∃ a, ∀ place, check place = .ok a)
    ∨ value.isWritable = false ∧ ∀ place, (check place).IsTooLong

/-- A lenient check of a part of a value is a lenient check of the
value. -/
theorem Lenient.of_part {value part : Json} {check : List Place → Checked α}
    (h : Lenient part check) (hpart : value.isWritable = true → part.isWritable = true) :
    Lenient value check := by
  refine h.imp_right fun hlong => ⟨?_, hlong.2⟩
  rw [Bool.eq_false_iff]
  exact fun hvalue => absurd (hpart hvalue) (by simp [hlong.1])

/-- It does not matter what is made of the result: a check stays lenient,
and its issues are the same. -/
theorem Lenient.map {value : Json} {check : List Place → Checked α} (h : Lenient value check)
    (f : α → β) : Lenient value fun place => (check place).map f := by
  rcases h with ⟨a, ha⟩ | ⟨hlong, hbad⟩
  · exact .inl ⟨f a, fun place => congrArg (Checked.map f) (ha place)⟩
  · refine .inr ⟨hlong, fun place => ?_⟩
    obtain ⟨issues, heq, hkinds⟩ := (hbad place).exists_eq
    dsimp only
    rw [heq]
    exact hkinds

/-- Two lenient checks one after the other are lenient: the issues of
both are issues of one kind. -/
theorem Lenient.app {value : Json} {check : List Place → Checked (α → β)}
    {more : List Place → Checked α} (h : Lenient value check) (hmore : Lenient value more) :
    Lenient value fun place => (check place).app (more place) := by
  rcases h with ⟨f, hf⟩ | ⟨hlong, hbad⟩
  · rcases hmore with ⟨a, ha⟩ | ⟨hlong, hbad⟩
    · exact .inl ⟨f a, fun place => congrArg₂ Checked.app (hf place) (ha place)⟩
    · refine .inr ⟨hlong, fun place => ?_⟩
      obtain ⟨issues, heq, hkinds⟩ := (hbad place).exists_eq
      dsimp only
      rw [hf, heq]
      exact hkinds
  · refine .inr ⟨hlong, fun place => ?_⟩
    obtain ⟨issues, heq, hkinds⟩ := (hbad place).exists_eq
    dsimp only
    rw [heq]
    rcases hmore with ⟨a, ha⟩ | ⟨_, hworse⟩
    · rw [ha]
      exact hkinds
    · obtain ⟨others, heq', hkinds'⟩ := (hworse place).exists_eq
      rw [heq']
      exact fun issue hissue => (List.mem_append.mp hissue).elim (hkinds issue) (hkinds' issue)

/-- Items that are all taken make the list of what they are taken
as. -/
theorem each_ok {ι : Type} {item : List Place → ι → Checked α} {values : List ι}
    {as : List α} (h : List.Forall₂ (fun value a => ∀ place, item place value = .ok a) values as)
    (place : List Place) (n : Nat) : Checked.each place item n values = .ok as := by
  induction h generalizing n with
  | nil => rfl
  | cons hitem _ ih =>
      rw [Checked.each, hitem, ih]
      rfl

/-- Items that are checked leniently make a list that is, with the issues of
all of them. Induction on the items, whose places are numbered. -/
theorem Lenient.each {ι : Type} {value : Json} {item : List Place → ι → Checked α}
    {values : List ι} (h : ∀ x ∈ values, Lenient value fun place => item place x) (n : Nat) :
    Lenient value fun place => Checked.each place item n values := by
  induction values generalizing n with
  | nil => exact .inl ⟨[], fun _ => rfl⟩
  | cons x values ih =>
      rw [List.forall_mem_cons] at h
      have hfirst : Lenient value fun place =>
          (item (place ++ [.index n]) x).map List.cons := by
        rcases h.1 with ⟨a, ha⟩ | ⟨hlong, hbad⟩
        · exact Lenient.map (.inl ⟨a, fun place => ha _⟩) _
        · exact Lenient.map (.inr ⟨hlong, fun place => hbad _⟩) _
      exact hfirst.app (ih h.2 (n + 1))

end Checked

namespace RecordType

/-- Members hold the record `a`. -/
def Reads (r : RecordType α) (members : Json.Members) (a : α) : Prop :=
  ∀ place : List Place, r.ofMembers place members = .ok a

/-- No members are refused but for integers that are too long. -/
def IsLenient (r : RecordType α) : Prop :=
  ∀ members : Json.Members,
    Checked.Lenient (.obj members) fun place => r.ofMembers place members

/-- Members that hold a record are read as that record by
themselves. -/
theorem Reads.ofJson {r : RecordType α} {members : Json.Members} {a : α}
    (h : r.Reads members a) : r.ofJson (.obj members) = .ok a := by
  rw [RecordType.ofJson, check, h]
  rfl

/-- Members that can be written hold a record. This is what leniency is for:
nothing else is asked of them. -/
theorem IsLenient.exists_reads {r : RecordType α} (h : r.IsLenient) {members : Json.Members}
    (hmembers : (Json.obj members).isWritable = true) : ∃ a, r.Reads members a := by
  rcases h members with hreads | ⟨hlong, _⟩
  · exact hreads
  · exact absurd hlong (by simp [hmembers])

/-- An object is taken as a record by itself if it can be written. If it
is refused, then for integers that are too long and nothing else. -/
structure TakesObjects (r : RecordType α) : Prop where
  ok_of_isWritable : ∀ members : Json.Members, (Json.obj members).isWritable = true →
    ∃ a, r.ofJson (.obj members) = .ok a
  kind_of_error : ∀ (members : Json.Members) (rejection : Rejection),
    r.ofJson (.obj members) = .error rejection →
      ∀ issue ∈ rejection.issues, issue.kind = Leaf.integerTooLong

/-- A lenient record type takes every object, if all integers in it can be
written out. -/
theorem IsLenient.takesObjects {r : RecordType α} (h : r.IsLenient) : r.TakesObjects where
  ok_of_isWritable members hmembers := by
    obtain ⟨a, ha⟩ := h.exists_reads hmembers
    exact ⟨a, ha.ofJson⟩
  kind_of_error members rejection herror := by
    replace herror : (r.ofMembers [] members).toExcept r.title = .error rejection := herror
    rcases h members with ⟨a, ha⟩ | ⟨_, hbad⟩
    · have hok : r.ofMembers [] members = .ok a := ha []
      rw [hok] at herror
      cases herror
    · obtain ⟨issues, heq, hkinds⟩ := (hbad []).exists_eq
      dsimp only at heq
      rw [heq] at herror
      obtain rfl := Except.error.inj herror
      exact hkinds

/-- Members whose first stage succeeds hold the record that the second
stage gives. -/
theorem reads_of_settle {r : RecordType α} {members settled : Json.Members} {a : α}
    (hsettle : settle r.fields.coercions members = .ok settled)
    (hcheck : ∀ place, r.fields.check place settled = .ok a) : r.Reads members a := by
  intro place
  rw [ofMembers, hsettle]
  exact hcheck place

/-- The first stage of members that hold a record succeeds: a coercion that
fails would have kept the record from being read. -/
theorem Reads.exists_settle {r : RecordType α} {members : Json.Members} {a : α}
    (h : r.Reads members a) : ∃ settled, settle r.fields.coercions members = .ok settled := by
  have hread := h []
  rw [ofMembers] at hread
  cases hsettle : settle r.fields.coercions members with
  | ok settled => exact ⟨settled, rfl⟩
  | error kind =>
      rw [hsettle] at hread
      cases hread

end RecordType

/-! ### Types of fields -/

namespace FieldType

/-- A value is read as `a`. -/
def Reads (type : FieldType α) (value : Json) (a : α) : Prop :=
  ∃ settled, type.coerce value = .ok (some settled) ∧ ∀ place, type.check place settled = .ok a

/-- Nothing is refused but for integers that are too long: neither does
the coercion fail for another reason, nor is anything else wrong with
what it leaves. -/
structure IsLenient (type : FieldType α) : Prop where
  converts : ∀ value : Json, (∃ kept?, type.coerce value = .ok kept?)
    ∨ value.isWritable = false ∧ type.coerce value = .error Leaf.integerTooLong
  checks : ∀ value settled : Json, type.coerce value = .ok (some settled) →
    Checked.Lenient value fun place => type.check place settled

/-- A text reads a value as the text that it has. The text that is put in
its place is then accepted as it is. -/
theorem reads_text {value : Json} {t : Text} (h : Leaf.text value = .ok t) :
    text.Reads value t := by
  refine ⟨.str t, ?_, fun _ => rfl⟩
  show (Leaf.text value).map _ = _
  rw [h]
  rfl

/-- So does a text that may be absent. It is absent only if nothing stands
there, or `null`. -/
theorem reads_text? {value : Json} {t : Text} (h : Leaf.text value = .ok t) :
    text?.Reads value (some t) := by
  refine ⟨.str t, ?_, fun _ => rfl⟩
  show (Leaf.text value).map _ = _
  rw [h]
  rfl

/-- A flag reads any value. -/
theorem reads_flag (value : Json) : flag.Reads value (Leaf.flag value) :=
  ⟨_, rfl, fun _ => rfl⟩

/-- Every word for an access names it. -/
theorem accessOfWord_word (access : Access) : accessOfWord access.word = .ok access := by
  cases access <;> rfl

/-- An access reads a value by the word that it shows, which is one of
three. -/
theorem reads_access {value : Json} {a : Access} (h : Leaf.accessWord value = .ok a.word) :
    access.Reads value a := by
  refine ⟨value, rfl, fun place => ?_⟩
  show Checked.ofField place ((Leaf.accessWord value).bind accessOfWord) = .ok a
  rw [h]
  show Checked.ofField place (accessOfWord a.word) = .ok a
  rw [accessOfWord_word]
  rfl

/-- A list of texts reads a value as the texts that it has, which were made
in the first stage and are taken as they are in the second. -/
theorem reads_texts {value : Json} {ts : List Text} (h : Leaf.texts value = .ok ts) :
    texts.Reads value ts := by
  refine ⟨.arr (ts.map .str), ?_, fun place => ?_⟩
  · show (Leaf.texts value).map _ = _
    rw [h]
    rfl
  · show Checked.ofItems place Lax.text ((ts.map .str).map Json.toLoose) = _
    refine Checked.each_ok ?_ place 0
    clear h
    induction ts with
    | nil => exact .nil
    | cons t ts ih => exact .cons (fun _ => rfl) ih

/-- A value that stands for the members of records is read as the
records that they hold. -/
theorem reads_records {bare : Label} {r : RecordType α} {value : Json} {as : List α}
    (h : List.Forall₂ r.Reads (Leaf.records bare value) as) :
    (records bare r).Reads value as := by
  refine ⟨_, rfl, fun place => ?_⟩
  show Checked.each place r.check 0 ((Leaf.records bare value).map .obj) = .ok as
  refine Checked.each_ok ?_ place 0
  rw [List.forall₂_map_left_iff]
  exact h

/-- A value that stands for the members of a record is read as the
record that they hold. -/
theorem reads_record? {bare : Label} {r : RecordType α} {value : Json} {members : Json.Members}
    {a : α} (hvalue : Leaf.members? bare value = some members) (h : r.Reads members a) :
    (record? bare r).Reads value (some a) := by
  refine ⟨.obj members, ?_, fun place => ?_⟩
  · show Except.ok ((Leaf.members? bare value).map Json.obj) = _
    rw [hvalue]
    rfl
  · show (r.ofMembers place members).map some = _
    rw [h]
    rfl

/-! ### No value is refused for another reason -/

/-- A type whose coercion gives one value or fails, and that reads what
the coercion gives, is lenient. -/
theorem isLenient_of_reads {type : FieldType α}
    (h : ∀ value, (∃ a, type.Reads value a)
      ∨ value.isWritable = false ∧ type.coerce value = .error Leaf.integerTooLong) :
    type.IsLenient where
  converts value := by
    refine (h value).imp_left fun hreads => ?_
    obtain ⟨a, settled, hcoerce, _⟩ := hreads
    exact ⟨some settled, hcoerce⟩
  checks value settled hcoerce := by
    rcases h value with ⟨a, settled', hcoerce', hcheck⟩ | ⟨_, herror⟩
    · have heq : settled' = settled := by simpa using hcoerce'.symm.trans hcoerce
      exact .inl ⟨a, heq ▸ hcheck⟩
    · exact nomatch herror.symm.trans hcoerce

/-- A text refuses nothing that can be written: a string is one, and other
values are written as JSON. -/
theorem isLenient_text : text.IsLenient := by
  refine isLenient_of_reads fun value => ?_
  rcases Leaf.text_cases value with ⟨t, ht⟩ | ⟨hlong, herror⟩
  · exact .inl ⟨t, reads_text ht⟩
  · exact .inr ⟨hlong, congrArg (Except.map fun t => some (Json.str t)) herror⟩

/-- A text that may be absent refuses nothing that can be written. What is
`null` stays so, and then it is absent. -/
theorem isLenient_text? : text?.IsLenient := by
  refine isLenient_of_reads fun value => ?_
  rcases Leaf.text_cases value with ⟨t, ht⟩ | ⟨hlong, herror⟩
  · exact .inl ⟨some t, reads_text? ht⟩
  · exact .inr ⟨hlong, congrArg (Except.map fun t => some (Json.str t)) herror⟩

/-- Every value is a truth value, and none of them has to be written for
that. -/
theorem isLenient_flag : flag.IsLenient :=
  isLenient_of_reads fun value => .inl ⟨_, reads_flag value⟩

/-- An access is converted in the second stage only, so there its
integers are too long. -/
theorem isLenient_access : access.IsLenient where
  converts value := .inl ⟨some value, rfl⟩
  checks value settled hcoerce := by
    have heq : value = settled := by simpa using (Except.ok.inj hcoerce)
    subst heq
    rcases Leaf.accessWord_cases value with ⟨a, ha⟩ | ⟨hlong, herror⟩
    · obtain ⟨settled, hsettled, hcheck⟩ := reads_access ha
      obtain rfl : value = settled := by simpa using Except.ok.inj (hcoerce.symm.trans hsettled)
      exact .inl ⟨a, hcheck⟩
    · refine .inr ⟨hlong, fun place => ?_⟩
      show (Checked.ofField place ((Leaf.accessWord value).bind accessOfWord)).IsTooLong
      rw [herror]
      exact List.forall_mem_singleton.mpr rfl

/-- A list of texts takes any value, also one that is no list. It fails only
at an integer that cannot be written out. -/
theorem isLenient_texts : texts.IsLenient := by
  refine isLenient_of_reads fun value => ?_
  rcases Leaf.texts_cases value with ⟨ts, hts⟩ | ⟨hlong, herror⟩
  · exact .inl ⟨ts, reads_texts hts⟩
  · refine .inr ⟨hlong, ?_⟩
    show (Leaf.texts value).map _ = _
    rw [herror]
    rfl

/-- Members of several records that can be written hold records, if
their type is lenient. -/
theorem exists_forall₂_reads {r : RecordType α} (hr : r.IsLenient) {records : List Json.Members}
    (h : ∀ members ∈ records, (Json.obj members).isWritable = true) :
    ∃ as, List.Forall₂ r.Reads records as := by
  induction records with
  | nil => exact ⟨[], .nil⟩
  | cons members more ih =>
      rw [List.forall_mem_cons] at h
      obtain ⟨a, ha⟩ := hr.exists_reads h.1
      obtain ⟨as, has⟩ := ih h.2
      exact ⟨a :: as, .cons ha has⟩

/-- A list of records is as lenient as their own type: what is no object
and stands for none is not kept. -/
theorem isLenient_records (bare : Label) {r : RecordType α} (hr : r.IsLenient) :
    (records bare r).IsLenient where
  converts value := .inl ⟨_, rfl⟩
  checks value settled hcoerce := by
    have heq : Json.arr ((Leaf.records bare value).map .obj) = settled := by
      simpa using Except.ok.inj hcoerce
    subst heq
    show Checked.Lenient value fun place =>
      Checked.each place r.check 0 ((Leaf.records bare value).map .obj)
    refine Checked.Lenient.each (fun item hitem => ?_) 0
    obtain ⟨members, hmembers, rfl⟩ := List.mem_map.mp hitem
    exact (hr members).of_part fun hvalue => Leaf.isWritable_of_mem_records _ hvalue _ hmembers

/-- So is a record that may be absent. What stands for no record is dropped,
and then it is absent. -/
theorem isLenient_record? (bare : Label) {r : RecordType α} (hr : r.IsLenient) :
    (record? bare r).IsLenient where
  converts value := .inl ⟨_, rfl⟩
  checks value settled hcoerce := by
    obtain ⟨members, hmembers, rfl⟩ := Option.map_eq_some_iff.mp (Except.ok.inj hcoerce)
    show Checked.Lenient value fun place => (r.ofMembers place members).map some
    exact ((hr members).map some).of_part (Leaf.isWritable_of_members? hmembers)

end FieldType

/-! ### Fields and records -/

namespace Fields

/-- Settled members give the value `a`. -/
def Give (fields : Fields α) (settled : Json.Members) (a : α) : Prop :=
  ∀ place : List Place, fields.check place settled = .ok a

/-- Fields give what they give, and a function is applied to it. The
function has nothing to do with the members. -/
theorem give_map (f : α → β) {fields : Fields α} {settled : Json.Members} {a : α}
    (h : fields.Give settled a) : (f <$> fields).Give settled (f a) := by
  intro place
  show (fields.check place settled).map f = .ok (f a)
  rw [h place]
  rfl

/-- One more field gives its value to what the fields before give. Each of
the two looks at the members by itself. -/
theorem give_seq {fields : Fields (α → β)} {more : Fields α} {settled : Json.Members} {f : α → β}
    {a : α} (hf : fields.Give settled f) (ha : more.Give settled a) :
    (fields <*> more).Give settled (f a) := by
  intro place
  show (fields.check place settled).app (more.check place settled) = .ok (f a)
  rw [hf place, ha place]
  rfl

/-- A field that is not there has its default. -/
theorem give_field_of_none {l : Label} {type : FieldType α} {default : α} {settled : Json.Members}
    (h : l.locate? settled = none) : (l.field type default).Give settled default := by
  intro place
  simp only [Label.field, h]

/-- A field that is there has the value that is found of it, in whatever
place it is checked. -/
theorem give_field_of_some {l : Label} {type : FieldType α} {default a : α}
    {settled : Json.Members} {spelling : Text} {value : Json}
    (h : l.locate? settled = some (spelling, value))
    (hcheck : ∀ place, type.check place value = .ok a) :
    (l.field type default).Give settled a := by
  intro place
  simp only [Label.field, h]
  exact hcheck _

/-- Members are refused by these fields, settled along with others, for
nothing but integers that are too long. -/
structure IsLenient (fields : Fields α) : Prop where
  converts : ∀ field ∈ fields.coercions, ∀ value : Json, (∃ kept?, field.2 value = .ok kept?)
    ∨ value.isWritable = false ∧ field.2 value = .error Leaf.integerTooLong
  checks : ∀ coercions, fields.coercions ⊆ coercions → (spellingsOf coercions).Nodup →
    ∀ members settled : Json.Members, settle coercions members = .ok settled →
      Checked.Lenient (.obj members) fun place => fields.check place settled

/-- A function applied to what fields give refuses nothing, as it has no way
to refuse. -/
theorem isLenient_map (f : α → β) {fields : Fields α} (h : fields.IsLenient) :
    (f <$> fields).IsLenient where
  converts := h.converts
  checks coercions hsub hdistinct members settled hsettle :=
    (h.checks coercions hsub hdistinct members settled hsettle).map f

/-- Fields together are lenient if each of them is. Issues of several fields
come together, and all of them are about integers. -/
theorem isLenient_seq {fields : Fields (α → β)} {more : Fields α} (hf : fields.IsLenient)
    (ha : more.IsLenient) : (fields <*> more).IsLenient where
  converts field hfield := (List.mem_append.mp hfield).elim (hf.converts field) (ha.converts field)
  checks coercions hsub hdistinct members settled hsettle := by
    have hsub' : fields.coercions ++ more.coercions ⊆ coercions := hsub
    rw [List.append_subset] at hsub'
    exact (hf.checks coercions hsub'.1 hdistinct members settled hsettle).app
      (ha.checks coercions hsub'.2 hdistinct members settled hsettle)

/-- A field that is absent has its default, and what the second stage
finds of it comes from the first one. -/
theorem isLenient_field (l : Label) {type : FieldType α} (default : α) (h : type.IsLenient) :
    (l.field type default).IsLenient where
  converts field hfield := List.mem_singleton.mp hfield ▸ h.converts
  checks coercions hsub hdistinct members settled hsettle := by
    have hfield : (l, type.coerce) ∈ coercions := hsub (List.mem_singleton_self _)
    cases hlocate : l.locate? settled with
    | none => exact .inl ⟨default, give_field_of_none hlocate⟩
    | some found =>
        -- It was coerced by its own field, since no other has its spelling.
        obtain ⟨m, hm, _, hcoerce⟩ := coerced_of_locate? hdistinct hsettle hfield hlocate
        have hpart : (Json.obj members).isWritable = true → m.2.isWritable = true :=
          fun hmembers => Json.isWritable_obj.mp hmembers m hm
        have hchecked := (h.checks m.2 found.2 hcoerce).of_part hpart
        rcases hchecked with ⟨a, ha⟩ | ⟨hlong, hbad⟩
        · exact .inl ⟨a, give_field_of_some hlocate ha⟩
        · refine .inr ⟨hlong, fun place => ?_⟩
          simp only [Label.field, hlocate]
          exact hbad _

/-- The first field of a record. -/
theorem IsLenient.first {f : α → β} {l : Label} {type : FieldType α} {default : α}
    (h : type.IsLenient) : (f <$> l.field type default).IsLenient :=
  isLenient_map f (isLenient_field l default h)

/-- One more field of a record. -/
theorem IsLenient.next {fields : Fields (α → β)} {l : Label} {type : FieldType α} {default : α}
    (hfields : fields.IsLenient) (h : type.IsLenient) :
    (fields <*> l.field type default).IsLenient :=
  isLenient_seq hfields (isLenient_field l default h)

end Fields

/-- A record type is lenient if its fields have spellings of their own
and are. A failure of the first stage comes from the value of one of
the fields. -/
theorem RecordType.isLenient_of_fields {r : RecordType α} (hplain : r.IsPlain)
    (h : r.fields.IsLenient) : r.IsLenient := by
  intro members
  cases hsettle : settle r.fields.coercions members with
  | ok settled =>
      have hcheck := h.checks _ (List.Subset.refl _) hplain.1 members settled hsettle
      simpa only [ofMembers, hsettle] using hcheck
  | error kind =>
      obtain ⟨field, hfield, k, _, value, hvalue, herror⟩ :=
        exists_of_settle_eq_error hplain.1 hsettle
      rcases h.converts field hfield value with ⟨kept?, hkept⟩ | ⟨hlong, htoo⟩
      · exact nomatch hkept.symm.trans herror
      · obtain rfl := Except.error.inj (herror.symm.trans htoo)
        refine .inr ⟨?_, fun place => ?_⟩
        · rw [Bool.eq_false_iff]
          intro hmembers
          exact absurd (Json.isWritable_of_get?_present hmembers hvalue) (by simp [hlong])
        · simp only [ofMembers, hsettle]
          exact List.forall_mem_singleton.mpr rfl

/-! ### The record types -/

open Fields FieldType

/-- Parameters are never refused but for the length of an integer. -/
theorem ParameterDoc.isLenient : ParameterDoc.recordType.IsLenient := by
  refine RecordType.isLenient_of_fields isPlain ?_
  exact (IsLenient.first isLenient_text).next isLenient_text |>.next isLenient_text
    |>.next isLenient_flag |>.next isLenient_text?

/-- Functions are never refused but for the length of an integer. Their
parameters are looked at one by one, and dropped if they are no records. -/
theorem FunctionDoc.isLenient : FunctionDoc.recordType.IsLenient := by
  refine RecordType.isLenient_of_fields isPlain ?_
  have hparameters := isLenient_records ParameterDoc.nameLabel ParameterDoc.isLenient
  exact (IsLenient.first isLenient_text).next isLenient_text |>.next hparameters
    |>.next isLenient_text |>.next isLenient_text |>.next isLenient_texts |>.next isLenient_text

/-- Constructors are never refused but for that, as they hold parameters and
texts. -/
theorem ConstructorDoc.isLenient : ConstructorDoc.recordType.IsLenient := by
  refine RecordType.isLenient_of_fields isPlain ?_
  have hparameters := isLenient_records ParameterDoc.nameLabel ParameterDoc.isLenient
  exact (IsLenient.first isLenient_text).next hparameters |>.next isLenient_texts

/-- Properties are never refused but for that. An access that is no word for
one counts as the usual one. -/
theorem PropertyDoc.isLenient : PropertyDoc.recordType.IsLenient := by
  refine RecordType.isLenient_of_fields isPlain ?_
  exact (IsLenient.first isLenient_text).next isLenient_text |>.next isLenient_text
    |>.next isLenient_access |>.next isLenient_flag

/-- Classes are never refused but for that, with all their members. -/
theorem ClassDoc.isLenient : ClassDoc.recordType.IsLenient := by
  refine RecordType.isLenient_of_fields isPlain ?_
  have hconstructor := isLenient_record? ConstructorDoc.descriptionLabel ConstructorDoc.isLenient
  have hmethods := isLenient_records FunctionDoc.nameLabel FunctionDoc.isLenient
  have hproperties := isLenient_records PropertyDoc.nameLabel PropertyDoc.isLenient
  exact (IsLenient.first isLenient_text).next isLenient_text |>.next hconstructor
    |>.next hmethods |>.next hproperties |>.next isLenient_texts

/-- Interfaces are never refused but for that, in their properties and
methods. -/
theorem InterfaceDoc.isLenient : InterfaceDoc.recordType.IsLenient := by
  refine RecordType.isLenient_of_fields isPlain ?_
  have hproperties := isLenient_records PropertyDoc.nameLabel PropertyDoc.isLenient
  have hmethods := isLenient_records FunctionDoc.nameLabel FunctionDoc.isLenient
  exact (IsLenient.first isLenient_text).next isLenient_text |>.next hproperties |>.next hmethods

/-- Constants are never refused but for that. All of their fields are
texts. -/
theorem ConstantDoc.isLenient : ConstantDoc.recordType.IsLenient := by
  refine RecordType.isLenient_of_fields isPlain ?_
  exact (IsLenient.first isLenient_text).next isLenient_text |>.next isLenient_text
    |>.next isLenient_text

/-- Types are never refused but for that, with their lists of examples. -/
theorem TypeDoc.isLenient : TypeDoc.recordType.IsLenient := by
  refine RecordType.isLenient_of_fields isPlain ?_
  exact (IsLenient.first isLenient_text).next isLenient_text |>.next isLenient_text
    |>.next isLenient_texts

/-- So a file is not: whatever its sections hold, it is read, or an integer
in it is too long to be written out. -/
theorem FileDoc.isLenient : FileDoc.recordType.IsLenient := by
  refine RecordType.isLenient_of_fields isPlain ?_
  have hfunctions := isLenient_records FunctionDoc.nameLabel FunctionDoc.isLenient
  have hclasses := isLenient_records ClassDoc.nameLabel ClassDoc.isLenient
  have hinterfaces := isLenient_records InterfaceDoc.nameLabel InterfaceDoc.isLenient
  have hconstants := isLenient_records ConstantDoc.nameLabel ConstantDoc.isLenient
  have htypes := isLenient_records TypeDoc.nameLabel TypeDoc.isLenient
  exact (IsLenient.first isLenient_text).next hfunctions |>.next hclasses |>.next hinterfaces
    |>.next hconstants |>.next htypes |>.next isLenient_text? |>.next isLenient_text?

end DocScribe
