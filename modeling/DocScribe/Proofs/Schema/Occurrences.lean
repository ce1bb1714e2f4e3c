import DocScribe.Proofs.Schema.Describing
import Mathlib.Logic.Relation

/-!
# `DocScribe.Proofs.Schema.Occurrences`: what is spelled out where

The occurrences of records in a skeleton stand in the order of the
walk: a record that is spelled out comes before the records in it, and
these before those of the next field. Of each record the first
occurrence is spelled out and any other refers to that one by its key
(`Described.shown`). The invariant is that the table of records seen
is the first occurrences so far, next to what was in it at the
beginning.

The table is empty at first and so does not hold the record that the
description is of. This one is spelled out once more if it is met in
itself, and only then is it in the table.

`describe_spec` is the main statement.
-/

set_option autoImplicit false

namespace DocScribe.Schema

variable {ρ : Type}

/-! ### Occurrences -/

/-- An occurrence of a record: the key of the field it is in, and what
stands there. -/
structure Occurrence (ρ : Type) where
  record : ρ
  key : Text
  shown : Json

mutual

/-- The records in a skeleton, in the order of the walk. -/
def Skeleton.occurrences : Skeleton ρ → List (Occurrence ρ)
  | .request _ => []
  | .list item => item.occurrences
  | .record r key entries =>
    ⟨r, key, .obj (Json.ofMembers entries.toMembers)⟩ :: entries.occurrences
  | .reference r key first => [⟨r, key, .str (reference first)⟩]

@[inherit_doc Skeleton.occurrences]
def Entries.occurrences : Entries ρ → List (Occurrence ρ)
  | .nil => []
  | .cons _ skeleton rest => skeleton.occurrences ++ rest.occurrences

end

/-- Whether a record is spelled out at an occurrence. A reference is a
text. -/
def Occurrence.isSpelledOut (o : Occurrence ρ) : Bool :=
  match o.shown with
  | .obj _ => true
  | _ => false

/-- What stands for a record: a reference to the key of its first
occurrence, or, if there was none before, one entry for each requested
field under its key. -/
def Occurrence.IsShown (family : Family ρ) (first : Option Text) (o : Occurrence ρ) : Prop :=
  match first with
  | some key => o.shown = .str (reference key)
  | none =>
    ∃ members, o.shown = .obj members ∧
      members.map (·.1) = (family.requested o.record).map fun field => field.1.key

/-! ### Records that mention others -/

/-- The record that a shape is about. -/
def Shape.target? : Shape ρ → Option ρ
  | .scalar => none
  | .list item => item.target?
  | .optional value => value.target?
  | .record r => some r

/-- A record has a requested field that is about another. -/
def Family.Mentions (family : Family ρ) (r r' : ρ) : Prop :=
  ∃ field ∈ family.requested r, field.2.target? = some r'

/-- A record is reached from another through one field or more. -/
def Family.Reaches (family : Family ρ) : ρ → ρ → Prop :=
  Relation.TransGen family.Mentions

/-- No two requested fields share a key, neither in a record nor in any
that is reached from it. Where two do, an object has one entry for
both. -/
def Family.HasDistinctKeys (family : Family ρ) (r : ρ) : Prop :=
  ∀ r', Relation.ReflTransGen family.Mentions r r' →
    ((family.requested r').map fun field => field.1.key).Nodup

/-- What a record mentions has distinct keys as the record has. -/
theorem Family.HasDistinctKeys.of_mentions {family : Family ρ} {r r' : ρ}
    (h : family.HasDistinctKeys r) (hr : family.Mentions r r') : family.HasDistinctKeys r' :=
  fun r'' hreached => h r'' (.head hr hreached)

variable [DecidableEq ρ] {family : Family ρ}

/-- The key of the first occurrence of a record. -/
def firstKey (os : List (Occurrence ρ)) (r : ρ) : Option Text :=
  (os.find? fun o => o.record = r).map (·.key)

/-- How often a record is spelled out. -/
def timesSpelledOut (os : List (Occurrence ρ)) (r : ρ) : Nat :=
  os.countP fun o => o.record = r && o.isSpelledOut

/-- The first occurrence of a record is the first in front, or else the
first behind. -/
theorem firstKey_append (os os' : List (Occurrence ρ)) (r : ρ) :
    firstKey (os ++ os') r = (firstKey os r).or (firstKey os' r) := by
  rw [firstKey, List.find?_append, firstKey, firstKey]
  cases os.find? fun o => o.record = r <;> rfl

/-- One more occurrence in front. It is the first one of its record, and
changes nothing for the others. -/
theorem firstKey_cons (o : Occurrence ρ) (os : List (Occurrence ρ)) (r : ρ) :
    firstKey (o :: os) r = if o.record = r then some o.key else firstKey os r := by
  rw [firstKey, List.find?_cons]
  by_cases h : o.record = r
  · simp [h]
  · simp [h, firstKey]

/-- There is no first occurrence exactly if there is none. -/
theorem firstKey_eq_none_iff (os : List (Occurrence ρ)) (r : ρ) :
    firstKey os r = none ↔ ∀ o ∈ os, o.record ≠ r := by
  simp [firstKey]

/-! ### First occurrences -/

/-- Occurrences that show what is to stand there after those in the
table. -/
def ShownAfter (family : Family ρ) (seen : Seen ρ) (os : List (Occurrence ρ)) : Prop :=
  ∀ before o after, os = before ++ o :: after →
    o.IsShown family ((seen.key? o.record).or (firstKey before o.record))

/-- A table with the first occurrences of some more records. -/
def Extends (seen seen' : Seen ρ) (os : List (Occurrence ρ)) : Prop :=
  ∀ r, seen'.key? r = (seen.key? r).or (firstKey os r)

/-- A table that was extended is extended by what comes next. So one field
after the other can be looked at. -/
theorem Extends.append {seen seen' seen'' : Seen ρ} {os os' : List (Occurrence ρ)}
    (h : Extends seen seen' os) (h' : Extends seen' seen'' os') :
    Extends seen seen'' (os ++ os') := by
  intro r
  rw [h' r, h r, firstKey_append, Option.or_assoc]

/-- What is shown after a table goes on after the table has been extended.
An occurrence is looked for among the first ones, and then among the later
ones, whose table knows of the first. -/
theorem ShownAfter.append {seen seen' : Seen ρ} {os os' : List (Occurrence ρ)}
    (h : ShownAfter family seen os) (hextends : Extends seen seen' os)
    (h' : ShownAfter family seen' os') : ShownAfter family seen (os ++ os') := by
  intro before o after heq
  rcases List.append_eq_append_iff.mp heq with ⟨middle, rfl, hos'⟩ | ⟨middle, hos, hafter⟩
  · -- The occurrence is one of the later ones.
    have hshown := h' middle o after hos'
    rwa [hextends, Option.or_assoc, ← firstKey_append] at hshown
  · cases middle with
    | nil =>
        have hshown := h' [] o after (by simpa using hafter.symm)
        rw [List.append_nil] at hos
        rw [← hos]
        rwa [hextends, Option.or_assoc, ← firstKey_append, List.append_nil] at hshown
    | cons o' middle =>
        obtain ⟨rfl, -⟩ := List.cons_eq_cons.mp hafter
        exact h before o middle hos

/-- One occurrence, and the table with it: the record is spelled out if the
table does not have it, and a reference otherwise. -/
theorem ShownAfter.single {seen : Seen ρ} {o : Occurrence ρ}
    (h : o.IsShown family (seen.key? o.record)) : ShownAfter family seen [o] := by
  intro before o' after heq
  cases before with
  | nil =>
      obtain ⟨rfl, -⟩ := List.cons_eq_cons.mp heq
      rwa [show firstKey [] o.record = none from rfl, Option.or_none]
  | cons b before =>
      exact absurd (congrArg List.length heq) (by simp)

/-- A record that has been seen is not entered again, so its first
occurrence stays the first. -/
theorem Extends.again {seen : Seen ρ} {r : ρ} {key first : Text} {shown : Json}
    (h : seen.key? r = some first) : Extends seen seen [⟨r, key, shown⟩] := by
  intro r'
  rw [firstKey_cons]
  by_cases hr : r = r'
  · rw [← hr, h]
    rfl
  · rw [if_neg hr, show firstKey [] r' = none from rfl, Option.or_none]

/-- A record that has not been seen is entered under the key at which it is.
Of all other records the table says what it said before. -/
theorem Extends.new {seen : Seen ρ} {r : ρ} {key : Text} {shown : Json}
    (h : seen.key? r = none) : Extends seen ((r, key) :: seen) [⟨r, key, shown⟩] := by
  intro r'
  rw [firstKey_cons, Seen.key?_cons]
  by_cases hr : r = r'
  · rw [if_pos hr, if_pos hr, ← hr, h]
    rfl
  · rw [if_neg hr, if_neg hr, show firstKey [] r' = none from rfl, Option.or_none]

/-- Entries under distinct keys are all left. None of them takes the place
of another, and so they stay in the order of the fields. -/
theorem Described.ofMembers_eq {fields : List (Label × Shape ρ)} {seen seen' : Seen ρ}
    {entries : Entries ρ} (h : Described family fields seen entries seen')
    (hnodup : (fields.map fun field => field.1.key).Nodup) :
    Json.ofMembers entries.toMembers = entries.toMembers := by
  refine Json.ofMembers_of_nodup ?_
  rw [Json.Members.keys, h.keys_eq]
  exact hnodup

/-- In a walk a record stands as it is to stand after those seen before
it, and the walk puts first occurrences into the table. The keys of all
records on the way are distinct, or an entry that is walked through
might not be left. -/
theorem Described.shown {fields : List (Label × Shape ρ)} {seen seen' : Seen ρ}
    {entries : Entries ρ} (h : Described family fields seen entries seen')
    (hdistinct : ∀ field ∈ fields, ∀ r, field.2.target? = some r → family.HasDistinctKeys r) :
    ShownAfter family seen entries.occurrences ∧ Extends seen seen' entries.occurrences := by
  induction h with
  | nil =>
      refine ⟨fun before o after heq => ?_, fun r => (Option.or_none).symm⟩
      exact absurd heq (by simp [Entries.occurrences])
  | scalar _ ih => exact ih (List.forall_mem_cons.mp hdistinct).2
  | list _ ih =>
      obtain ⟨hitem, hrest⟩ := List.forall_mem_cons.mp hdistinct
      exact ih (List.forall_mem_cons.mpr ⟨hitem, hrest⟩)
  | optional _ ih =>
      obtain ⟨hvalue, hrest⟩ := List.forall_mem_cons.mp hdistinct
      exact ih (List.forall_mem_cons.mpr ⟨hvalue, hrest⟩)
  | again known _ ih =>
      have hrest := ih (List.forall_mem_cons.mp hdistinct).2
      refine ⟨(ShownAfter.single ?_).append (.again known) hrest.1,
        Extends.append (.again known) hrest.2⟩
      rw [known]
      rfl
  | @new _ r _ _ _ _ _ _ unknown inside _ ihinside ihrest =>
      obtain ⟨hhere, hbehind⟩ := List.forall_mem_cons.mp hdistinct
      have hr : family.HasDistinctKeys r := hhere r rfl
      have hnested := ihinside fun field hfield r' hr' => hr.of_mentions ⟨field, hfield, hr'⟩
      have hrest := ihrest hbehind
      -- First the record itself, then what occurs in it, then what stands behind it.
      refine ⟨ShownAfter.append ((ShownAfter.single ?_).append (.new unknown) hnested.1)
        (Extends.append (.new unknown) hnested.2) hrest.1,
        Extends.append (Extends.append (.new unknown) hnested.2) hrest.2⟩
      rw [unknown]
      exact ⟨_, congrArg Json.obj (inside.ofMembers_eq (hr r .refl)), inside.keys_eq⟩

/-- The walk through the fields of a record shows what is to stand
there. -/
theorem Described.shown_of_root {root : ρ} {seen : Seen ρ} {entries : Entries ρ}
    (h : Described family (family.requested root) [] entries seen)
    (hdistinct : family.HasDistinctKeys root) : ShownAfter family [] entries.occurrences :=
  (h.shown fun field hfield _ hr => hdistinct.of_mentions ⟨field, hfield, hr⟩).1

/-! ### How often a record is spelled out -/

/-- With an empty table at first, each record that occurs is spelled
out once, at its first occurrence. -/
theorem ShownAfter.timesSpelledOut_eq {os : List (Occurrence ρ)} (h : ShownAfter family [] os)
    (r : ρ) : timesSpelledOut os r = if ∃ o ∈ os, o.record = r then 1 else 0 := by
  split
  · next hoccurs =>
    obtain ⟨o, hfind⟩ : ∃ o, (os.find? fun o => o.record = r) = some o := by
      refine Option.isSome_iff_exists.mp (List.find?_isSome.mpr ?_)
      obtain ⟨o, hmem, hr⟩ := hoccurs
      exact ⟨o, hmem, by simpa using hr⟩
    obtain ⟨hr, before, after, rfl, hbefore⟩ := List.find?_eq_some_iff_append.mp hfind
    simp only [decide_eq_true_eq] at hr
    have hnone : ∀ p ∈ before, p.record ≠ r := fun p hp => by simpa using hbefore p hp
    -- Nothing before is the record, and everything behind refers to it.
    have hfirst : (o.record = r && o.isSpelledOut) = true := by
      have hshown := h before o after rfl
      rw [hr, (firstKey_eq_none_iff before r).mpr hnone] at hshown
      obtain ⟨members, hmembers, -⟩ := hshown
      simp [hr, Occurrence.isSpelledOut, hmembers]
    have hlater : ∀ p ∈ after, ¬ (p.record = r && p.isSpelledOut) = true := by
      intro p hp hspelled
      obtain ⟨hpr, hspelled⟩ := Bool.and_eq_true_iff.mp hspelled
      simp only [decide_eq_true_eq] at hpr
      obtain ⟨inner, rest, rfl⟩ := List.append_of_mem hp
      have hshown := h (before ++ o :: inner) p rest (by simp)
      rw [hpr, firstKey_append, (firstKey_eq_none_iff before r).mpr hnone, firstKey_cons,
        if_pos hr] at hshown
      rw [Occurrence.isSpelledOut, show p.shown = _ from hshown] at hspelled
      exact nomatch hspelled
    have hzero : before.countP (fun p => p.record = r && p.isSpelledOut) = 0 :=
      List.countP_eq_zero.mpr fun p hp => by simp [hnone p hp]
    rw [timesSpelledOut, List.countP_append, List.countP_cons, hzero,
      List.countP_eq_zero.mpr hlater, if_pos hfirst]
  · next hnever =>
    refine List.countP_eq_zero.mpr fun o hmem => ?_
    have hr : o.record ≠ r := fun hr => hnever ⟨o, hmem, hr⟩
    simp [hr]

/-! ### Which records occur -/

/-- A record that a field is about occurs, spelled out or as a reference.
Induction on the walk, up to the field. -/
theorem Described.mem_occurrences {fields : List (Label × Shape ρ)} {seen seen' : Seen ρ}
    {entries : Entries ρ} (h : Described family fields seen entries seen')
    {field : Label × Shape ρ} (hfield : field ∈ fields) {r : ρ} (hr : field.2.target? = some r) :
    ∃ o ∈ entries.occurrences, o.record = r := by
  induction h generalizing field with
  | nil => exact absurd hfield List.not_mem_nil
  | scalar _ ih =>
      rcases List.mem_cons.mp hfield with rfl | hfield
      · exact nomatch hr
      · exact ih hfield hr
  | list _ ih =>
      rcases List.mem_cons.mp hfield with rfl | hfield
      · exact ih List.mem_cons_self hr
      · exact ih (List.mem_cons_of_mem _ hfield) hr
  | optional _ ih =>
      rcases List.mem_cons.mp hfield with rfl | hfield
      · exact ih List.mem_cons_self hr
      · exact ih (List.mem_cons_of_mem _ hfield) hr
  | again _ _ ih =>
      rcases List.mem_cons.mp hfield with rfl | hfield
      · exact ⟨_, List.mem_cons_self, Option.some.inj hr⟩
      · obtain ⟨o, hmem, hrecord⟩ := ih hfield hr
        exact ⟨o, List.mem_cons_of_mem _ hmem, hrecord⟩
  | new _ _ _ _ ih =>
      rcases List.mem_cons.mp hfield with rfl | hfield
      · exact ⟨_, List.mem_cons_self, Option.some.inj hr⟩
      · obtain ⟨o, hmem, hrecord⟩ := ih hfield hr
        exact ⟨o, List.mem_append_right _ hmem, hrecord⟩

/-- The records that one spelled out mentions occur, since its fields are
walked through right there. -/
theorem Described.mem_occurrences_of_mentions {fields : List (Label × Shape ρ)}
    {seen seen' : Seen ρ} {entries : Entries ρ}
    (h : Described family fields seen entries seen') {o : Occurrence ρ}
    (ho : o ∈ entries.occurrences) (hspelled : o.isSpelledOut = true) {r : ρ}
    (hr : family.Mentions o.record r) : ∃ p ∈ entries.occurrences, p.record = r := by
  induction h with
  | nil => exact absurd ho List.not_mem_nil
  | scalar _ ih => exact ih ho
  | list _ ih => exact ih ho
  | optional _ ih => exact ih ho
  | again _ _ ih =>
      rcases List.mem_cons.mp ho with rfl | ho
      · exact nomatch hspelled
      · obtain ⟨p, hmem, hrecord⟩ := ih ho
        exact ⟨p, List.mem_cons_of_mem _ hmem, hrecord⟩
  | new _ inside _ ihinside ihrest =>
      rcases List.mem_append.mp ho with ho | ho
      · rcases List.mem_cons.mp ho with rfl | ho
        · obtain ⟨field, hfield, htarget⟩ := hr
          obtain ⟨p, hmem, hrecord⟩ := inside.mem_occurrences hfield htarget
          exact ⟨p, List.mem_append_left _ (List.mem_cons_of_mem _ hmem), hrecord⟩
        · obtain ⟨p, hmem, hrecord⟩ := ihinside ho
          exact ⟨p, List.mem_append_left _ (List.mem_cons_of_mem _ hmem), hrecord⟩
      · obtain ⟨p, hmem, hrecord⟩ := ihrest ho
        exact ⟨p, List.mem_append_right _ hmem, hrecord⟩

/-- A record that occurs is reached from what a field is about, by mentions
of one record in another. Induction on the walk; an occurrence inside of a
record is one mention further. -/
theorem Described.reaches_of_mem {fields : List (Label × Shape ρ)} {seen seen' : Seen ρ}
    {entries : Entries ρ} (h : Described family fields seen entries seen') {o : Occurrence ρ}
    (ho : o ∈ entries.occurrences) :
    ∃ field ∈ fields, ∃ r, field.2.target? = some r ∧
      Relation.ReflTransGen family.Mentions r o.record := by
  induction h with
  | nil => exact absurd ho List.not_mem_nil
  | scalar _ ih =>
      obtain ⟨field, hfield, hreached⟩ := ih ho
      exact ⟨field, List.mem_cons_of_mem _ hfield, hreached⟩
  | list _ ih =>
      obtain ⟨field, hfield, hreached⟩ := ih ho
      rcases List.mem_cons.mp hfield with rfl | hfield
      · exact ⟨_, List.mem_cons_self, hreached⟩
      · exact ⟨field, List.mem_cons_of_mem _ hfield, hreached⟩
  | optional _ ih =>
      obtain ⟨field, hfield, hreached⟩ := ih ho
      rcases List.mem_cons.mp hfield with rfl | hfield
      · exact ⟨_, List.mem_cons_self, hreached⟩
      · exact ⟨field, List.mem_cons_of_mem _ hfield, hreached⟩
  | again _ _ ih =>
      rcases List.mem_cons.mp ho with rfl | ho
      · exact ⟨_, List.mem_cons_self, _, rfl, .refl⟩
      · obtain ⟨field, hfield, hreached⟩ := ih ho
        exact ⟨field, List.mem_cons_of_mem _ hfield, hreached⟩
  | new _ _ _ ihinside ihrest =>
      rcases List.mem_append.mp ho with ho | ho
      · rcases List.mem_cons.mp ho with rfl | ho
        · exact ⟨_, List.mem_cons_self, _, rfl, .refl⟩
        · -- What occurs inside is reached from a field of the record.
          obtain ⟨field, hfield, r, hr, hreached⟩ := ihinside ho
          exact ⟨_, List.mem_cons_self, _, rfl, .head ⟨field, hfield, hr⟩ hreached⟩
      · obtain ⟨field, hfield, hreached⟩ := ihrest ho
        exact ⟨field, List.mem_cons_of_mem _ hfield, hreached⟩

/-- The records in the skeleton of a record are those that are reached
from it. -/
theorem Described.exists_mem_iff {root : ρ} {seen : Seen ρ} {entries : Entries ρ}
    (h : Described family (family.requested root) [] entries seen)
    (hdistinct : family.HasDistinctKeys root) (r : ρ) :
    (∃ o ∈ entries.occurrences, o.record = r) ↔ family.Reaches root r := by
  constructor
  · rintro ⟨o, ho, rfl⟩
    obtain ⟨field, hfield, r, hr, hreached⟩ := h.reaches_of_mem ho
    exact Relation.TransGen.head' ⟨field, hfield, hr⟩ hreached
  · intro hreached
    -- What occurs is spelled out somewhere, and so all it mentions occurs.
    induction hreached with
    | single hr =>
        obtain ⟨field, hfield, htarget⟩ := hr
        exact h.mem_occurrences hfield htarget
    | @tail r _ _ hr ih =>
        have honce := (h.shown_of_root hdistinct).timesSpelledOut_eq r
        rw [if_pos ih] at honce
        obtain ⟨o, ho, hspelled⟩ :=
          List.countP_pos_iff.mp (Nat.lt_of_lt_of_eq Nat.one_pos honce.symm)
        obtain ⟨hrecord, hspelled⟩ := Bool.and_eq_true_iff.mp hspelled
        simp only [decide_eq_true_eq] at hrecord
        exact h.mem_occurrences_of_mentions ho hspelled (hrecord ▸ hr)

/-! ### The description of a record -/

/-- The description of a record ends, in one way, whatever records
contain each other and whatever keys they share. It is an object, and
of the entries that the walk has under one key the last is left in it.

Where keys are distinct, all entries are left: one for each requested
field, under its key and in the order of the fields. Of every record in
the description the first occurrence is such an object too, and any
other refers to the key of the first. The records that are reached are
each spelled out in it once, and no other is, so with the whole
description the root is spelled out twice at most. -/
theorem describe_spec (family : Family ρ) (root : ρ) :
    ∃ entries : Entries ρ,
      ((∃ seen, Described family (family.requested root) [] entries seen) ∧
        ∀ other seen, Described family (family.requested root) [] other seen → other = entries) ∧
      describe family root = .obj (Json.ofMembers entries.toMembers) ∧
      (family.HasDistinctKeys root →
        describe family root = .obj entries.toMembers ∧
        entries.toMembers.map (·.1) = ((family.requested root).map fun field => field.1.key) ∧
        (∀ before o after, entries.occurrences = before ++ o :: after →
          o.IsShown family (firstKey before o.record)) ∧
        (∀ r, (∃ o ∈ entries.occurrences, o.record = r) ↔ family.Reaches root r) ∧
        (∀ r, family.Reaches root r → timesSpelledOut entries.occurrences r = 1) ∧
        timesSpelledOut (⟨root, [], describe family root⟩ :: entries.occurrences) root ≤ 2) := by
  obtain ⟨entries, seen, hwalk, hdescribe⟩ := exists_described family root
  refine ⟨entries, ⟨⟨seen, hwalk⟩, fun other seen' hother => (hother.unique hwalk).1⟩, hdescribe,
    fun hdistinct => ?_⟩
  have hshown := hwalk.shown_of_root hdistinct
  have htimes := hshown.timesSpelledOut_eq
  have hoccurs := hwalk.exists_mem_iff hdistinct
  refine ⟨?_, hwalk.keys_eq, fun before o after heq => ?_, hoccurs, fun r hr => ?_, ?_⟩
  · rw [hdescribe, hwalk.ofMembers_eq (hdistinct root .refl)]
  · have hfirst := hshown before o after heq
    rwa [show Seen.key? [] o.record = none from rfl, Option.none_or] at hfirst
  · rw [htimes, if_pos ((hoccurs r).mpr hr)]
  · have hinside := htimes root
    rw [timesSpelledOut] at hinside
    rw [timesSpelledOut, List.countP_cons, hinside]
    split <;> split <;> decide

/-- The records of a documentation have distinct keys. -/
theorem documentation_hasDistinctKeys (r : RecordName) : documentation.HasDistinctKeys r := by
  intro r' _
  cases r' <;> decide

/-- In the skeleton of a file's documentation every record that is
reached is spelled out once. -/
theorem file_spelled_out :
    documentation.HasDistinctKeys .file ∧
      ∃ entries : Entries RecordName, describe documentation .file = .obj entries.toMembers ∧
        ∀ r, documentation.Reaches .file r → timesSpelledOut entries.occurrences r = 1 := by
  obtain ⟨entries, -, -, hdistinct⟩ := describe_spec documentation .file
  obtain ⟨hdescribe, -, -, -, honce, -⟩ := hdistinct (documentation_hasDistinctKeys .file)
  exact ⟨documentation_hasDistinctKeys .file, entries, hdescribe, honce⟩

/-- Two records, of which the first has two fields with one key. The
second is mentioned by the earlier of these fields only. -/
def sharedKey : Family Bool where
  records := [false, true]
  fields r :=
    if r then [(.single "text" "", .scalar)]
    else [(⟨"line_1", "line1", ""⟩, .record true), (⟨"line1", "line1", ""⟩, .scalar)]
  unrequested _ := []
  mem_records := by decide

/-- A record that is reached may be spelled out nowhere, and two
requested fields may have one entry: the later field takes the place of
the earlier. And the names of the fields that one record leaves out are
its own: a field of another record with such a name has its entry. -/
theorem sharedKey_takes_place :
    (sharedKey.Reaches false true ∧ (sharedKey.requested false).length = 2 ∧
      describe sharedKey false = .obj [("line1", .str "line1")]) ∧
    Labels.filePath.name ∈ documentation.unrequested .file ∧
      describe documentation .options =
        .obj [("includeExamples", .str "includeExamples"), ("filePath", .str "filePath")] := by
  refine ⟨⟨.single ⟨_, List.mem_cons_self, rfl⟩, rfl, ?_⟩, by decide, ?_⟩
  · rfl
  · rfl

end DocScribe.Schema
