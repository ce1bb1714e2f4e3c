import DocScribe.Schema
import DocScribe.Proofs.Json.Members
import Mathlib.Data.List.Basic

/-!
# `DocScribe.Proofs.Schema.Describing`: the description of a family ends

A description goes through the fields of a record and, wherever it
meets a new record, through the fields of that one first. The records
may contain each other. `Described` are the rules of this walk, with
no bound on how deep it goes; a record is either spelled out, which
puts it into the table of those seen, or referred to.

The walk ends (`exists_described`), in one way only
(`Described.unique`), and a description that is cut off at a depth is
that of the walk if the depth is the number of records not seen yet.
What decreases from one record to a record nested in it is that number;
it does not grow from one field to the next, so all fields may be
walked with the same depth.
-/

set_option autoImplicit false

namespace DocScribe.Schema

variable {ρ : Type}

/-! ### Skeletons -/

mutual

/-- A skeleton together with the records that its parts stand for. -/
inductive Skeleton (ρ : Type) where
  /-- what a scalar field is asked for by -/
  | request (l : Label)
  | list (item : Skeleton ρ)
  /-- a record that is spelled out in the field with a key -/
  | record (r : ρ) (key : Text) (entries : Entries ρ)
  /-- a record in the field with a key, spelled out under `first` -/
  | reference (r : ρ) (key first : Text)

/-- The skeletons of the fields of a record under their keys. -/
inductive Entries (ρ : Type) where
  | nil
  | cons (key : Text) (skeleton : Skeleton ρ) (rest : Entries ρ)

end

mutual

/-- A skeleton as it is asked for. In the object that a record is, the
last of the entries with one key is left. -/
def Skeleton.toJson : Skeleton ρ → Json
  | .request l => .str l.request
  | .list item => .arr [item.toJson]
  | .record _ _ entries => .obj (Json.ofMembers entries.toMembers)
  | .reference _ _ first => .str (reference first)

/-- The entries one after the other, those with the same key too. -/
def Entries.toMembers : Entries ρ → Json.Members
  | .nil => []
  | .cons key skeleton rest => (key, skeleton.toJson) :: rest.toMembers

end

/-! ### The walk -/

variable [DecidableEq ρ]

/-- The key that a record was spelled out under. -/
def Seen.key? (seen : Seen ρ) (r : ρ) : Option Text :=
  (seen.find? fun s => s.1 = r).map (·.2)

/-- The record that was seen last is found first. Of the records before
nothing changes, unless it is the same one. -/
theorem Seen.key?_cons (seen : Seen ρ) (r r' : ρ) (key : Text) :
    Seen.key? ((r, key) :: seen) r' = if r = r' then some key else seen.key? r' := by
  rw [key?, List.find?_cons]
  by_cases h : r = r'
  · simp [h]
  · simp [h, key?]

/-- The skeletons of fields one after the other, from the records seen
before to those seen after. -/
inductive Described (family : Family ρ) :
    List (Label × Shape ρ) → Seen ρ → Entries ρ → Seen ρ → Prop
  | nil {seen : Seen ρ} : Described family [] seen .nil seen
  | scalar {l : Label} {fields : List (Label × Shape ρ)} {seen seen' : Seen ρ} {entries : Entries ρ}
      (rest : Described family fields seen entries seen') :
      Described family ((l, .scalar) :: fields) seen (.cons l.key (.request l) entries) seen'
  | list {l : Label} {item : Shape ρ} {fields : List (Label × Shape ρ)} {seen seen' : Seen ρ}
      {skeleton : Skeleton ρ} {entries : Entries ρ}
      (once : Described family ((l, item) :: fields) seen (.cons l.key skeleton entries) seen') :
      Described family ((l, .list item) :: fields) seen (.cons l.key (.list skeleton) entries) seen'
  | optional {l : Label} {value : Shape ρ} {fields : List (Label × Shape ρ)} {seen seen' : Seen ρ}
      {skeleton : Skeleton ρ} {entries : Entries ρ}
      (present :
        Described family ((l, value) :: fields) seen (.cons l.key skeleton entries) seen') :
      Described family ((l, .optional value) :: fields) seen (.cons l.key skeleton entries) seen'
  | again {l : Label} {r : ρ} {fields : List (Label × Shape ρ)} {seen seen' : Seen ρ}
      {entries : Entries ρ} {first : Text} (known : seen.key? r = some first)
      (rest : Described family fields seen entries seen') :
      Described family ((l, .record r) :: fields) seen
        (.cons l.key (.reference r l.key first) entries) seen'
  | new {l : Label} {r : ρ} {fields : List (Label × Shape ρ)} {seen seen' seen'' : Seen ρ}
      {nested entries : Entries ρ} (unknown : seen.key? r = none)
      (inside : Described family (family.requested r) ((r, l.key) :: seen) nested seen')
      (rest : Described family fields seen' entries seen'') :
      Described family ((l, .record r) :: fields) seen
        (.cons l.key (.record r l.key nested) entries) seen''

variable {family : Family ρ}

/-- There is one walk at most: what a field is about tells which case it is,
and the table tells whether a record was met before. Induction on the
walk. -/
theorem Described.unique {fields : List (Label × Shape ρ)} {seen seen' seen'' : Seen ρ}
    {entries entries' : Entries ρ} (h : Described family fields seen entries seen')
    (h' : Described family fields seen entries' seen'') : entries = entries' ∧ seen' = seen'' := by
  induction h generalizing entries' seen'' with
  | nil =>
      cases h'
      exact ⟨rfl, rfl⟩
  | scalar _ ih =>
      cases h' with
      | scalar rest =>
          obtain ⟨rfl, rfl⟩ := ih rest
          exact ⟨rfl, rfl⟩
  | list _ ih =>
      cases h' with
      | list once =>
          obtain ⟨hentries, rfl⟩ := ih once
          cases hentries
          exact ⟨rfl, rfl⟩
  | optional _ ih =>
      cases h' with
      | optional present => exact ih present
  | again known _ ih =>
      -- Whether a record is spelled out again is up to the table, and that is the same.
      cases h' with
      | again known' rest =>
          obtain ⟨rfl, rfl⟩ := ih rest
          cases known.symm.trans known'
          exact ⟨rfl, rfl⟩
      | new unknown _ _ => exact nomatch known.symm.trans unknown
  | new unknown _ _ ihinside ihrest =>
      cases h' with
      | again known _ => exact nomatch known.symm.trans unknown
      | new _ inside rest =>
          obtain ⟨rfl, rfl⟩ := ihinside inside
          obtain ⟨rfl, rfl⟩ := ihrest rest
          exact ⟨rfl, rfl⟩

/-- What was seen stays where it was: a walk enters records that are new,
and no others. -/
theorem Described.key?_eq {fields : List (Label × Shape ρ)} {seen seen' : Seen ρ}
    {entries : Entries ρ} (h : Described family fields seen entries seen') {r : ρ} {key : Text}
    (hkey : seen.key? r = some key) : seen'.key? r = some key := by
  induction h with
  | nil => exact hkey
  | scalar _ ih => exact ih hkey
  | list _ ih => exact ih hkey
  | optional _ ih => exact ih hkey
  | again _ _ ih => exact ih hkey
  | new unknown _ _ ihinside ihrest =>
      refine ihrest (ihinside ?_)
      rw [Seen.key?_cons, if_neg, hkey]
      rintro rfl
      exact nomatch hkey.symm.trans unknown

/-- The entries of a record are its fields under their keys, in their
order. -/
theorem Described.keys_eq {fields : List (Label × Shape ρ)} {seen seen' : Seen ρ}
    {entries : Entries ρ} (h : Described family fields seen entries seen') :
    entries.toMembers.map (·.1) = fields.map fun field => field.1.key := by
  induction h with
  | nil => rfl
  | scalar _ ih => exact congrArg _ ih
  | list _ ih => exact ih
  | optional _ ih => exact ih
  | again _ _ ih => exact congrArg _ ih
  | new _ _ _ _ ih => exact congrArg _ ih

/-! ### The walk ends -/

/-- How many records are not seen yet. -/
def Family.unseen (family : Family ρ) (seen : Seen ρ) : Nat :=
  (family.records.filter fun r => (seen.key? r).isNone).length

/-- One record less is new once it is spelled out. This is what bounds the
walk. -/
theorem Family.unseen_cons_lt {seen : Seen ρ} {r : ρ} (h : seen.key? r = none) (key : Text) :
    family.unseen ((r, key) :: seen) < family.unseen seen := by
  have hfilter : (family.records.filter fun s => (Seen.key? ((r, key) :: seen) s).isNone) =
      (family.records.filter fun s => (seen.key? s).isNone).filter fun s => !decide (r = s) := by
    rw [List.filter_filter]
    refine List.filter_congr fun s _ => ?_
    rw [Seen.key?_cons]
    by_cases hs : r = s
    · simp [hs]
    · simp [hs]
  have hmem : r ∈ family.records.filter fun s => (seen.key? s).isNone :=
    List.mem_filter.mpr ⟨family.mem_records r, by simp [h]⟩
  rw [unseen, hfilter, unseen, List.length_filter_lt_length_iff_exists]
  exact ⟨r, hmem, by simp⟩

/-- A walk leaves no more records new, since it only adds to the table. So
the fuel that is left behind one field is enough for the next. -/
theorem Described.unseen_le {fields : List (Label × Shape ρ)} {seen seen' : Seen ρ}
    {entries : Entries ρ} (h : Described family fields seen entries seen') :
    family.unseen seen' ≤ family.unseen seen := by
  refine (List.monotone_filter_right _ fun r hr => ?_).length_le
  cases hkey : seen.key? r with
  | none => rfl
  | some key =>
      rw [h.key?_eq hkey] at hr
      exact hr

/-- The fields of a record start with one: its skeleton, and those of
the others with the records seen by then. -/
theorem describeFields_cons (spellOut : ρ → Seen ρ → Json × Seen ρ) (l : Label) (shape : Shape ρ)
    (fields : List (Label × Shape ρ)) (seen : Seen ρ) :
    describeFields spellOut ((l, shape) :: fields) seen =
      ((l.key, (describeShape spellOut l shape seen).1) ::
          (describeFields spellOut fields (describeShape spellOut l shape seen).2).1,
        (describeFields spellOut fields (describeShape spellOut l shape seen).2).2) :=
  rfl

/-- The skeleton of a record that was met before is a reference to where it
was met first. -/
theorem describeShape_again (spellOut : ρ → Seen ρ → Json × Seen ρ) (l : Label) {r : ρ}
    {seen : Seen ρ} {first : Text} (h : seen.key? r = some first) :
    describeShape spellOut l (.record r) seen = (.str (reference first), seen) := by
  rw [describeShape]
  rw [Seen.key?] at h
  cases hfind : seen.find? fun s => s.1 = r with
  | none =>
      rw [hfind] at h
      exact nomatch h
  | some s =>
      rw [hfind] at h
      cases h
      rfl

/-- The skeleton of a new record is spelled out, and the record is entered
before, so that it is known further down. -/
theorem describeShape_new (spellOut : ρ → Seen ρ → Json × Seen ρ) (l : Label) {r : ρ}
    {seen : Seen ρ} (h : seen.key? r = none) :
    describeShape spellOut l (.record r) seen = spellOut r ((r, l.key) :: seen) := by
  rw [describeShape]
  rw [Seen.key?, Option.map_eq_none_iff] at h
  rw [h]

section SpellOut

variable {spellOut : ρ → Seen ρ → Json × Seen ρ} {bound : Nat}

/-- The walk through fields ends, and the description is that of the
walk. -/
def Ends (family : Family ρ) (spellOut : ρ → Seen ρ → Json × Seen ρ)
    (fields : List (Label × Shape ρ)) (seen : Seen ρ) : Prop :=
  ∃ entries seen', Described family fields seen entries seen' ∧
    describeFields spellOut fields seen = (entries.toMembers, seen')

/-- New records are spelled out as in a walk while at most `bound` of
them are left. -/
def SpellsOut (family : Family ρ) (spellOut : ρ → Seen ρ → Json × Seen ρ) (bound : Nat) : Prop :=
  ∀ (r : ρ) (key : Text) (seen : Seen ρ), seen.key? r = none → family.unseen seen ≤ bound →
    ∃ entries seen', Described family (family.requested r) ((r, key) :: seen) entries seen' ∧
      spellOut r ((r, key) :: seen) = (.obj (Json.ofMembers entries.toMembers), seen')

/-- One field more is walked through if the others are, from any table
that the field may leave. The induction is on the shape of the
field. -/
theorem SpellsOut.exists_described_cons (hspell : SpellsOut family spellOut bound) (l : Label)
    (shape : Shape ρ) {fields : List (Label × Shape ρ)}
    (hfields : ∀ seen, family.unseen seen ≤ bound → Ends family spellOut fields seen)
    {seen : Seen ρ} (hseen : family.unseen seen ≤ bound) :
    ∃ skeleton entries seen',
      Described family ((l, shape) :: fields) seen (.cons l.key skeleton entries) seen' ∧
        describeFields spellOut ((l, shape) :: fields) seen =
          ((l.key, skeleton.toJson) :: entries.toMembers, seen') := by
  induction shape with
  | scalar =>
      obtain ⟨entries, seen', hwalk, hrest⟩ := hfields seen hseen
      exact ⟨_, _, _, .scalar hwalk, by rw [describeFields_cons, describeShape, hrest]; rfl⟩
  | list item ih =>
      obtain ⟨skeleton, entries, seen', hwalk, hmembers⟩ := ih
      rw [describeFields_cons, Prod.mk.injEq, List.cons.injEq, Prod.mk.injEq] at hmembers
      -- The item is described alone, and what it leaves behind is left by the list.
      obtain ⟨⟨⟨-, hitem⟩, hrest⟩, hleft⟩ := hmembers
      refine ⟨_, _, _, .list hwalk, ?_⟩
      show ((l.key, Json.arr [(describeShape spellOut l item seen).1]) :: _, _) = _
      rw [hitem, hrest, hleft]
      rfl
  | optional value ih =>
      obtain ⟨skeleton, entries, seen', hwalk, hmembers⟩ := ih
      exact ⟨_, _, _, .optional hwalk, hmembers⟩
  | record r =>
      cases hkey : seen.key? r with
      | some first =>
          obtain ⟨entries, seen', hwalk, hrest⟩ := hfields seen hseen
          refine ⟨_, _, _, .again hkey hwalk, ?_⟩
          rw [describeFields_cons, describeShape_again spellOut l hkey, hrest]
          rfl
      | none =>
          obtain ⟨nested, seen', hinside, hnested⟩ := hspell r l.key seen hkey hseen
          -- Inside the record the table has only grown, so the bound holds for the fields behind.
          have hless := family.unseen_cons_lt hkey l.key
          have hleft : family.unseen seen' ≤ bound := by
            have hle := hinside.unseen_le
            omega
          obtain ⟨entries, seen'', hwalk, hrest⟩ := hfields seen' hleft
          refine ⟨_, _, _, .new hkey hinside hwalk, ?_⟩
          rw [describeFields_cons, describeShape_new spellOut l hkey, hnested, hrest]
          rfl

/-- Describing the fields of a record comes to an end if there is a bound on
the records that have not been spelled out: each record is spelled out once,
and then refers to its first occurrence. -/
theorem SpellsOut.ends (hspell : SpellsOut family spellOut bound)
    (fields : List (Label × Shape ρ)) {seen : Seen ρ} (hseen : family.unseen seen ≤ bound) :
    Ends family spellOut fields seen := by
  induction fields generalizing seen with
  | nil => exact ⟨_, _, .nil, rfl⟩
  | cons field fields ih =>
      obtain ⟨skeleton, entries, seen', hwalk, hmembers⟩ :=
        hspell.exists_described_cons field.1 field.2 (fun _ => ih) hseen
      exact ⟨_, _, hwalk, hmembers⟩

end SpellOut

/-- Depth enough for all new records is depth enough. The induction is
on the depth: a record that is spelled out is new no more. -/
theorem spellsOut_describeRecord (family : Family ρ) (depth : Nat) :
    SpellsOut family (describeRecord family depth) depth := by
  induction depth with
  | zero =>
      intro r key seen hnew hseen
      have hlt := family.unseen_cons_lt hnew key
      omega
  | succ depth ih =>
      intro r key seen hnew hseen
      have hlt := family.unseen_cons_lt hnew key
      have hleft : family.unseen ((r, key) :: seen) ≤ depth := by omega
      obtain ⟨entries, seen', hwalk, hmembers⟩ := ih.ends (family.requested r) hleft
      refine ⟨entries, seen', hwalk, ?_⟩
      rw [describeRecord, hmembers]

/-- The walk through the fields of a record ends, and the description
of the record is that of the walk. -/
theorem exists_described (family : Family ρ) (root : ρ) :
    ∃ entries seen, Described family (family.requested root) [] entries seen ∧
      describe family root = .obj (Json.ofMembers entries.toMembers) := by
  have hall : family.unseen [] ≤ family.records.length := List.length_filter_le _ _
  obtain ⟨entries, seen, hwalk, hmembers⟩ :=
    (spellsOut_describeRecord family family.records.length).ends (family.requested root) hall
  refine ⟨entries, seen, hwalk, ?_⟩
  rw [describe, describeRecord, hmembers]

end DocScribe.Schema
