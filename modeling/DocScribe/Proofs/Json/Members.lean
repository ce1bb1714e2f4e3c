import DocScribe.Json.Basic

/-!
# `DocScribe.Proofs.Json.Members`: members by their keys

Looking up, replacing and dropping members of an object. Where every
key stands once, what is found under a key depends on the members
alone and not on their order (`get?_eq_some_iff`), and reading the
members one after the other changes nothing (`ofMembers_of_nodup`).

Of a container, whether it can be written is a matter of what it holds
(`isWritable_arr`, `isWritable_obj`).
-/

set_option autoImplicit false

namespace DocScribe.Json

/-- The keys of members, in order. -/
def Members.keys (members : Members) : List Text := members.map Prod.fst

namespace Members

/-! ### Looking up -/

/-- The first member with a key is the one that counts. In what was read
there are no others, but not all members were read. -/
theorem get?_cons (m : Text × Json) (members : Members) (key : Text) :
    get? (m :: members) key = if m.1 = key then some m.2 else get? members key := by
  by_cases h : m.1 = key
  · simp [get?, h]
  · have hne : (m.1 == key) = false := by simp [h]
    simp [get?, hne, h]

/-- A key that is not there has no value, and only such a key has none:
`null` is a value. -/
theorem get?_eq_none_iff {members : Members} {key : Text} :
    members.get? key = none ↔ key ∉ members.keys := by
  induction members with
  | nil => simp [get?, keys]
  | cons m members ih =>
      rw [get?_cons]
      by_cases h : m.1 = key
      · simp [h, keys]
      · have hne : ¬ key = m.1 := fun he => h he.symm
        simpa [h, keys, hne] using ih

/-- What is found under a key is a member. With keys that repeat it is the
first of them. -/
theorem mem_of_get? {members : Members} {key : Text} {value : Json}
    (h : members.get? key = some value) : (key, value) ∈ members := by
  induction members with
  | nil => exact absurd h (by simp [get?])
  | cons m members ih =>
      rw [get?_cons] at h
      by_cases hk : m.1 = key
      · rw [if_pos hk, Option.some.injEq] at h
        rw [← hk, ← h]
        exact List.mem_cons_self
      · rw [if_neg hk] at h
        exact List.mem_cons_of_mem _ (ih h)

/-- Where every key stands once, a member is what is found under its
key. -/
theorem get?_eq_some_iff {members : Members} (hkeys : members.keys.Nodup) {key : Text}
    {value : Json} : members.get? key = some value ↔ (key, value) ∈ members := by
  refine ⟨mem_of_get?, fun h => ?_⟩
  induction members with
  | nil => exact absurd h (by simp)
  | cons m members ih =>
      rw [keys, List.map_cons, List.nodup_cons] at hkeys
      rw [get?_cons]
      rcases List.mem_cons.mp h with rfl | h
      · exact if_pos rfl
      -- A member behind the first has another key than the first.
      · have hne : m.1 ≠ key := by
          rintro rfl
          exact hkeys.1 (List.mem_map.mpr ⟨_, h, rfl⟩)
        rw [if_neg hne]
        exact ih hkeys.2 h

/-- Where every key stands once, the order of the members does not
count. -/
theorem get?_of_perm {members members' : Members} (hkeys : members.keys.Nodup)
    (h : members.Perm members') (key : Text) : members.get? key = members'.get? key := by
  have hkeys' : members'.keys.Nodup := (h.map Prod.fst).nodup_iff.mp hkeys
  refine Option.ext fun value => ?_
  rw [get?_eq_some_iff hkeys, get?_eq_some_iff hkeys']
  exact h.mem_iff

/-! ### Putting -/

/-- To have a key is to have it among the keys. -/
theorem has_iff {members : Members} {key : Text} : members.has key = true ↔ key ∈ members.keys := by
  rw [has, List.any_eq_true, keys, List.mem_map]
  exact exists_congr fun m => and_congr_right fun _ => beq_iff_eq

/-- A new key is put behind the others. So the order of the members is that
in which their keys came up first. -/
theorem put_of_not_mem {members : Members} {key : Text} (h : key ∉ members.keys) (value : Json) :
    members.put key value = members ++ [(key, value)] := by
  have hno : members.has key = false := by
    rw [← Bool.not_eq_true, has_iff]
    exact h
  rw [put, hno, if_neg (by simp)]

/-- What holds of all members and of one more holds of them with that one
put among them. -/
theorem forall_put {P : Text → Prop} {Q : Json → Prop} {members : Members}
    (h : ∀ m ∈ members, P m.1 ∧ Q m.2) {key : Text} (hkey : P key) {value : Json}
    (hvalue : Q value) : ∀ m ∈ members.put key value, P m.1 ∧ Q m.2 := by
  rw [put]
  split
  · rw [List.forall_mem_map]
    intro m hm
    split
    · exact ⟨(h m hm).1, hvalue⟩
    · exact h m hm
  · exact List.forall_mem_append.mpr ⟨h, List.forall_mem_singleton.mpr ⟨hkey, hvalue⟩⟩

/-- Members in front hide those behind with the same key. -/
theorem get?_append (members more : Members) (key : Text) :
    get? (members ++ more) key = (members.get? key).or (more.get? key) := by
  rw [get?, List.find?_append, Option.map_or]
  rfl

/-- Other keys are found as before where the value of a key is
replaced. -/
theorem get?_replace_of_ne {key k : Text} (h : k ≠ key) (value : Json) (members : Members) :
    get? (members.map fun m => if m.1 == key then (m.1, value) else m) k = members.get? k := by
  induction members with
  | nil => rfl
  | cons m members ih =>
      rw [List.map_cons, get?_cons, get?_cons, ih]
      by_cases hm : m.1 = key
      · have hne : m.1 ≠ k := fun he => h (he.symm.trans hm)
        simp [hm, h.symm]
      · simp [hm]

/-- A key that is there is found with the value that replaces its
own. -/
theorem get?_replace_of_mem {key : Text} (value : Json) {members : Members}
    (h : key ∈ members.keys) :
    get? (members.map fun m => if m.1 == key then (m.1, value) else m) key = some value := by
  induction members with
  | nil => exact absurd h (by simp [keys])
  | cons m members ih =>
      rw [List.map_cons, get?_cons]
      by_cases hm : m.1 = key
      · simp [hm]
      · rw [keys, List.map_cons, List.mem_cons] at h
        have hmem : key ∈ keys members := h.resolve_left fun he => hm he.symm
        simpa [hm] using ih hmem

/-- What is found after a key was given a value: the value under this key,
and what was there before under all others. -/
theorem get?_put (members : Members) (key : Text) (value : Json) (k : Text) :
    (members.put key value).get? k = if k = key then some value else members.get? k := by
  rw [put]
  by_cases hhas : members.has key = true
  · rw [if_pos hhas]
    by_cases hk : k = key
    · rw [if_pos hk, hk]
      exact get?_replace_of_mem value (has_iff.mp hhas)
    · rw [if_neg hk]
      exact get?_replace_of_ne hk value members
  · rw [if_neg hhas, get?_append, get?_cons]
    by_cases hk : k = key
    · have hnone : members.get? k = none :=
        get?_eq_none_iff.mpr fun hmem => hhas (has_iff.mpr (hk ▸ hmem))
      rw [hnone, if_pos hk, if_pos hk.symm]
      rfl
    · rw [if_neg hk, if_neg (Ne.symm hk)]
      exact Option.or_none

/-- What is found after members were dropped by their keys, which leaves the
others as they were. -/
theorem get?_filter (keep : Text → Bool) (members : Members) (k : Text) :
    get? (members.filter fun m => keep m.1) k = if keep k then members.get? k else none := by
  induction members with
  | nil => simp [get?]
  | cons m members ih =>
      rw [List.filter_cons, get?_cons]
      by_cases hk : m.1 = k
      · rw [if_pos hk, hk]
        split
        · exact (get?_cons _ _ _).trans (if_pos hk)
        · next hdrop => rw [ih, if_neg hdrop]
      · rw [if_neg hk, ← ih]
        split
        · exact (get?_cons _ _ _).trans (if_neg hk)
        · rfl

/-- What is found after a key was dropped. All members with that key are
gone, and the others are as they were. -/
theorem get?_without (members : Members) (key k : Text) :
    (members.without key).get? k = if k = key then none else members.get? k := by
  show get? (members.filter fun m => m.1 != key) k = _
  rw [get?_filter fun k => k != key]
  by_cases hk : k = key <;> simp [hk]

end Members

/-- What holds of all members that are written holds of those that
count. -/
theorem forall_ofMembers {P : Text → Prop} {Q : Json → Prop} {written : Members}
    (h : ∀ m ∈ written, P m.1 ∧ Q m.2) : ∀ m ∈ ofMembers written, P m.1 ∧ Q m.2 := by
  have hfold : ∀ read : Members, (∀ m ∈ read, P m.1 ∧ Q m.2) →
      ∀ m ∈ written.foldl (fun (members : Members) m => members.put m.1 m.2) read,
        P m.1 ∧ Q m.2 := by
    induction written with
    | nil => exact fun _ hread => hread
    | cons m written ih =>
        rw [List.forall_mem_cons] at h
        exact fun read hread => ih h.2 _ (Members.forall_put hread h.1.1 h.1.2)
  exact hfold [] (List.forall_mem_nil _)

/-- Members that are put one after the other, each under a key of its own,
stand in the order in which they were put. -/
theorem foldl_put_of_nodup (written : Members) :
    ∀ members : Members, (members ++ written : Members).keys.Nodup →
      written.foldl (fun members m => members.put m.1 m.2) members = members ++ written := by
  induction written with
  | nil =>
      intro members _
      simp
  | cons m written ih =>
      intro members hkeys
      -- The keys before and behind are apart, so `m` has a new one.
      have hnew : m.1 ∉ members.keys := by
        rw [Members.keys, List.map_append, List.nodup_append] at hkeys
        intro hmem
        exact hkeys.2.2 m.1 hmem m.1 (by simp) rfl
      have hput := Members.put_of_not_mem hnew m.2
      rw [List.foldl_cons, hput, ih _ (by simpa [Members.keys] using hkeys)]
      simp

/-- Members with a key each count as they are written. -/
theorem ofMembers_of_nodup {written : Members} (h : written.keys.Nodup) :
    ofMembers written = written := by
  rw [ofMembers, foldl_put_of_nodup written [] (by simpa using h), List.nil_append]

/-! ### Values that can be written -/

/-- An array can be written if all of its items can, and only then, as the
limit is one of integers and not of lists. -/
theorem isWritable_arr {items : List Json} :
    (arr items).isWritable = true ↔ ∀ item ∈ items, item.isWritable = true := by
  rw [isWritable]
  induction items with
  | nil => simp [areWritable]
  | cons item items ih => rw [areWritable, Bool.and_eq_true, ih, List.forall_mem_cons]

/-- An object can be written if the values of all of its members can;
keys are strings and never in the way. -/
theorem isWritable_obj {members : Members} :
    (obj members).isWritable = true ↔ ∀ m ∈ members, m.2.isWritable = true := by
  rw [isWritable]
  induction members with
  | nil => simp [areWritableMembers]
  | cons m members ih => rw [areWritableMembers, Bool.and_eq_true, ih, List.forall_mem_cons]

end DocScribe.Json
