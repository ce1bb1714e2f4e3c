import DocScribe.Proofs.Json.Consumption
import DocScribe.Proofs.Json.Members

/-!
# `DocScribe.Proofs.Json.Objects`: objects that were read

Only a brace opens an object (`exists_eq_cons_of_readValue`): words and
numbers are values of other kinds (`isBare_of_readPlain`), and so are
strings and lists. And of the members of an object that was read no two
have the same key (`nodup_keys_of_readValue`).
-/

set_option autoImplicit false

namespace DocScribe.Json

variable {d : Dialect} {readOne : Text → ReadResult Json}

/-! ### Words and numbers -/

/-- Values that are neither text nor hold other values. -/
def isBare : Json → Bool
  | .null | .bool _ | .int _ | .float _ => true
  | .str _ | .arr _ | .obj _ => false

/-- Words and numbers are such values, so nothing that is read without an
opening mark is a container or a string. -/
theorem isBare_of_readPlain {s rest : Text} {value : Json}
    (h : readPlain d s = .ok (value, rest)) : value.isBare = true := by
  have hnumber {start u : Text} {negative : Bool}
      (hread : readUnsigned d start negative u = .ok (value, rest)) : value.isBare = true := by
    rw [readUnsigned.eq_def] at hread
    split at hread
    · cases hread
    · dsimp only at hread
      split at hread
      · cases hread
      split at hread <;>
        exact (Prod.mk.inj (Except.ok.inj hread)).1 ▸ rfl
  have hwords : ∀ w ∈ words, w.2.isBare = true := by decide
  rw [readPlain.eq_def] at h
  split at h
  · next w hw =>
    exact (Prod.mk.inj (Except.ok.inj h)).1 ▸ hwords w (List.mem_of_find?_eq_some hw)
  · split at h
    · split at h
      · exact hnumber h
      · exact hnumber h
    · cases h

/-! ### What opens an object -/

/-- What is read as items is a list, wherever it ends. Induction on the
fuel, since an item may be followed by another. -/
theorem exists_of_readItems (fuel : Nat) {read : List Json} {s rest : Text} {value : Json}
    (h : readItems readOne fuel read s = .ok (value, rest)) : ∃ items, value = .arr items := by
  induction fuel generalizing read s with
  | zero => cases h
  | succ fuel ih =>
      rw [readItems] at h
      split at h
      · cases h
      split at h
      · cases h
      split at h
      · exact ⟨_, (Prod.mk.inj (Except.ok.inj h)).1.symm⟩
      split at h
      · exact ih h
      · cases h

/-- A container is empty, or what is read of it is its content. Which of the
two it is depends on the mark behind the blanks, but that does not matter
where a property of all contents is wanted. -/
theorem readContainer_cases {content : Container → Text → ReadResult Json} {container : Container}
    {s rest : Text} {value : Json} (h : readContainer content container s = .ok (value, rest)) :
    value = container.empty ∨ ∃ s, content container s = .ok (value, rest) := by
  rw [readContainer] at h
  split at h
  · exact .inr ⟨_, h⟩
  · split at h
    · exact .inl (Prod.mk.inj (Except.ok.inj h)).1.symm
    · exact .inr ⟨_, h⟩

/-- What is inside of a container, by how deep containers may nest in
it. -/
def readInside (d : Dialect) : Nat → Container → Text → ReadResult Json
  | 0 => readBeyond d
  | depth + 1 => readContainer (readContent d (readValue d depth))

/-- A reader of values is one that is given how to read inside of
containers, whatever depth is left. -/
theorem readValue_eq_readWith (d : Dialect) (depth : Nat) :
    readValue d depth = readWith d (readInside d depth) := by
  cases depth <;> rfl

/-- What is read inside of a container is nothing, or content. Where the
depth is used up there can only be nothing. -/
theorem readInside_cases {depth : Nat} {container : Container} {s rest : Text} {value : Json}
    (h : readInside d depth container s = .ok (value, rest)) :
    value = container.empty
      ∨ ∃ readOne inside, readContent d readOne container inside = .ok (value, rest) := by
  cases depth with
  | zero =>
      replace h : readBeyond d container s = .ok (value, rest) := h
      rw [readBeyond] at h
      split at h
      · cases h
      · -- Too deep inside there is no content, so the container is an empty one.
        rcases readContainer_cases h with hempty | ⟨_, hcontent⟩
        · exact .inl hempty
        · cases hcontent
  | succ depth =>
      rcases readContainer_cases h with hempty | ⟨inside, hcontent⟩
      · exact .inl hempty
      · exact .inr ⟨_, inside, hcontent⟩

/-- A square bracket opens a list, if anything. So text in square brackets
is never taken for an object. -/
theorem exists_arr_of_readValue {depth : Nat} {s rest : Text} {value : Json}
    (h : readValue d depth (CodePoint.ofChar '[' :: s) = .ok (value, rest)) :
    ∃ items, value = .arr items := by
  rw [readValue_eq_readWith] at h
  have hinside : readInside d depth .array s = .ok (value, rest) := h
  rcases readInside_cases hinside with rfl | ⟨_, inside, hcontent⟩
  · exact ⟨[], rfl⟩
  · cases inside with
    | nil => cases hcontent
    | cons c inside => exact exists_of_readItems _ hcontent

/-- Only a brace opens an object: every other beginning is that of a value
of another kind. -/
theorem exists_eq_cons_of_readValue {depth : Nat} {s rest : Text} {members : Members}
    (h : readValue d depth s = .ok (.obj members, rest)) :
    ∃ inside, s = CodePoint.ofChar '\x7b' :: inside := by
  have hread := h
  rw [readValue_eq_readWith] at hread
  cases s with
  | nil => cases hread
  | cons c s =>
      rw [readWith] at hread
      split at hread
      · -- A quotation mark opens a string.
        split at hread
        · cases hread
        · cases (Prod.mk.inj (Except.ok.inj hread)).1
      split at hread
      · next hbrace => exact ⟨s, by rw [hbrace]⟩
      split at hread
      · next hbracket =>
        obtain ⟨items, hitems⟩ := exists_arr_of_readValue (hbracket ▸ h)
        cases hitems
      · cases isBare_of_readPlain hread

/-! ### The keys of an object -/

/-- A member between others leaves all keys apart if its own is new. Where
it stands does not matter for that. -/
theorem Members.nodup_keys_insert_iff {a b : Members} {key : Text} {value : Json} :
    (Members.keys (a ++ (key, value) :: b)).Nodup
      ↔ key ∉ Members.keys (a ++ b) ∧ (Members.keys (a ++ b)).Nodup := by
  have hperm : (Members.keys (a ++ (key, value) :: b)).Perm (key :: Members.keys (a ++ b)) :=
    List.perm_middle.map Prod.fst
  rw [hperm.nodup_iff, List.nodup_cons]

/-- To put a value under a key keeps keys apart, for a key that is there is
written over. -/
theorem nodup_keys_put {members : Members} (h : members.keys.Nodup) (key : Text) (value : Json) :
    (members.put key value).keys.Nodup := by
  by_cases hmem : key ∈ members.keys
  · -- The value is replaced, and the keys stay.
    have hkeys : (members.put key value).keys = members.keys := by
      rw [Members.put, if_pos (Members.has_iff.mpr hmem), Members.keys, List.map_map]
      refine List.map_congr_left fun m _ => ?_
      by_cases hm : m.1 = key <;> simp [hm]
    rw [hkeys]
    exact h
  · rw [Members.put_of_not_mem hmem, Members.keys, List.map_append]
    refine List.nodup_append.mpr ⟨h, List.pairwise_singleton _ _, fun k hk k' hk' hsame => ?_⟩
    obtain rfl : k' = key := List.mem_singleton.mp hk'
    exact hmem (hsame ▸ hk)

/-- Of the members that count no two have the same key. What is put under a
key that is there takes the place of the older value. -/
theorem nodup_keys_ofMembers (written : Members) : (ofMembers written).keys.Nodup := by
  have hfold : ∀ members : Members, members.keys.Nodup →
      (written.foldl (fun members m => members.put m.1 m.2) members).keys.Nodup := by
    induction written with
    | nil => exact fun members h => h
    | cons m written ih => exact fun members h => ih _ (nodup_keys_put h m.1 m.2)
  exact hfold [] List.nodup_nil

/-- If a value is an object, its members have different keys. -/
def HasApartKeys (value : Json) : Prop :=
  ∀ members : Members, value = .obj members → members.keys.Nodup

/-- Keys that are apart can be followed through the reader, which puts
members in one by one. -/
theorem tracks_keys (d : Dialect) :
    Tracks d (fun _ => True) (fun _ => True) fun _ => HasApartKeys where
  ends _ _ := trivial
  string _ _ := trivial
  str _ _ h := nomatch h
  plain h members hobj := by
    subst hobj
    exact nomatch isBare_of_readPlain h
  arr _ _ h := nomatch h
  obj {_ written} _ members h := by
    obtain rfl := Json.obj.inj h
    exact nodup_keys_ofMembers written
  beyond _ container members h := by
    cases container with
    | array => exact nomatch h
    | object =>
        obtain rfl := Json.obj.inj h
        exact List.nodup_nil

/-- The members of an object that was read have different keys. -/
theorem nodup_keys_of_readValue {depth : Nat} {s rest : Text} {members : Members}
    (h : readValue d depth s = .ok (.obj members, rest)) : members.keys.Nodup :=
  ((tracks_keys d).readValue depth trivial h).1 members rfl

end DocScribe.Json
