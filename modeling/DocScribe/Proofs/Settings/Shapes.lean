import DocScribe.Toml.Basic

/-!
# `DocScribe.Proofs.Settings.Shapes`: which values are tables

Where a table is wanted, a sequence of pairs serves as well. The first item
that is no pair decides what is wrong (`PairsView.fold_eq_error_iff`). For
the values of configuration files this leaves three shapes that are no table
and of which no length is wrong (`Toml.NoTable`): what has no items, a list
with an item that has none, and a list with a pair whose key is a list or a
table (`Toml.noTable_iff`).
-/

set_option autoImplicit false

namespace DocScribe

/-! ### Sequences of pairs -/

/-- Whether what is wrong is the length of a pair. -/
def PairsError.isLength : PairsError → Bool
  | .wrongLength _ _ => true
  | _ => false

namespace PairsView

variable {α : Type} {view : PairsView α}

/-- A pair: two items, of which the first can be a key. -/
inductive IsPair (view : PairsView α) (value : α) : Prop
  | intro {first second : α} {key : PairsKey} :
      view.items? value = some [first, second] → view.key? first = some key → IsPair view value

/-- What is wrong with an item that is no pair, at its place. -/
inductive Flaw (view : PairsView α) (index : Nat) (value : α) : PairsError → Prop
  | notSequence : view.items? value = none → Flaw view index value (.notSequence index)
  | wrongLength {items : List α} : view.items? value = some items → items.length ≠ 2 →
      Flaw view index value (.wrongLength index items.length)
  | badKey {first second : α} : view.items? value = some [first, second] →
      view.key? first = none → Flaw view index value (.badKey (view.typeName first))

/-- The first item that is no pair ends the reading with its flaw, and the
items behind are not looked at. -/
theorem fold_of_flaw {table : List (PairsKey × α)} {index : Nat} {pair : α} {pairs : List α}
    {e : PairsError} (h : Flaw view index pair e) :
    view.fold table index (pair :: pairs) = .error e := by
  cases h with
  | notSequence hitems => rw [fold, hitems]
  | @wrongLength items hitems hlength =>
      rw [fold, hitems]
      match items, hlength with
      | [], _ => rfl
      | [_], _ => rfl
      | [_, _], hlength => exact absurd rfl hlength
      | _ :: _ :: _ :: _, _ => rfl
  | badKey hitems hkey =>
      rw [fold, hitems]
      dsimp only
      rw [hkey]

/-- A pair is put into the table, whatever the table is, and the reading
goes on behind it. -/
theorem exists_fold_of_isPair {table : List (PairsKey × α)} {index : Nat} {pair : α}
    (h : IsPair view pair) : ∃ table', ∀ pairs,
      view.fold table index (pair :: pairs) = view.fold table' (index + 1) pairs := by
  obtain @⟨first, second, key, hitems, hkey⟩ := h
  refine ⟨put (fun a b => a.identity.isSame b.identity) table key second, fun pairs => ?_⟩
  rw [fold, hitems]
  dsimp only
  rw [hkey]

/-- An item is a pair or has a flaw. A flaw says what is wrong: no items,
too many or too few of them, or a first that cannot be a key. -/
theorem isPair_or_flaw (view : PairsView α) (index : Nat) (value : α) :
    IsPair view value ∨ ∃ e, Flaw view index value e := by
  match hitems : view.items? value with
  | none => exact .inr ⟨_, .notSequence hitems⟩
  | some [first, second] =>
      cases hkey : view.key? first with
      | none => exact .inr ⟨_, .badKey hitems hkey⟩
      | some key => exact .inl ⟨hitems, hkey⟩
  | some [] => exact .inr ⟨_, .wrongLength hitems (by simp)⟩
  | some [_] => exact .inr ⟨_, .wrongLength hitems (by simp)⟩
  | some (_ :: _ :: _ :: _) => exact .inr ⟨_, .wrongLength hitems (by simp)⟩

/-- A sequence spells no table because of the first item that is no pair.
Induction on the sequence, for all that was read before it. -/
theorem fold_eq_error_iff {table : List (PairsKey × α)} {index : Nat} {pairs : List α}
    {e : PairsError} :
    view.fold table index pairs = .error e
      ↔ ∃ before pair after, pairs = before ++ pair :: after ∧ (∀ p ∈ before, IsPair view p)
        ∧ Flaw view (index + before.length) pair e := by
  induction pairs generalizing table index with
  | nil =>
      refine ⟨fun h => (nomatch h), fun ⟨before, pair, after, hpairs, _⟩ => ?_⟩
      exact absurd hpairs.symm (List.append_ne_nil_of_right_ne_nil before (List.cons_ne_nil _ _))
  | cons first rest ih =>
      constructor
      · intro h
        -- The first item is read or is itself the one with the flaw.
        rcases isPair_or_flaw view index first with hpair | ⟨e', hflaw⟩
        · obtain ⟨table', hfold⟩ := exists_fold_of_isPair hpair
          rw [hfold] at h
          obtain ⟨before, pair, after, rfl, hbefore, hflaw⟩ := ih.mp h
          refine ⟨first :: before, pair, after, rfl, List.forall_mem_cons.mpr ⟨hpair, hbefore⟩, ?_⟩
          have hindex : index + (first :: before).length = index + 1 + before.length := by
            rw [List.length_cons]
            omega
          rwa [hindex]
        · obtain rfl := Except.error.inj ((fold_of_flaw hflaw).symm.trans h)
          exact ⟨[], first, rest, rfl, List.forall_mem_nil _, hflaw⟩
      · rintro ⟨before, pair, after, hpairs, hbefore, hflaw⟩
        cases before with
        | nil =>
            obtain ⟨rfl, rfl⟩ := List.cons.inj hpairs
            exact fold_of_flaw hflaw
        | cons other before =>
            obtain ⟨rfl, rfl⟩ := List.cons.inj hpairs
            obtain ⟨hpair, hbefore⟩ := List.forall_mem_cons.mp hbefore
            obtain ⟨table', hfold⟩ := exists_fold_of_isPair hpair
            rw [hfold]
            refine ih.mpr ⟨before, pair, after, rfl, hbefore, ?_⟩
            have hindex : index + (first :: before).length = index + 1 + before.length := by
              rw [List.length_cons]
              omega
            rwa [← hindex]

end PairsView

/-! ### Values of configuration files -/

namespace Toml

/-- Values without items: what is no text, no list and no table. -/
def isScalar : Toml → Bool
  | .text _ => false
  | .list _ => false
  | .table _ => false
  | _ => true

/-- Values that can be keys. -/
def canBeKey : Toml → Bool
  | .list _ => false
  | .table _ => false
  | _ => true

/-- The values that are pairs. -/
inductive IsPair : Toml → Prop
  | text (a b : CodePoint) : IsPair (.text [a, b])
  | list {first : Toml} (second : Toml) : first.canBeKey = true → IsPair (.list [first, second])
  | table (a b : Text × Toml) : IsPair (.table [a, b])

/-- Why a value is no table, apart from pairs of a wrong length. -/
inductive NoTable : Toml → PairsError → Prop
  | scalar {value : Toml} : value.isScalar = true → NoTable value (.notIterable value.typeName)
  | item {before after : List Toml} {item : Toml} : (∀ p ∈ before, IsPair p) →
      item.isScalar = true →
      NoTable (.list (before ++ item :: after)) (.notSequence before.length)
  | key {before after : List Toml} {first second : Toml} : (∀ p ∈ before, IsPair p) →
      first.canBeKey = false →
      NoTable (.list (before ++ .list [first, second] :: after)) (.badKey first.typeName)

/-- Whether a value can be a key is told by whether it is one, for every
kind of value. -/
theorem key?_eq_none_iff {value : Toml} : value.key? = none ↔ value.canBeKey = false := by
  cases value with
  | float x => cases x <;> simp [key?, canBeKey]
  | moment kind shown instant => cases instant <;> simp [key?, canBeKey]
  | _ => simp [key?, canBeKey]

/-- Scalars have no items, and all other values have. -/
theorem items?_eq_none_iff {value : Toml} :
    pairsView.items? value = none ↔ value.isScalar = true := by
  cases value <;> simp [pairsView, isScalar]

/-- Only in a list the first of two items may be no key. A text has its
letters for items and a table its keys, and all of these can be keys. -/
theorem eq_list_of_badKey {value first second : Toml}
    (hitems : pairsView.items? value = some [first, second]) (hkey : first.canBeKey = false) :
    value = .list [first, second] := by
  cases value with
  | list items => exact congrArg Toml.list (Option.some.inj hitems)
  | text t =>
      obtain ⟨c, _, _, rfl, _⟩ := List.map_eq_cons_iff.mp (Option.some.inj hitems)
      exact absurd hkey Bool.false_ne_true.symm
  | table members =>
      obtain ⟨m, _, _, rfl, _⟩ := List.map_eq_cons_iff.mp (Option.some.inj hitems)
      exact absurd hkey Bool.false_ne_true.symm
  | _ => exact nomatch hitems

/-- A value is a pair for the conversion if it is one of the pairs, which
lists what pairs can look like. -/
theorem isPair_iff {value : Toml} : pairsView.IsPair value ↔ IsPair value := by
  constructor
  · rintro @⟨first, second, key, hitems, hkey⟩
    cases value with
    | text t =>
        obtain ⟨a, rest, rfl, -, hrest⟩ := List.map_eq_cons_iff.mp (Option.some.inj hitems)
        obtain ⟨b, rfl, -⟩ := List.map_eq_singleton_iff.mp hrest
        exact .text a b
    | table members =>
        obtain ⟨a, rest, rfl, -, hrest⟩ := List.map_eq_cons_iff.mp (Option.some.inj hitems)
        obtain ⟨b, rfl, -⟩ := List.map_eq_singleton_iff.mp hrest
        exact .table a b
    | list items =>
        -- The items of a list may be anything, so the first has to be fit for a key.
        obtain rfl : items = [first, second] := Option.some.inj hitems
        refine .list second ((Bool.not_eq_false _).mp fun hbad => ?_)
        exact nomatch (key?_eq_none_iff.mpr hbad).symm.trans hkey
    | _ => exact nomatch hitems
  · intro h
    cases h with
    | text a b => exact ⟨rfl, rfl⟩
    | table a b => exact ⟨rfl, rfl⟩
    | @list first second hfirst =>
        cases hkey : first.key? with
        | some key => exact ⟨rfl, hkey⟩
        | none => exact nomatch hfirst.symm.trans (key?_eq_none_iff.mp hkey)

/-- A list spells no table because of the first item that is no pair. The
fault says at which place it stands and what it is instead. -/
theorem toEntries_list_eq_error_iff {items : List Toml} {e : PairsError} :
    (Toml.list items).toEntries = .error e
      ↔ ∃ before item after, items = before ++ item :: after ∧ (∀ p ∈ before, IsPair p)
        ∧ pairsView.Flaw before.length item e := by
  have hfold : (Toml.list items).toEntries = pairsView.fold [] 0 items := rfl
  rw [hfold, PairsView.fold_eq_error_iff]
  simp only [isPair_iff, Nat.zero_add]

/-- The shapes are those of which the conversion finds something else to be
wrong than a length. -/
theorem noTable_iff {value : Toml} {e : PairsError} :
    NoTable value e ↔ value.toEntries = .error e ∧ e.isLength = false := by
  constructor
  · intro h
    cases h with
    | scalar hscalar =>
        cases value with
        | text t => exact absurd hscalar Bool.false_ne_true
        | list items => exact absurd hscalar Bool.false_ne_true
        | table members => exact absurd hscalar Bool.false_ne_true
        | _ => exact ⟨rfl, rfl⟩
    | item hbefore hscalar =>
        exact ⟨toEntries_list_eq_error_iff.mpr ⟨_, _, _, rfl, hbefore,
          .notSequence (items?_eq_none_iff.mpr hscalar)⟩, rfl⟩
    | key hbefore hkey =>
        exact ⟨toEntries_list_eq_error_iff.mpr ⟨_, _, _, rfl, hbefore,
          .badKey rfl (key?_eq_none_iff.mpr hkey)⟩, rfl⟩
  · rintro ⟨herror, hlength⟩
    cases value with
    | table members => exact nomatch herror
    | text t =>
        -- A text is a sequence of single letters, so a length is wrong.
        have hfold : (Toml.text t).toEntries
          = pairsView.fold [] 0 (t.map fun c => .text [c]) := rfl
        rw [hfold, PairsView.fold_eq_error_iff] at herror
        obtain ⟨before, pair, after, hpairs, -, hflaw⟩ := herror
        have hpair : pair ∈ t.map fun c => Toml.text [c] := by
          rw [hpairs]
          exact List.mem_append_right _ List.mem_cons_self
        obtain ⟨c, -, rfl⟩ := List.mem_map.mp hpair
        cases hflaw with
        | notSequence hitems => exact nomatch hitems
        | wrongLength => exact nomatch hlength
        | badKey hitems => exact nomatch hitems
    | list items =>
        obtain ⟨before, item, after, rfl, hbefore, hflaw⟩ :=
          toEntries_list_eq_error_iff.mp herror
        cases hflaw with
        | notSequence hitems => exact .item hbefore (items?_eq_none_iff.mp hitems)
        | wrongLength => exact nomatch hlength
        | badKey hitems hkey =>
            have hbad := key?_eq_none_iff.mp hkey
            rw [eq_list_of_badKey hitems hbad]
            exact .key hbefore hbad
    | _ => exact Except.error.inj herror ▸ .scalar rfl

end Toml

end DocScribe
