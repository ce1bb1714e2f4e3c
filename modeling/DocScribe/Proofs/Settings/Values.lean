import DocScribe.Settings.Loading

/-!
# `DocScribe.Proofs.Settings.Values`: values by the names of settings

What is found under a name when values are put in the place of others, when
some of them are left out, and when they are listed name by name. The names
of settings are in small letters, so that among values of settings alone a
name has no other spelling than its own (`OnlySettings.spelled?_eq`).
-/

set_option autoImplicit false

namespace DocScribe.Settings

variable {name : Text} {values others : Values}

/-! ### Names of settings -/

/-- The names of settings are in small letters. -/
theorem toSmall_of_mem_names (h : name ∈ names) : name.toSmall = name := by
  have hall : ∀ name ∈ names, name.toSmall = name := by decide
  exact hall name h

/-- The first value under a name is the one that is found. The library says
this with a comparison that gives a flag; here the names are equal or
not. -/
theorem lookup_cons (key : Text) (value : Loose) (values : Values) (name : Text) :
    List.lookup name ((key, value) :: values)
      = if name = key then some value else values.lookup name := by
  rw [List.lookup_cons]
  by_cases heq : name = key
  · simp [heq]
  · have hname : (name == key) = false := by simpa using heq
    rw [hname, if_neg heq]

/-- Values of settings and of nothing else. -/
def OnlySettings (values : Values) : Prop := ∀ entry ∈ values, entry.1 ∈ names

/-- Where there are only settings, nothing else is found. So no source can
bring in a setting that is none. -/
theorem OnlySettings.lookup_eq_none (h : OnlySettings values) (hname : name ∉ names) :
    values.lookup name = none := by
  refine List.lookup_eq_none_iff.mpr fun entry hentry => ?_
  have hne : name ≠ entry.1 := fun heq => hname (heq ▸ h entry hentry)
  simpa using hne

/-- Names of settings are in small letters, so their case counts nothing
where only settings are given. -/
theorem OnlySettings.spelled?_eq (h : OnlySettings values) (name : Text) :
    spelled? values name = values.lookup name := by
  rw [spelled?]
  induction values with
  | nil => rfl
  | cons entry values ih =>
      obtain ⟨key, value⟩ := entry
      have hkey : key.toSmall = key := toSmall_of_mem_names (h (key, value) List.mem_cons_self)
      have hrest := ih fun other hother => h other (List.mem_cons_of_mem _ hother)
      rw [List.find?_cons, lookup_cons]
      by_cases heq : name = key
      · simp [heq, hkey]
      · have hsmall : (key.toSmall == name) = false := by simpa [hkey] using Ne.symm heq
        rw [hsmall, if_neg heq]
        exact hrest

/-- Names that none of the values has are not given twice, so the check
passes. -/
theorem checkNames_eq {taken : List (Text × Text)}
    (htaken : ∀ entry ∈ taken, values.lookup entry.1 = none) :
    checkNames values taken = .ok () := by
  have hnone : taken.find? (fun entry => (values.lookup entry.1).isSome) = none := by
    refine List.find?_eq_none.mpr fun entry hentry => ?_
    rw [htaken entry hentry]
    exact Bool.false_ne_true
  rw [checkNames, hnone]

/-- A name that is taken already is none of a setting. -/
theorem OnlySettings.checkNames_eq (h : OnlySettings values) {taken : List (Text × Text)}
    (htaken : ∀ entry ∈ taken, entry.1 ∉ names) : checkNames values taken = .ok () :=
  Settings.checkNames_eq fun entry hentry => h.lookup_eq_none (htaken entry hentry)

/-- Names that say something else than settings: those that begin with a
low line, and one that is taken. -/
def isReserved (name : Text) : Bool := name.head? == some (CodePoint.ofChar '_') || name == "cls"

/-- No setting has a reserved name. -/
theorem isReserved_of_mem_names (h : name ∈ names) : isReserved name = false := by
  have hall : ∀ name ∈ names, isReserved name = false := by decide
  exact hall name h

/-- Values under names that are not reserved. -/
def NoneReserved (values : Values) : Prop := ∀ entry ∈ values, isReserved entry.1 = false

/-- Where no name is reserved, no reserved one is found. So the lookup is
the usual one. -/
theorem NoneReserved.lookup_eq_none (h : NoneReserved values) (hname : isReserved name = true) :
    values.lookup name = none := by
  refine List.lookup_eq_none_iff.mpr fun entry hentry => ?_
  have hne : name ≠ entry.1 := fun heq => by
    rw [heq, h entry hentry] at hname
    exact Bool.false_ne_true hname
  simpa using hne

/-- Settings alone have no reserved names. -/
theorem OnlySettings.noneReserved (h : OnlySettings values) : NoneReserved values :=
  fun entry hentry => isReserved_of_mem_names (h entry hentry)

/-! ### Values in the place of others -/

/-- What is found where the value of a name is replaced: the new one under
this name if there was one, and everything else as it was. -/
theorem lookup_replace (values : Values) (name : Text) (value : Loose) (other : Text) :
    (values.map fun entry => if entry.1 == name then (entry.1, value) else entry).lookup other
      = if other = name then (values.lookup name).map fun _ => value
        else values.lookup other := by
  induction values with
  | nil => simp
  | cons entry values ih =>
      obtain ⟨key, old⟩ := entry
      rw [List.map_cons, lookup_cons, lookup_cons]
      by_cases hkey : key = name
      · subst hkey
        simp only [beq_self_eq_true, if_true, lookup_cons, ih]
        by_cases hother : other = key <;> simp [hother]
      · have hne : (key == name) = false := by simpa using hkey
        simp only [hne, Bool.false_eq_true, if_false, lookup_cons, ih]
        by_cases hother : other = name
        · rw [hother, if_neg (Ne.symm hkey), if_neg (Ne.symm hkey), if_pos rfl]
        · rw [if_neg hother, if_neg hother]

/-- A name is there exactly if something is found under it. The one is how
values are put, the other how they are read. -/
theorem any_eq_isSome_lookup (values : Values) (name : Text) :
    (values.any fun entry => entry.1 == name) = (values.lookup name).isSome := by
  induction values with
  | nil => rfl
  | cons entry values ih =>
      obtain ⟨key, value⟩ := entry
      rw [List.any_cons, lookup_cons, ih]
      by_cases heq : name = key
      · simp [heq]
      · have hkey : (key == name) = false := by simpa using Ne.symm heq
        rw [hkey, if_neg heq, Bool.false_or]

/-- What is found when a name was given a value: the value, and under other
names what was there. Whether it was replaced or added makes no difference
to that. -/
theorem lookup_putNamed (values : Values) (name : Text) (value : Loose) (other : Text) :
    (PairsView.putNamed values name value).lookup other
      = if other = name then some value else values.lookup other := by
  rw [PairsView.putNamed, PairsView.put, any_eq_isSome_lookup]
  cases hfound : values.lookup name with
  | some old =>
      rw [Option.isSome_some, if_pos rfl, lookup_replace, hfound]
      rfl
  | none =>
      rw [Option.isSome_none, if_neg Bool.false_ne_true, List.lookup_append, lookup_cons]
      by_cases hother : other = name
      · rw [if_pos hother, if_pos hother, hother, hfound]
        rfl
      · rw [if_neg hother, if_neg hother]
        exact Option.or_none

/-- Values that come later count, unless they give nothing for a name.
Induction on those that come later, each under a name of its own. -/
theorem lookup_overlaid (hothers : (others.map Prod.fst).Nodup) (values : Values) (name : Text) :
    (overlaid values others).lookup name = (others.lookup name).or (values.lookup name) := by
  rw [overlaid]
  induction others generalizing values with
  | nil => rfl
  | cons entry others ih =>
      obtain ⟨key, value⟩ := entry
      rw [List.map_cons, List.nodup_cons] at hothers
      rw [List.foldl_cons, ih hothers.2, lookup_putNamed, lookup_cons]
      by_cases heq : name = key
      · subst heq
        -- The name is not given again.
        have hnone : others.lookup name = none := by
          refine List.lookup_eq_none_iff.mpr fun other hother => ?_
          have hmem : other.1 ∈ others.map Prod.fst := List.mem_map_of_mem hother
          have hne : name ≠ other.1 := fun hsame => hothers.1 (hsame ▸ hmem)
          simpa using hne
        rw [hnone, if_pos rfl, if_pos rfl]
        rfl
      · rw [if_neg heq, if_neg heq]

/-- What holds of the names of some values and of a name holds when that is
given a value. -/
theorem forall_putNamed {p : Text → Prop} (h : ∀ entry ∈ values, p entry.1) (hname : p name)
    (value : Loose) : ∀ entry ∈ PairsView.putNamed values name value, p entry.1 := by
  intro entry hentry
  rw [PairsView.putNamed, PairsView.put] at hentry
  split at hentry
  · obtain ⟨old, hold, rfl⟩ := List.mem_map.mp hentry
    split
    · exact h old hold
    · exact h old hold
  · rcases List.mem_append.mp hentry with hentry | hentry
    · exact h entry hentry
    · rw [List.mem_singleton.mp hentry]
      exact hname

/-- What holds of the names of two lists of values holds of the names of
both, one laid over the other: no name is made up. -/
theorem forall_overlaid {p : Text → Prop} (h : ∀ entry ∈ values, p entry.1)
    (hothers : ∀ entry ∈ others, p entry.1) : ∀ entry ∈ overlaid values others, p entry.1 := by
  rw [overlaid]
  induction others generalizing values with
  | nil => exact h
  | cons entry others ih =>
      exact ih (forall_putNamed h (hothers entry List.mem_cons_self) entry.2)
        fun other hother => hothers other (List.mem_cons_of_mem _ hother)

/-- Settings laid over settings are settings: no name comes up that was in
neither. -/
theorem OnlySettings.overlaid (h : OnlySettings values) (hothers : OnlySettings others) :
    OnlySettings (overlaid values others) :=
  forall_overlaid h hothers

/-- Values laid over others bring in no reserved name that was in
neither. -/
theorem NoneReserved.overlaid (h : NoneReserved values) (hothers : NoneReserved others) :
    NoneReserved (overlaid values others) :=
  forall_overlaid (p := fun name => isReserved name = false) h hothers

/-- Whether entries are left out depends on their names, so what is left is
found as before. -/
theorem lookup_filter (p : Text → Bool) (values : Values) (name : Text) :
    (values.filter fun entry => p entry.1).lookup name
      = if p name = true then values.lookup name else none := by
  induction values with
  | nil => simp
  | cons entry values ih =>
      obtain ⟨key, value⟩ := entry
      rw [List.filter_cons, lookup_cons]
      by_cases heq : name = key
      · subst heq
        by_cases hp : p name = true <;> simp [hp, ih]
      · rw [if_neg heq, ← ih]
        split
        · rw [lookup_cons, if_neg heq]
        · rfl

/-- What is found among values that are given name by name: the value of the
name, if it is one of these and has one. -/
theorem lookup_filterMap (value : Text → Option Loose) (among : List Text) (name : Text) :
    (among.filterMap fun other => (value other).map fun v => (other, v)).lookup name
      = if name ∈ among then value name else none := by
  induction among with
  | nil => rfl
  | cons other among ih =>
      rw [List.filterMap_cons]
      by_cases heq : name = other
      · subst heq
        cases hvalue : value name with
        | none => simp [ih, hvalue]
        | some v => simp
      · cases hvalue : value other with
        | none => simp [ih, heq]
        | some v => simp [lookup_cons, ih, heq]

end DocScribe.Settings
