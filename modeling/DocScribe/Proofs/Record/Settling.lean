import DocScribe.Proofs.Json.Grammar
import DocScribe.Proofs.Json.Members
import DocScribe.Record.Reader

/-!
# `DocScribe.Proofs.Record.Settling`: members after the first stage

The first stage goes through the fields one after the other and puts
values back where it took them from. Where no spelling belongs to two
fields the order does not count: under each spelling stands what its
own field makes of the value that stood there (`get?_of_settle`). The
stage fails only where the conversion of a value does
(`exists_of_settle_eq_error`).

The spellings do not depend on a record: that none belongs to two
fields, and that none has a surrogate, is settled here once for each of
the nine record types (`IsPlain`).
-/

set_option autoImplicit false

namespace DocScribe

/-- A field is spelled in one or in two ways. If its key is its name, it is
spelled once and not twice. -/
theorem Label.nodup_spellings (l : Label) : l.spellings.Nodup := by
  rw [Label.spellings]
  split
  · simp
  · next h => simpa using h

/-- The key of a field is one of its spellings. -/
theorem Label.key_mem_spellings (l : Label) : l.key ∈ l.spellings := by
  rw [Label.spellings]
  split <;> exact List.mem_cons_self

/-- A field is spelled by its key or by its name, and in no other way. It
does not matter here that these may be the same. -/
theorem Label.mem_spellings_iff {l : Label} {spelling : Text} :
    spelling ∈ l.spellings ↔ spelling = l.key ∨ spelling = l.name := by
  rw [Label.spellings]
  split
  · next h => rw [List.mem_singleton, ← h, or_self]
  · simp

/-- The spellings of fields, in order. -/
def spellingsOf {β : Type} (fields : List (Label × β)) : List Text :=
  fields.flatMap fun field => field.1.spellings

/-- Where no two spellings are the same, a spelling belongs to one field.
Induction on the fields. -/
theorem eq_of_mem_spellings {β : Type} {fields : List (Label × β)}
    (hdistinct : (spellingsOf fields).Nodup) {field other : Label × β} (hfield : field ∈ fields)
    (hother : other ∈ fields) {k : Text} (hk : k ∈ field.1.spellings)
    (hk' : k ∈ other.1.spellings) : field = other := by
  induction fields with
  | nil => exact absurd hfield List.not_mem_nil
  | cons first fields ih =>
      rw [spellingsOf, List.flatMap_cons, List.nodup_append] at hdistinct
      obtain ⟨-, hrest, hapart⟩ := hdistinct
      -- What the first field is spelled like, no field behind it is.
      have hnot : ∀ f ∈ fields, k ∈ f.1.spellings → k ∉ first.1.spellings :=
        fun f hf hkf hfirst => hapart k hfirst k (List.mem_flatMap.mpr ⟨f, hf, hkf⟩) rfl
      rcases List.mem_cons.mp hfield with rfl | hbehind
      · rcases List.mem_cons.mp hother with rfl | hbehind'
        · rfl
        · exact absurd hk (hnot _ hbehind' hk')
      · rcases List.mem_cons.mp hother with rfl | hbehind'
        · exact absurd hk' (hnot _ hbehind hk)
        · exact ih hrest hbehind hbehind'

/-- What a coercion leaves of a value, where the conversion does not
fail. -/
def Coercion.kept? (coerce : Coercion) (value : Json) : Option Json :=
  match coerce value with
  | .ok settled => settled
  | .error _ => none

/-- A value is kept in some form exactly if the coercion gives that
form. -/
theorem Coercion.kept?_eq_some_iff {coerce : Coercion} {value settled : Json} :
    coerce.kept? value = some settled ↔ coerce value = .ok (some settled) := by
  rw [kept?]
  cases coerce value <;> simp

/-- One spelling settled: its own value goes through the coercion,
every other one stays. -/
theorem get?_of_settleSpelling {coerce : Coercion} {members settled : Json.Members}
    {spelling : Text} (h : settleSpelling coerce members spelling = .ok settled) (k : Text) :
    settled.get? k
      = if k = spelling then (members.get? spelling).bind coerce.kept? else members.get? k := by
  rw [settleSpelling] at h
  cases hvalue : members.get? spelling with
  | none =>
      rw [hvalue] at h
      obtain rfl := Except.ok.inj h
      by_cases hk : k = spelling
      · rw [if_pos hk, hk, hvalue]
        rfl
      · rw [if_neg hk]
  | some value =>
      rw [hvalue] at h
      dsimp only at h
      rw [Option.bind_some, Coercion.kept?]
      cases hcoerce : coerce value with
      | error kind => rw [hcoerce] at h; cases h
      | ok kept? =>
          rw [hcoerce] at h
          obtain rfl := Except.ok.inj h
          cases kept? with
          | none => exact Json.Members.get?_without members spelling k
          | some value' => exact Json.Members.get?_put members spelling value' k

/-- Settling a spelling fails only if the conversion of its value
does. -/
theorem exists_of_settleSpelling_eq_error {coerce : Coercion} {members : Json.Members}
    {spelling : Text} {kind : IssueKind}
    (h : settleSpelling coerce members spelling = .error kind) :
    ∃ value, members.get? spelling = some value ∧ coerce value = .error kind := by
  rw [settleSpelling] at h
  cases hvalue : members.get? spelling with
  | none =>
      rw [hvalue] at h
      cases h
  | some value =>
      rw [hvalue] at h
      dsimp only at h
      refine ⟨value, rfl, ?_⟩
      cases hcoerce : coerce value with
      | ok kept? =>
          rw [hcoerce] at h
          cases h
      | error kind' =>
          rw [hcoerce] at h
          rw [Except.error.inj h]

/-- Steps that may fail succeed if the first one does and the others
do from there. -/
theorem foldlM_cons_eq_ok_iff {β γ : Type} {step : β → γ → Except IssueKind β} {c : γ}
    {cs : List γ} {first last : β} :
    (c :: cs).foldlM step first = .ok last
      ↔ ∃ next, step first c = .ok next ∧ cs.foldlM step next = .ok last := by
  rw [List.foldlM_cons]
  cases hstep : step first c with
  | error kind =>
      refine ⟨fun h => (nomatch h), fun h => ?_⟩
      obtain ⟨_, hnext, _⟩ := h
      cases hnext
  | ok next =>
      refine ⟨fun h => ⟨next, rfl, h⟩, fun h => ?_⟩
      obtain ⟨_, hnext, hlast⟩ := h
      obtain rfl := Except.ok.inj hnext
      exact hlast

/-- Steps that may fail do so at the first one or behind it, which is how
the faults of a list of coercions are taken apart. -/
theorem foldlM_cons_eq_error {β γ : Type} {step : β → γ → Except IssueKind β} {c : γ}
    {cs : List γ} {first : β} {kind : IssueKind}
    (h : (c :: cs).foldlM step first = .error kind) :
    step first c = .error kind
      ∨ ∃ next, step first c = .ok next ∧ cs.foldlM step next = .error kind := by
  rw [List.foldlM_cons] at h
  cases hstep : step first c with
  | error kind' =>
      rw [hstep] at h
      exact .inl (congrArg _ (Except.error.inj h))
  | ok next =>
      rw [hstep] at h
      exact .inr ⟨next, rfl, h⟩

/-- Spellings that are not settled keep their values. Induction on the
spellings. -/
theorem get?_of_foldlM_settleSpelling_of_not_mem {coerce : Coercion} {spellings : List Text}
    {members settled : Json.Members}
    (h : spellings.foldlM (settleSpelling coerce) members = .ok settled) {k : Text}
    (hk : k ∉ spellings) : settled.get? k = members.get? k := by
  induction spellings generalizing members with
  | nil => rw [Except.ok.inj h]
  | cons spelling spellings ih =>
      rw [List.mem_cons, not_or] at hk
      obtain ⟨next, hnext, hlast⟩ := foldlM_cons_eq_ok_iff.mp h
      rw [ih hlast hk.2, get?_of_settleSpelling hnext, if_neg hk.1]

/-- Each of several spellings is settled from its own value, if no two of
them are the same: settling one leaves the others as they were. -/
theorem get?_of_foldlM_settleSpelling {coerce : Coercion} {spellings : List Text}
    (hdistinct : spellings.Nodup) {members settled : Json.Members}
    (h : spellings.foldlM (settleSpelling coerce) members = .ok settled) {k : Text}
    (hk : k ∈ spellings) : settled.get? k = (members.get? k).bind coerce.kept? := by
  induction spellings generalizing members with
  | nil => exact absurd hk (by simp)
  | cons spelling spellings ih =>
      rw [List.nodup_cons] at hdistinct
      obtain ⟨next, hnext, hlast⟩ := foldlM_cons_eq_ok_iff.mp h
      -- Either `k` is settled now and left alone later, or the other way round.
      by_cases hsame : k = spelling
      · rw [get?_of_foldlM_settleSpelling_of_not_mem hlast (hsame ▸ hdistinct.1),
          get?_of_settleSpelling hnext, if_pos hsame, hsame]
      · have hmem : k ∈ spellings := (List.mem_cons.mp hk).resolve_left hsame
        rw [ih hdistinct.2 hlast hmem, get?_of_settleSpelling hnext, if_neg hsame]

/-- Settling several spellings fails only if a conversion of one of
their values does: a step leaves the values of the others as they
were. -/
theorem exists_of_foldlM_settleSpelling_eq_error {coerce : Coercion} {spellings : List Text}
    (hdistinct : spellings.Nodup) {members : Json.Members} {kind : IssueKind}
    (h : spellings.foldlM (settleSpelling coerce) members = .error kind) :
    ∃ k ∈ spellings, ∃ value, members.get? k = some value ∧ coerce value = .error kind := by
  induction spellings generalizing members with
  | nil => cases h
  | cons spelling spellings ih =>
      rw [List.nodup_cons] at hdistinct
      rcases foldlM_cons_eq_error h with hfirst | ⟨next, hnext, hrest⟩
      · exact ⟨spelling, List.mem_cons_self, exists_of_settleSpelling_eq_error hfirst⟩
      · obtain ⟨k, hk, value, hvalue, hcoerce⟩ := ih hdistinct.2 hrest
        have hne : k ≠ spelling := fun heq => hdistinct.1 (heq ▸ hk)
        rw [get?_of_settleSpelling hnext, if_neg hne] at hvalue
        exact ⟨k, List.mem_cons_of_mem _ hk, value, hvalue, hcoerce⟩

/-- Fields without a spelling leave its value alone, however many of them
are settled. -/
theorem get?_of_foldlM_settleField_of_not_mem {coercions : List (Label × Coercion)}
    {members settled : Json.Members} (h : coercions.foldlM settleField members = .ok settled)
    {k : Text} (hk : k ∉ spellingsOf coercions) : settled.get? k = members.get? k := by
  induction coercions generalizing members with
  | nil => rw [Except.ok.inj h]
  | cons field coercions ih =>
      rw [spellingsOf, List.flatMap_cons, List.mem_append, not_or] at hk
      obtain ⟨next, hnext, hlast⟩ := foldlM_cons_eq_ok_iff.mp h
      rw [ih hlast hk.2, get?_of_foldlM_settleSpelling_of_not_mem hnext hk.1]

/-- Under a spelling stands what its field makes of the value there. The
other fields, before and behind, do not touch it. Induction on the
fields. -/
theorem get?_of_foldlM_settleField {coercions : List (Label × Coercion)}
    (hdistinct : (spellingsOf coercions).Nodup) {members settled : Json.Members}
    (h : coercions.foldlM settleField members = .ok settled) {field : Label × Coercion}
    (hfield : field ∈ coercions) {k : Text} (hk : k ∈ field.1.spellings) :
    settled.get? k = (members.get? k).bind field.2.kept? := by
  induction coercions generalizing members with
  | nil => exact absurd hfield (by simp)
  | cons first coercions ih =>
      rw [spellingsOf, List.flatMap_cons, List.nodup_append] at hdistinct
      obtain ⟨_, hrest, hapart⟩ := hdistinct
      obtain ⟨next, hnext, hlast⟩ := foldlM_cons_eq_ok_iff.mp h
      rcases List.mem_cons.mp hfield with rfl | hfield
      · have hnot : k ∉ spellingsOf coercions := fun hmem => hapart k hk k hmem rfl
        rw [get?_of_foldlM_settleField_of_not_mem hlast hnot,
          get?_of_foldlM_settleSpelling (Label.nodup_spellings _) hnext hk]
      · have hmem : k ∈ spellingsOf coercions := List.mem_flatMap.mpr ⟨field, hfield, hk⟩
        have hnot : k ∉ first.1.spellings := fun hfirst => hapart k hfirst k hmem rfl
        rw [ih hrest hlast hfield, get?_of_foldlM_settleSpelling_of_not_mem hnext hnot]

/-- Settling fields fails only if a conversion of one of their values
does. -/
theorem exists_of_foldlM_settleField_eq_error {coercions : List (Label × Coercion)}
    (hdistinct : (spellingsOf coercions).Nodup) {members : Json.Members} {kind : IssueKind}
    (h : coercions.foldlM settleField members = .error kind) :
    ∃ field ∈ coercions, ∃ k ∈ field.1.spellings, ∃ value,
      members.get? k = some value ∧ field.2 value = .error kind := by
  induction coercions generalizing members with
  | nil => cases h
  | cons first coercions ih =>
      rw [spellingsOf, List.flatMap_cons, List.nodup_append] at hdistinct
      obtain ⟨_, hrest, hapart⟩ := hdistinct
      rcases foldlM_cons_eq_error h with hfirst | ⟨next, hnext, hbehind⟩
      · exact ⟨first, List.mem_cons_self,
          exists_of_foldlM_settleSpelling_eq_error first.1.nodup_spellings hfirst⟩
      · obtain ⟨field, hfield, k, hk, value, hvalue, hcoerce⟩ := ih hrest hbehind
        have hmem : k ∈ spellingsOf coercions := List.mem_flatMap.mpr ⟨field, hfield, hk⟩
        have hnot : k ∉ first.1.spellings := fun hfirst => hapart k hfirst k hmem rfl
        rw [get?_of_foldlM_settleSpelling_of_not_mem hnext hnot] at hvalue
        exact ⟨field, List.mem_cons_of_mem _ hfield, k, hk, value, hvalue, hcoerce⟩

/-- Members without those that hold `null`. -/
def Json.Members.present (members : Json.Members) : Json.Members :=
  members.filter fun m => !m.2.isNull

/-- What stands under a key that counts is not `null`. -/
theorem Json.Members.isNull_of_get?_present {members : Json.Members} {key : Text} {value : Json}
    (h : members.present.get? key = some value) : value.isNull = false := by
  have hmem := List.mem_filter.mp (mem_of_get? h)
  simpa using hmem.2

section

variable {coercions : List (Label × Coercion)} {members settled : Json.Members}

/-- The first stage, seen under one spelling of a field. Other fields do not
count, since no two of them share a spelling. -/
theorem get?_of_settle (hdistinct : (spellingsOf coercions).Nodup)
    (h : settle coercions members = .ok settled) {field : Label × Coercion}
    (hfield : field ∈ coercions) {k : Text} (hk : k ∈ field.1.spellings) :
    settled.get? k = (members.present.get? k).bind field.2.kept? :=
  get?_of_foldlM_settleField hdistinct h hfield hk

/-- The first stage fails only if the conversion of a value that counts
does. -/
theorem exists_of_settle_eq_error (hdistinct : (spellingsOf coercions).Nodup) {kind : IssueKind}
    (h : settle coercions members = .error kind) :
    ∃ field ∈ coercions, ∃ k ∈ field.1.spellings, ∃ value,
      members.present.get? k = some value ∧ field.2 value = .error kind :=
  exists_of_foldlM_settleField_eq_error hdistinct h

/-- The first stage succeeds where no conversion of a value that counts
fails. -/
theorem exists_settle (hdistinct : (spellingsOf coercions).Nodup)
    (h : ∀ field ∈ coercions, ∀ k ∈ field.1.spellings, ∀ value,
      members.present.get? k = some value → ∃ kept?, field.2 value = .ok kept?) :
    ∃ settled, settle coercions members = .ok settled := by
  cases hsettle : settle coercions members with
  | ok settled => exact ⟨settled, rfl⟩
  | error kind =>
      obtain ⟨field, hfield, k, hk, value, hvalue, herror⟩ :=
        exists_of_settle_eq_error hdistinct hsettle
      obtain ⟨kept?, hkept⟩ := h field hfield k hk value hvalue
      cases hkept.symm.trans herror

/-- What the second stage finds of a field is the coerced form of a
value among the members other than `null`. -/
theorem coerced_of_locate? (hdistinct : (spellingsOf coercions).Nodup)
    (hsettle : settle coercions members = .ok settled) {field : Label × Coercion}
    (hfield : field ∈ coercions) {spelling : Text} {value : Json}
    (h : field.1.locate? settled = some (spelling, value)) :
    ∃ m ∈ members, m.2.isNull = false ∧ field.2 m.2 = .ok (some value) := by
  -- Whichever spelling was taken, it is one of the field's own.
  have hfound : ∃ k ∈ field.1.spellings, settled.get? k = some value := by
    rw [Label.locate?] at h
    split at h
    · next hkey =>
      simp only [Option.some.injEq, Prod.mk.injEq] at h
      exact ⟨field.1.key, field.1.key_mem_spellings, h.2 ▸ hkey⟩
    · rw [Option.map_eq_some_iff] at h
      obtain ⟨value', hname, heq⟩ := h
      simp only [Prod.mk.injEq] at heq
      exact ⟨field.1.name, Label.mem_spellings_iff.mpr (.inr rfl), heq.2 ▸ hname⟩
  obtain ⟨k, hk, hvalue⟩ := hfound
  rw [get?_of_settle hdistinct hsettle hfield hk, Option.bind_eq_some_iff] at hvalue
  obtain ⟨given, hgiven, hkept⟩ := hvalue
  exact ⟨(k, given), (List.mem_filter.mp (Json.Members.mem_of_get? hgiven)).1,
    Json.Members.isNull_of_get?_present hgiven, Coercion.kept?_eq_some_iff.mp hkept⟩

end

/-! ### The spellings of the record types -/

variable {α : Type}

/-- All texts of a list are whole. -/
def AllWhole (ts : List Text) : Prop := ∀ t ∈ ts, Json.IsWhole t

instance (ts : List Text) : Decidable (AllWhole ts) :=
  inferInstanceAs (Decidable (∀ t ∈ ts, Json.IsWhole t))

namespace RecordType

/-- The spellings of the fields of a record type, in order. -/
def spellings (r : RecordType α) : List Text := spellingsOf r.fields.coercions

/-- Every spelling belongs to one field and is whole. -/
def IsPlain (r : RecordType α) : Prop := r.spellings.Nodup ∧ AllWhole r.spellings

instance (r : RecordType α) : Decidable r.IsPlain :=
  inferInstanceAs (Decidable (r.spellings.Nodup ∧ AllWhole r.spellings))

end RecordType

/-- The fields of parameters have spellings without surrogates, and no two
of them share one; so they can be told apart in any object. -/
theorem ParameterDoc.isPlain : ParameterDoc.recordType.IsPlain := by decide

/-- The spellings of a function's fields differ, and none has a
surrogate. -/
theorem FunctionDoc.isPlain : FunctionDoc.recordType.IsPlain := by decide

/-- The spellings of a constructor's fields are of this kind, too. -/
theorem ConstructorDoc.isPlain : ConstructorDoc.recordType.IsPlain := by decide

/-- The spellings of a property's fields are of this kind, too. -/
theorem PropertyDoc.isPlain : PropertyDoc.recordType.IsPlain := by decide

/-- The spellings of a class's fields are of this kind, too. -/
theorem ClassDoc.isPlain : ClassDoc.recordType.IsPlain := by decide

/-- The spellings of an interface's fields are of this kind, too. -/
theorem InterfaceDoc.isPlain : InterfaceDoc.recordType.IsPlain := by decide

/-- The spellings of a constant's fields are of this kind, too. -/
theorem ConstantDoc.isPlain : ConstantDoc.recordType.IsPlain := by decide

/-- The spellings of a type's fields are of this kind, too. -/
theorem TypeDoc.isPlain : TypeDoc.recordType.IsPlain := by decide

/-- The spellings of a file's fields are of this kind, those of its labels
included. -/
theorem FileDoc.isPlain : FileDoc.recordType.IsPlain := by decide

end DocScribe
