import DocScribe.Proofs.Document.RoundTrip
import DocScribe.Proofs.Extraction
import DocScribe.Proofs.Json.Bounds
import DocScribe.Proofs.Record.Acceptance

/-!
# `DocScribe.Proofs.Leniency`: what is refused is no object

Loosely shaped JSON is read without a refusal wherever an object stands
whose integers can be written. That is so of everything that was read
from a text, so two places that prepare for a refusal are settled: the
payload of a reply always gives documentation (`exists_docOf`), and an
archive is refused for the items that are no objects and for nothing
else (`exists_load_eq`).

An object that was never a text may hold an integer of more digits than
can be written. Where a text is wanted it is refused for that, and for
nothing else (`writable_objects_never_refused`,
`ParameterDoc.ofJson_tooLongInteger`).
-/

set_option autoImplicit false

namespace DocScribe

/-! ### Issues that add up -/

namespace Checked

variable {α β : Type}

/-- A value that is refused for some issues, if there are any. -/
def withIssues (issues : List Issue) (a : α) : Checked α :=
  if issues.isEmpty then .ok a else .bad issues

/-- The issues of a field stand behind those of the fields before
it. -/
theorem app_withIssues (issues more : List Issue) (f : α → β) (a : α) :
    app (withIssues issues f) (withIssues more a) = withIssues (issues ++ more) (f a) := by
  cases issues with
  | nil => cases more <;> rfl
  | cons issue issues => cases more <;> simp [withIssues, app]

/-- Issues that are collected stay when the value goes on to be part of
another. -/
theorem map_withIssues (issues : List Issue) (f : α → β) (a : α) :
    map f (withIssues issues a) = withIssues issues (f a) := by
  cases issues <;> rfl

end Checked

/-! ### Archives -/

/-- Whether a value is an object. -/
def Json.isObject : Json → Bool
  | .obj _ => true
  | _ => false

namespace Archive

/-- An issue at the index of each item that is no object, in the order
of the items; the first item has the index `n`. -/
def misfits (n : Nat) (items : List Json) : List Issue :=
  ((items.zipIdx n).filter fun item => !item.1.isObject).map
    fun item => ⟨.notObject, [.index item.2]⟩

/-- Misfits are numbered by the places of the items, so the rest of a list
is looked at from the next place on. -/
theorem misfits_cons (n : Nat) (item : Json) (items : List Json) :
    misfits n (item :: items) = misfits n [item] ++ misfits (n + 1) items := by
  rw [misfits, List.zipIdx_cons, ← List.singleton_append, List.filter_append, List.map_append]
  rfl

/-- Nothing is out of place exactly if all items are objects. Induction on
the items. -/
theorem misfits_eq_nil_iff {n : Nat} {items : List Json} :
    misfits n items = [] ↔ ∀ item ∈ items, item.isObject = true := by
  induction items generalizing n with
  | nil => simp [misfits]
  | cons item items ih =>
      rw [misfits_cons, List.append_eq_nil_iff, ih, List.forall_mem_cons]
      refine and_congr_left fun _ => ?_
      cases hobject : item.isObject <;> simp [misfits, hobject]

/-- One item that can be written is refused if it is no object, and for
nothing else. -/
theorem exists_checkItem_eq (n : Nat) {item : Json} (hitem : item.isWritable = true) :
    ∃ doc : FileDoc, checkItem [.index n] item = .withIssues (misfits n [item]) doc := by
  cases item with
  | obj members =>
      obtain ⟨doc, hdoc⟩ := FileDoc.isLenient.exists_reads hitem
      exact ⟨doc, hdoc _⟩
  -- There is an issue, so any documentation will do.
  | _ => exact ⟨⟨[], [], [], [], [], [], none, none⟩, rfl⟩

/-- The items of an archive are refused for those that are no objects,
and for nothing else. -/
theorem exists_each_eq (n : Nat) {items : List Json}
    (hitems : ∀ item ∈ items, item.isWritable = true) :
    ∃ docs : List FileDoc,
      Checked.each [] checkItem n items = .withIssues (misfits n items) docs := by
  induction items generalizing n with
  | nil => exact ⟨[], rfl⟩
  | cons item items ih =>
      rw [List.forall_mem_cons] at hitems
      obtain ⟨doc, hdoc⟩ := exists_checkItem_eq n hitems.1
      obtain ⟨docs, hdocs⟩ := ih (n + 1) hitems.2
      refine ⟨doc :: docs, ?_⟩
      -- The issues of the first item stand before those of the others.
      rw [Checked.each, List.nil_append, hdoc, hdocs, Checked.map_withIssues,
        Checked.app_withIssues, ← misfits_cons]

/-- What was decoded can be written: it was read. -/
theorem isWritable_of_decode {t : Text} {value : Json} (h : decode t = .ok value) :
    value.isWritable = true := by
  obtain ⟨_, rest, hread⟩ := exists_readFront_of_decode h
  exact Json.isWritable_of_readValue hread

/-- Loading an archive whose text holds a list: what the objects are read
as, with an issue for every item that is none. -/
theorem exists_load_eq {t : Text} {items : List Json} (h : decode t = .ok (.arr items)) :
    ∃ docs : List FileDoc,
      load t = (Checked.withIssues (misfits 0 items) docs).toExcept title := by
  obtain ⟨docs, hdocs⟩ := exists_each_eq 0 (Json.isWritable_arr.mp (isWritable_of_decode h))
  refine ⟨docs, ?_⟩
  rw [load, h]
  show (Checked.each [] checkItem 0 items).toExcept title = _
  rw [hdocs]

/-- A list is loaded exactly if all of its items are objects. What is in
these does not matter, since their integers were read and are short enough
to be written. -/
theorem exists_load_ok_iff {t : Text} {items : List Json} (h : decode t = .ok (.arr items)) :
    (∃ docs, load t = .ok docs) ↔ ∀ item ∈ items, item.isObject = true := by
  obtain ⟨docs, hload⟩ := exists_load_eq h
  rw [hload, ← misfits_eq_nil_iff (n := 0)]
  cases misfits 0 items with
  | nil => exact ⟨fun _ => rfl, fun _ => ⟨docs, rfl⟩⟩
  | cons issue issues =>
      refine ⟨fun hok => ?_, fun hnil => absurd hnil (by simp)⟩
      obtain ⟨_, hok⟩ := hok
      exact absurd hok (by simp [Checked.withIssues, Checked.toExcept])

/-- A list with other items is refused, with one issue for each of them in
its place, and with no other issue. -/
theorem load_of_misfit {t : Text} {items : List Json} (h : decode t = .ok (.arr items))
    (hmisfit : ∃ item ∈ items, item.isObject = false) :
    load t = .error ⟨title, misfits 0 items⟩ := by
  obtain ⟨docs, hload⟩ := exists_load_eq h
  obtain ⟨item, hitem, hno⟩ := hmisfit
  have hne : misfits 0 items ≠ [] := by
    intro hnil
    have hobject := misfits_eq_nil_iff.mp hnil item hitem
    exact absurd hobject (by simp [hno])
  rw [hload]
  cases hissues : misfits 0 items with
  | nil => exact absurd hissues hne
  | cons issue issues => rfl

end Archive

/-! ### Replies -/

namespace Reply

/-- What the search finds can be written: it was read, and an integer that
is too long would have ended the reading. -/
theorem isWritable_of_scan {reply : Text} {payload : Json.Members}
    (h : scan reply = .ok (some payload)) : (Json.obj payload).isWritable = true := by
  induction reply with
  | nil => cases h
  | cons c rest ih =>
      rw [scan] at h
      split at h
      · split at h
        · next members left hread =>
          obtain rfl := Option.some.inj (Except.ok.inj h)
          exact Json.isWritable_of_readValue hread
        · exact ih h
        · exact ih h
        · cases h
        · cases h
      · exact ih h

/-- A payload can be written, wherever in the reply it was found: behind one
of its braces, or in the span from the first to the last of them. A span
that holds no object counts as an empty one. -/
theorem isWritable_of_extract {reply : Text} {payload : Json.Members}
    (h : extract reply = .ok payload) : (Json.obj payload).isWritable = true := by
  rw [extract] at h
  split at h
  · cases h
  split at h
  · cases h
  · next members hscan =>
    obtain rfl := Except.ok.inj h
    exact isWritable_of_scan hscan
  · split at h
    · next value hparse =>
      obtain rfl := Except.ok.inj h
      obtain ⟨left, hread⟩ := Json.exists_readFront_of_parse hparse
      have hvalue := Json.isWritable_of_readValue hread
      cases value with
      | obj members => exact hvalue
      | _ => rfl
    · cases h
    · cases h
    · cases h

/-- A payload that is brought into its outer shape, without what is said
of the source, can still be written: what is put there holds no
integers. -/
theorem isWritable_withoutSource_shape {payload : Json.Members}
    (h : (Json.obj payload).isWritable = true) :
    (Json.obj (withoutSource (shape payload))).isWritable = true := by
  have hput {members : Json.Members} (key : Text) {value : Json}
      (hmembers : (Json.obj members).isWritable = true) (hvalue : value.isWritable = true) :
      (Json.obj (members.put key value)).isWritable = true := by
    rw [Json.isWritable_obj] at hmembers ⊢
    exact fun m hm => (Json.Members.forall_put (P := fun _ => True)
      (Q := fun value => value.isWritable = true) (fun m hm => ⟨trivial, hmembers m hm⟩) trivial
      hvalue m hm).2
  have hshape : (Json.obj (shape payload)).isWritable = true :=
    shape_of_put (P := fun members => (Json.obj members).isWritable = true)
      (fun l _ _ hmembers => hput l.key hmembers rfl)
      (fun _ hmembers => hput Labels.overview.key hmembers rfl) h
  rw [Json.isWritable_obj] at hshape ⊢
  exact fun m hm => hshape m (List.mem_filter.mp hm).1

/-- A payload that can be written holds documentation, whatever else
stands in it. -/
theorem exists_docOf {payload : Json.Members} (h : (Json.obj payload).isWritable = true) :
    ∃ doc, docOf payload = .ok doc := by
  obtain ⟨doc, hdoc⟩ := FileDoc.isLenient.exists_reads (isWritable_withoutSource_shape h)
  exact ⟨doc, hdoc.ofJson⟩

/-- A payload that was found gives documentation. So a reply is refused
because none was found, and for no other reason. -/
theorem exists_normalize_eq {reply : Text} {payload : Json.Members}
    (h : extract reply = .ok payload) : ∃ doc, normalize reply = .ok doc := by
  obtain ⟨doc, hdoc⟩ := exists_docOf (isWritable_of_extract h)
  refine ⟨doc, ?_⟩
  rw [normalize, h]
  simp only [hdoc]

/-- The search along the braces passes over what does not decode, so its own
errors are the limits of the reader. -/
theorem scan_ne_malformed (reply : Text) (m : MalformedReply) :
    scan reply ≠ .error (.malformed m) := by
  induction reply with
  | nil => simp [scan]
  | cons c rest ih =>
      rw [scan]
      split
      · split <;> simp_all
      · exact ih

/-- A search without a payload says nothing about fields: its errors are
about the text. -/
theorem extract_ne_mismatched (reply : Text) (rejection : Rejection) (excerpt : Text) :
    extract reply ≠ .error (.malformed ⟨.mismatched rejection, excerpt⟩) := by
  rw [extract]
  split
  · simp
  cases hscan : scan reply with
  | error e =>
      intro h
      simp only [Except.error.injEq] at h
      exact scan_ne_malformed reply _ (h ▸ hscan)
  | ok found =>
      cases found with
      | some members => simp
      | none =>
          dsimp only
          split <;> simp

/-- No reply is refused because its payload does not fit. Everything that
can be read is coerced, so the error for fields that do not fit never comes
up. -/
theorem normalize_ne_mismatched (reply : Text) (rejection : Rejection) (excerpt : Text) :
    normalize reply ≠ .error (.malformed ⟨.mismatched rejection, excerpt⟩) := by
  cases hextract : extract reply with
  | error e =>
      have hnormalize : normalize reply = .error e := by rw [normalize, hextract]
      rw [hnormalize]
      intro h
      -- An error can only be one of the search, and that has no fields yet.
      have he := Except.error.inj h
      exact extract_ne_mismatched reply rejection excerpt (he ▸ hextract)
  | ok payload =>
      obtain ⟨doc, hdoc⟩ := exists_normalize_eq hextract
      rw [hdoc]
      simp

end Reply

/-! ### All places together -/

/-- **Objects are refused for integers that are too long, and for nothing
else.** Each of the nine record types takes every object whose integers
can be written, whatever stands in it; if an object with longer integers
is refused, all that is reported is that they are too long. No payload of
a reply and no text of an archive holds such integers. So the payload of a
reply always gives documentation, and a list in an archive is loaded
exactly if all of its items are objects; if they are not, there is one
issue for each of the others, at its index and in the order of the
list. -/
theorem writable_objects_never_refused :
    ParameterDoc.recordType.TakesObjects
      ∧ FunctionDoc.recordType.TakesObjects
      ∧ ConstructorDoc.recordType.TakesObjects
      ∧ PropertyDoc.recordType.TakesObjects
      ∧ ClassDoc.recordType.TakesObjects
      ∧ InterfaceDoc.recordType.TakesObjects
      ∧ ConstantDoc.recordType.TakesObjects
      ∧ TypeDoc.recordType.TakesObjects
      ∧ FileDoc.recordType.TakesObjects
      ∧ (∀ reply payload, Reply.extract reply = .ok payload →
          ∃ doc, Reply.normalize reply = .ok doc)
      ∧ (∀ reply rejection excerpt,
          Reply.normalize reply ≠ .error (.malformed ⟨.mismatched rejection, excerpt⟩))
      ∧ ∀ t items, Archive.decode t = .ok (.arr items) →
          ((∃ docs, Archive.load t = .ok docs) ↔ ∀ item ∈ items, item.isObject = true)
            ∧ ((∃ item ∈ items, item.isObject = false) →
              Archive.load t = .error ⟨Archive.title, Archive.misfits 0 items⟩) := by
  refine ⟨ParameterDoc.isLenient.takesObjects, FunctionDoc.isLenient.takesObjects,
    ConstructorDoc.isLenient.takesObjects, PropertyDoc.isLenient.takesObjects,
    ClassDoc.isLenient.takesObjects, InterfaceDoc.isLenient.takesObjects,
    ConstantDoc.isLenient.takesObjects, TypeDoc.isLenient.takesObjects,
    FileDoc.isLenient.takesObjects, ?_, ?_, ?_⟩
  · intro reply payload hextract
    exact Reply.exists_normalize_eq hextract
  · exact Reply.normalize_ne_mismatched
  · intro t items hdecode
    exact ⟨Archive.exists_load_ok_iff hdecode, Archive.load_of_misfit hdecode⟩

/-- A parameter named by a number is taken. Of three items of an archive
the first and the last are no objects. -/
theorem taken_between_misfits :
    (∃ p, ParameterDoc.recordType.ofJson (.obj [("name", .int 7)]) = .ok p)
      ∧ Archive.load ((Json.arr [.int 7, .obj [], .null]).write .oneLine)
        = .error ⟨Archive.title, [⟨.notObject, [.index 0]⟩, ⟨.notObject, [.index 2]⟩]⟩ := by
  have hlegible : Json.Legible .archive Json.Dialect.archive.nesting
      (.arr [.int 7, .obj [], .null]) := by
    intro item hitem
    simp only [List.mem_cons, List.not_mem_nil, or_false] at hitem
    rcases hitem with rfl | rfl | rfl
    · show (Text.ofNat 7).length ≤ Json.digitLimit
      decide
    · exact ⟨List.nodup_nil, fun m hm => absurd hm (by simp)⟩
    · exact trivial
  obtain ⟨hparameter, _, _, _, _, _, _, _, _, _, _, harchive⟩ := writable_objects_never_refused
  refine ⟨hparameter.ok_of_isWritable _ (by decide), ?_⟩
  exact (harchive _ _ (Archive.decode_write hlegible .oneLine)).2 ⟨.null, by simp, rfl⟩

/-- The power of ten with the exponent `k` has more than `k` digits. -/
theorem lt_length_ofNat_pow {k : Nat} (hk : 0 < k) : k < (Text.ofNat (10 ^ k)).length := by
  rw [Text.ofNat, List.length_map, ← Nat.not_le, Nat.length_toDigits_le_iff (by decide) hk,
    Nat.not_lt]

/-- The least integer that cannot be written: a power of ten that has one
digit more than the limit. -/
def tooLongInteger : Int := ((10 ^ Json.digitLimit : Nat) : Int)

/-- It cannot be written. -/
theorem isWritable_tooLongInteger : (Json.int tooLongInteger).isWritable = false := by
  rw [Json.isWritable, decide_eq_false_iff_not, Nat.not_le, tooLongInteger, Int.natAbs_natCast]
  exact lt_length_ofNat_pow (by decide)

/-- A parameter with an integer for a name is refused if the integer is too
long. -/
theorem ParameterDoc.ofJson_of_isWritable_eq_false {n : Int}
    (h : (Json.int n).isWritable = false) :
    ParameterDoc.recordType.ofJson (.obj [("name", .int n)])
      = .error ⟨"ParameterDoc", [⟨Leaf.integerTooLong, []⟩]⟩ := by
  have htext : Leaf.text (.int n) = .error Leaf.integerTooLong := by
    rw [Leaf.text, Leaf.written, h]
    · rfl
    · rintro _ ⟨⟩
  have hfirst : settleSpelling FieldType.text.coerce [("name", .int n)] "name"
      = .error Leaf.integerTooLong := by
    show ((Leaf.text (.int n)).map _).map _ = _
    rw [htext]
    rfl
  have hsettle : settle ParameterDoc.recordType.fields.coercions [("name", .int n)]
      = .error Leaf.integerTooLong := by
    show ((settleSpelling FieldType.text.coerce [("name", .int n)] "name").bind _).bind _ = _
    rw [hfirst]
    rfl
  rw [RecordType.ofJson, RecordType.check, RecordType.ofMembers, hsettle]
  rfl

/-- The least integer that is too long is refused as the name of a
parameter. -/
theorem ParameterDoc.ofJson_tooLongInteger :
    ParameterDoc.recordType.ofJson (.obj [("name", .int tooLongInteger)])
      = .error ⟨"ParameterDoc", [⟨Leaf.integerTooLong, []⟩]⟩ :=
  ofJson_of_isWritable_eq_false isWritable_tooLongInteger

end DocScribe
