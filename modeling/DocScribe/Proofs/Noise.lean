import DocScribe.Proofs.Payload
import DocScribe.Proofs.Sections
import Mathlib.Logic.Relation

/-!
# `DocScribe.Proofs.Noise`: what a reply does not say

Models add keys that nobody asked for, write `null` for what they leave
out, mix the spellings of a key and put strange items into lists. Any
number of such changes to a payload, in the file or in any record inside
it, leaves the documentation as it is (`Reply.noise_unheard`).

A payload is brought into its outer shape before it is read as a record, so
the noise in its sections is followed through that first
(`Reply.saysSame_of_noise`); the records in the sections ignore it
(`Proofs/Record/Noise.lean`).
-/

set_option autoImplicit false

namespace DocScribe

open Schema

/-! ### Payloads of JSON texts -/

namespace Json

/-- A text that spells an object legible to replies is parsed as that
object. -/
theorem parse_of_spells {members : Members} {t : Text}
    (hlegible : Legible .common Dialect.common.nesting (.obj members))
    (ht : Spells (.obj members) t) : parse t = .ok (.obj members) := by
  have hend : Ends [] := fun c hc => absurd hc (by simp)
  have hread : readFront .common t = .ok (.obj members, []) := by
    have hread := readValue_append hlegible ht (hend.follows _)
    rwa [List.append_nil] at hread
  refine parse_of_readFront ht.starts ?_ hread
  obtain ⟨inside, rfl⟩ := ht.obj_braces
  rw [List.cons_append, List.head?_cons]
  decide

/-- So it is parsed as it was written. -/
theorem parse_write {members : Members}
    (hlegible : Legible .common Dialect.common.nesting (.obj members)) (style : Style) :
    parse ((Json.obj members).write style) = .ok (.obj members) :=
  parse_of_spells hlegible (spells_writeAt style _ 0 _ hlegible)

end Json

namespace Reply

/-- The payload of a text that is an object is the object, and the keys of
the object differ. -/
theorem extract_of_parse {t : Text} {payload : Json.Members}
    (h : Json.parse t = .ok (.obj payload)) :
    extract t = .ok payload ∧ payload.keys.Nodup := by
  obtain ⟨left, hread⟩ := Json.exists_readFront_of_parse h
  obtain ⟨inside, hinside⟩ := Json.exists_eq_cons_of_readValue hread
  refine ⟨extract_eq_ok_iff.mpr ?_, Json.nodup_keys_of_readValue hread⟩
  -- In front of the brace are blanks, so the search begins with it.
  have hblank : ∀ a b, t.takeWhile Json.isSpace ≠ a ++ openBrace :: b := by
    intro a b hab
    have hmem : openBrace ∈ t.takeWhile Json.isSpace :=
      hab ▸ List.mem_append_right a List.mem_cons_self
    exact absurd (List.all_eq_true.mp List.all_takeWhile _ hmem) (by decide)
  have hsplit : t = t.takeWhile Json.isSpace ++ openBrace :: inside := by
    conv_lhs => rw [← List.takeWhile_append_dropWhile (p := Json.isSpace) (l := t)]
    exact congrArg _ hinside
  replace hread : Json.readFront .common (openBrace :: inside) = .ok (.obj payload, left) :=
    hinside ▸ hread
  rw [hsplit, scan_append fun a b hab => absurd hab (hblank a b), scan,
    if_pos ⟨rfl, closeBrace_mem_of_readFront hread⟩, hread]

end Reply

/-! ### Noise in a payload -/

namespace Schema

/-- Noise gives an object no key twice: a key that it adds is new, and the
name of a field takes the place of its key. -/
theorem Noise.nodup_keys {r : RecordName} {m m' : Json.Members}
    (h : Noise (.record r) (.obj m) (.obj m')) (hm : m.keys.Nodup) : m'.keys.Nodup := by
  cases h with
  | unknownKey _ hnew => exact Json.Members.nodup_keys_insert_iff.mpr ⟨hnew, hm⟩
  | absentField _ hspelling habsent =>
      exact Json.Members.nodup_keys_insert_iff.mpr ⟨habsent _ hspelling, hm⟩
  | otherSpelling _ _ hname =>
      have hrest := (Json.Members.nodup_keys_insert_iff.mp hm).2
      exact Json.Members.nodup_keys_insert_iff.mpr ⟨hname, hrest⟩
  | reordered _ hperm => exact (hperm.map Prod.fst).nodup_iff.mp hm
  | inField _ _ _ =>
      exact Json.Members.nodup_keys_insert_iff.mpr (Json.Members.nodup_keys_insert_iff.mp hm)

/-- Noise in a list is noise in what has items, or in what has none and is
made a list of one. -/
theorem Noise.listed {shape : Shape RecordName} {value value' : Json}
    (h : Noise (.list shape) value value') :
    Reply.SameItems (.list shape) (Reply.listed (some value)) (Reply.listed (some value')) := by
  have hnoise := h
  cases h with
  | inItem _ => exact .inr hnoise
  | strayItem _ => exact .inr hnoise
  | nullItem => exact .inr hnoise
  | inOnly h =>
      -- An object stands for no list here.
      obtain ⟨m, m', rfl, rfl⟩ := h.exists_obj
      exact .inl rfl

end Schema

namespace Reply

/-- What counts as a section or as the overview is the same with `null`: a
section that is no list is empty, and so is one that is missing. -/
theorem listed_present {payload : Json.Members} (hkeys : payload.keys.Nodup) (k : Text) :
    listed (payload.present.get? k) = listed (payload.get? k)
      ∧ worded (payload.present.get? k) = worded (payload.get? k) := by
  rw [Json.Members.get?_present hkeys]
  cases payload.get? k with
  | none => exact ⟨rfl, rfl⟩
  | some value => cases value <;> exact ⟨rfl, rfl⟩

/-- A payload with noise says the same: its overview, its sections and what
is in them come out alike once both are brought into shape. One case for
each kind of noise. -/
theorem saysSame_of_noise {payload payload' : Json.Members}
    (h : Noise (.record .file) (.obj payload) (.obj payload')) (hkeys : payload.keys.Nodup) :
    SaysSame payload payload' := by
  have hkeys' := h.nodup_keys hkeys
  -- A label that has one spelling only cannot be moved to another.
  have hlook : ∀ {l : Label} {shape : Schema.Shape RecordName}, (l, shape) ∈ fieldsOf .file →
      l.key = l.name → payload'.present.get? l.key = payload.present.get? l.key
        ∨ ∃ value value', payload.present.get? l.key = some value
          ∧ payload'.present.get? l.key = some value' ∧ Noise shape value value' := by
    intro l shape hl hone
    cases h.alike hl with
    | same hsame => exact .inl (hsame l.key l.key_mem_spellings)
    | moved hnone hnone' _ => exact .inl (by rw [hnone', hone, hnone])
    | edited hspelling hvalue hvalue' hnoise _ =>
        rcases Label.mem_spellings_iff.mp hspelling with rfl | rfl
        · exact .inr ⟨_, _, hvalue, hvalue', hnoise⟩
        · exact .inr ⟨_, _, hone ▸ hvalue, hone ▸ hvalue', hnoise⟩
  refine ⟨?_, fun l hl shape hfield => ?_⟩
  · rw [overviewText, overviewText, ← (listed_present hkeys _).2, ← (listed_present hkeys' _).2]
    have hfield : (Labels.overview, .scalar) ∈ fieldsOf .file := List.mem_cons_self
    rcases hlook hfield rfl with hsame | ⟨_, _, -, -, hnoise⟩
    · rw [hsame]
    · cases hnoise
  · -- Every section is a list of records under its own name.
    have hshapes : ∀ field ∈ fieldsOf .file, field.1 ∈ Labels.sections →
        field.1.key = field.1.name ∧ ∃ name, field.2 = .list (.record name) := by
      simp only [fieldsOf, List.forall_mem_cons]
      exact ⟨fun h => absurd h (by decide), fun _ => ⟨rfl, _, rfl⟩, fun _ => ⟨rfl, _, rfl⟩,
        fun _ => ⟨rfl, _, rfl⟩, fun _ => ⟨rfl, _, rfl⟩, fun _ => ⟨rfl, _, rfl⟩,
        fun h => absurd h (by decide), fun h => absurd h (by decide), List.forall_mem_nil _⟩
    obtain ⟨hone, name, rfl⟩ := hshapes _ hfield hl
    rw [sectionItems, sectionItems, ← (listed_present hkeys _).1, ← (listed_present hkeys' _).1]
    rcases hlook hfield hone with hsame | ⟨value, value', hvalue, hvalue', hnoise⟩
    · exact .inl (by rw [hsame])
    · rw [hvalue, hvalue']
      exact hnoise.listed

/-! ### Any number of changes -/

/-- One payload is the other with any number of noisy changes. -/
def Noisy : Json.Members → Json.Members → Prop :=
  Relation.ReflTransGen fun m m' => Noise (.record .file) (.obj m) (.obj m')

/-- Noisy payloads hold the same documentation. Induction on the changes:
each of them leaves the keys apart and what is held as it was. If the
payload can be written with all of the noise, so it can with less. -/
theorem Noisy.exists_docOf {payload payload' : Json.Members} (h : Noisy payload payload')
    (hkeys : payload.keys.Nodup) (hwritable : (Json.obj payload').isWritable = true) :
    payload'.keys.Nodup ∧ ∃ doc, docOf payload = .ok doc ∧ docOf payload' = .ok doc := by
  induction h with
  | refl =>
      obtain ⟨doc, hdoc⟩ := Reply.exists_docOf hwritable
      exact ⟨hkeys, doc, hdoc, hdoc⟩
  | tail _ hnoise ih =>
      have hbefore := hnoise.isWritable hwritable
      obtain ⟨hkeys', doc, hdoc, hdoc'⟩ := ih hbefore
      obtain ⟨same, hsame, hsame'⟩ :=
        (saysSame_of_noise hnoise hkeys').exists_docOf hbefore hwritable
      obtain rfl := Except.ok.inj (hdoc'.symm.trans hsame)
      exact ⟨hnoise.nodup_keys hkeys', doc, hdoc, hsame'⟩

/-- **Noise in a reply is not heard.** However often a payload is changed
in what says nothing, at whatever depth, its JSON text is read as the same
documentation as before. -/
theorem noise_unheard {payload payload' : Json.Members} (hnoisy : Noisy payload payload')
    {t t' : Text} (ht : Json.parse t = .ok (.obj payload))
    (ht' : Json.parse t' = .ok (.obj payload')) :
    ∃ doc, normalize t = .ok doc ∧ normalize t' = .ok doc := by
  obtain ⟨hextract, hkeys⟩ := extract_of_parse ht
  obtain ⟨hextract', -⟩ := extract_of_parse ht'
  obtain ⟨-, doc, hdoc, hdoc'⟩ := hnoisy.exists_docOf hkeys (isWritable_of_extract hextract')
  exact ⟨doc, normalize_eq_ok_iff.mpr ⟨payload, hextract, hdoc⟩,
    normalize_eq_ok_iff.mpr ⟨payload', hextract', hdoc'⟩⟩

/-- A payload with one function. -/
def quietPayload : Json.Members :=
  [("functions", .arr [.obj [("name", .str "f"), ("returnType", .str "int")]])]

/-- The same with a section that is `null`, a number among the functions
and the other spelling of a key. -/
def noisyPayload : Json.Members :=
  [("classes", .null),
    ("functions", .arr [.int 7, .obj [("name", .str "f"), ("return_type", .str "int")]])]

/-- A payload with an unknown key, a field that is `null`, keys in another
order, names in the place of keys and an item that is none. -/
theorem noisy_quietPayload : Noisy quietPayload noisyPayload := by
  have hfunctions : (Labels.functions, .list (.record .function)) ∈ fieldsOf .file := by decide
  have hspelled : ("functions" : Text) ∈ Labels.functions.spellings := by decide
  have hreturn : (Labels.returnType, .scalar) ∈ fieldsOf .function := by decide
  have hclasses : (Labels.classes, .list (.record .classDefinition)) ∈ fieldsOf .file := by decide
  -- A member under its other spelling, an item that is no object, a section with nothing in it.
  have hkey : Noise (.record .file) (.obj quietPayload)
      (.obj [("functions", .arr [.obj [("name", .str "f"), ("return_type", .str "int")]])]) :=
    .inField (a := []) hfunctions hspelled (.inItem (a := []) (.otherSpelling
      (a := [("name", .str "f")]) hreturn (by decide) (by decide)))
  have hnumber : Noise (.record .file)
      (.obj [("functions", .arr [.obj [("name", .str "f"), ("return_type", .str "int")]])])
      (.obj [("functions",
        .arr [.int 7, .obj [("name", .str "f"), ("return_type", .str "int")]])]) :=
    .inField (a := []) hfunctions hspelled (.strayItem (a := []) rfl)
  have hsection : Noise (.record .file)
      (.obj [("functions",
        .arr [.int 7, .obj [("name", .str "f"), ("return_type", .str "int")]])])
      (.obj noisyPayload) :=
    .absentField (a := []) hclasses (by decide) (by decide)
  exact .tail (.tail (.tail .refl hkey) hnumber) hsection

/-- Both are read as one function that returns an integer. The one has what
the other has, and noise of five kinds. -/
theorem noise_unheard_noisyPayload :
    ∃ doc, normalize ((Json.obj quietPayload).write .oneLine) = .ok doc
      ∧ normalize ((Json.obj noisyPayload).write .oneLine) = .ok doc := by
  have hwhole : ∀ t ∈ (["functions", "classes", "name", "f", "returnType", "return_type", "int"] :
      List Text), Json.IsWhole t := by decide
  have hplain := fun t ht => (hwhole t ht).legibleText .common
  simp only [List.forall_mem_cons] at hplain
  obtain ⟨hfunctions, hclasses, hname, hf, hkey, hspelling, hint, -⟩ := hplain
  have hquiet : Json.Legible .common (987 + 3) (.obj quietPayload) := by
    simp only [quietPayload, Json.Legible, List.forall_mem_cons]
    exact ⟨by decide,
      ⟨hfunctions, ⟨by decide, ⟨hname, hf⟩, ⟨hkey, hint⟩, by simp⟩, by simp⟩, by simp⟩
  have hnoisy : Json.Legible .common (987 + 3) (.obj noisyPayload) := by
    simp only [noisyPayload, Json.Legible, List.forall_mem_cons]
    exact ⟨by decide, ⟨hclasses, trivial⟩, ⟨hfunctions, (by decide : (Text.ofNat 7).length ≤ _),
      ⟨by decide, ⟨hname, hf⟩, ⟨hspelling, hint⟩, by simp⟩, by simp⟩, by simp⟩
  exact noise_unheard noisy_quietPayload (Json.parse_write hquiet .oneLine)
    (Json.parse_write hnoisy .oneLine)

end Reply

end DocScribe
