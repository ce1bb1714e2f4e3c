import DocScribe.Proofs.Noise
import DocScribe.Proofs.Record.Leaves

/-!
# `DocScribe.Proofs.Mistyped`: what a reply says in the place of text

Models put numbers, flags, lists and objects where text was asked for.
Nothing of that is lost: the documentation of a reply keeps every leaf of
the payload that belongs to a text, in every record of every section and
at every depth (`Reply.leaves_kept`). `Proofs/Record/Leaves.lean` says what
it is to keep a leaf.

One kind of string does not come back from its text: one in which the
first half of a surrogate pair stands directly in front of a second half.
A reply without surrogates has no such string in its payload, because the
reader joins the halves of an escaped pair. A reply with one half as it is
and the other one escaped has (`Reply.halves_joined`).

The overview of a reply counts only if it is a text: the payload is
brought into its outer shape first. Documentation that is loaded from a
payload itself keeps an overview of any kind.
-/

set_option autoImplicit false

namespace DocScribe

open Json

namespace Reply

/-! ### Payloads -/

/-- A payload was read from one of the braces of its reply. What is read
there may stop before the end of the reply. -/
theorem exists_readFront_of_extract {reply : Text} {payload : Json.Members}
    (h : extract reply = .ok payload) :
    ∃ b left, b <:+ reply ∧ readFront .common b = .ok (.obj payload, left) := by
  obtain ⟨a, b, left, rfl, hread⟩ := exists_of_scan (extract_eq_ok_iff.mp h)
  exact ⟨_, left, List.suffix_append a _, hread⟩

/-- What is extracted from a reply was read from it, so it is within the
bounds of the reader. -/
theorem inBounds_of_extract {reply : Text} {payload : Json.Members}
    (h : extract reply = .ok payload) : (Json.obj payload).InBounds := by
  obtain ⟨b, left, -, hread⟩ := exists_readFront_of_extract h
  exact fits_of_readValue rfl hread

/-- A member that is put leaves an object within the bounds, unless its value nests
too deep. -/
theorem inBounds_put {members : Json.Members} (h : (Json.obj members).InBounds) (key : Text)
    {value : Json} (hvalue : Fits (Dialect.common.nesting - 1) value) :
    (Json.obj (members.put key value)).InBounds := by
  refine ⟨nodup_keys_put h.1 key value, fun m hm => ?_⟩
  exact (Members.forall_put (P := fun _ => True) (Q := Fits (Dialect.common.nesting - 1))
    (fun m hm => ⟨trivial, h.2 m hm⟩) trivial hvalue m hm).2

/-- Bringing a payload into its outer shape leaves it within the bounds:
what is put in are empty lists, lists of what was there, and text. -/
theorem inBounds_prepared {payload : Json.Members} (h : (Json.obj payload).InBounds) :
    (Json.obj (prepared payload)).InBounds := by
  have hshape : (Json.obj (shape payload)).InBounds :=
    shape_of_put (P := fun members => (Json.obj members).InBounds)
      (fun l _ _ hmembers => inBounds_put hmembers l.key (List.forall_mem_nil _))
      (fun _ hmembers => inBounds_put hmembers Labels.overview.key trivial) h
  -- Leaving out what is said of the source only takes members away.
  refine ⟨?_, fun m hm => hshape.2 m (List.mem_filter.mp hm).1⟩
  exact hshape.1.sublist (List.filter_sublist.map Prod.fst)

/-- No halves of a pair meet in a payload of a reply without
surrogates. -/
theorem unpaired_of_extract {reply : Text} {payload : Json.Members}
    (h : extract reply = .ok payload) (hwhole : IsWhole reply) :
    ∀ t ∈ (Json.obj payload).strings, Unpaired t := by
  obtain ⟨b, left, hsuffix, hread⟩ := exists_readFront_of_extract h
  exact unpaired_of_readValue (isWhole_of_subset hsuffix.subset hwhole) hread

/-! ### The documentation of a reply -/

/-- What the documentation of a reply keeps of its payload: the overview,
if it is a text, and every record among the items of the five sections. -/
structure Keeps (payload : Json.Members) (doc : FileDoc) : Prop where
  overview : doc.overview = overviewText payload
  functions : Leaf.KeepsRecords FunctionDoc.nameLabel FunctionDoc.Keeps
    (.arr (sectionItems payload Labels.functions)) doc.functions
  classes : Leaf.KeepsRecords ClassDoc.nameLabel ClassDoc.Keeps
    (.arr (sectionItems payload Labels.classes)) doc.classes
  interfaces : Leaf.KeepsRecords InterfaceDoc.nameLabel InterfaceDoc.Keeps
    (.arr (sectionItems payload Labels.interfaces)) doc.interfaces
  constants : Leaf.KeepsRecords ConstantDoc.nameLabel ConstantDoc.Keeps
    (.arr (sectionItems payload Labels.constants)) doc.constants
  types : Leaf.KeepsRecords TypeDoc.nameLabel TypeDoc.Keeps
    (.arr (sectionItems payload Labels.types)) doc.types

/-- Documentation that keeps a prepared payload keeps the payload: preparing
it moves what stands for a list into one, and drops the labels only. -/
theorem keeps_of_prepared {payload : Json.Members} {doc : FileDoc}
    (h : doc.Keeps (prepared payload)) : Keeps payload doc := by
  -- What the outer shape makes sure of is what counts.
  have hsection {l : Label} (hl : l ∈ Labels.sections) :
      l.held? (prepared payload) = some (.arr (sectionItems payload l)) := by
    rw [Label.held?, Label.locate?, get?_prepared_section payload hl]
    rfl
  have hoverview :
      Labels.overview.held? (prepared payload) = some (.str (overviewText payload)) := by
    rw [Label.held?, Label.locate?, get?_prepared_overview]
    rfl
  obtain ⟨overview, functions, classes, interfaces, constants, types, -, -⟩ := h
  rw [Label.Keeps, hoverview] at overview
  rw [Label.Keeps, hsection (by decide)] at functions classes interfaces constants types
  exact ⟨overview, functions, classes, interfaces, constants, types⟩

/-- **Mistyped leaves lose nothing.** Documentation loaded from a payload
within the bounds of the reader keeps all leaves of the payload that belong
to texts. The payload of a reply is always within the bounds, and the
documentation of the reply keeps its leaves as well. If the reply has no
surrogates, no halves of a pair meet in a string of the payload, so every
leaf that is no string is decoded from its text. -/
theorem leaves_kept :
    (∀ payload : Json.Members, (Json.obj payload).InBounds →
      ∃ doc, FileDoc.recordType.ofJson (.obj payload) = .ok doc ∧ doc.Keeps payload)
    ∧ ∀ (reply : Text) (payload : Json.Members), extract reply = .ok payload →
        (Json.obj payload).InBounds
          ∧ (∃ doc, normalize reply = .ok doc ∧ Keeps payload doc)
          ∧ (IsWhole reply → ∀ t ∈ (Json.obj payload).strings, Unpaired t) := by
  refine ⟨fun payload hbounds => ?_, fun reply payload h => ?_⟩
  · obtain ⟨doc, hkeeps, hreads⟩ := FileDoc.keeps _ hbounds
    exact ⟨doc, hreads.ofJson, hkeeps⟩
  · have hbounds := inBounds_of_extract h
    refine ⟨hbounds, ?_, unpaired_of_extract h⟩
    obtain ⟨doc, hkeeps, hreads⟩ := FileDoc.keeps _ (inBounds_prepared hbounds)
    have hdoc : docOf payload = .ok doc := hreads.ofJson
    refine ⟨doc, ?_, keeps_of_prepared hkeeps⟩
    rw [normalize, h]
    simp only [hdoc]

/-- A function with a number for a name, and with a number and `null` among
its examples. -/
def mistypedFunction : Json.Members :=
  [("name", .float (Double.ofDecimal true 15 (-1))),
    ("examples", .arr [.int 7, .null, .str "f(x)"])]

/-- A payload with this function. -/
def mistyped : Json.Members := [("functions", .arr [.obj mistypedFunction])]

/-- Both numbers are decoded from the texts that are kept of them, and the
string is kept as it is. -/
theorem leaves_kept_mistyped :
    ∃ (doc : FileDoc) (f : FunctionDoc) (t : Text),
      normalize ((Json.obj mistyped).write .oneLine) = .ok doc ∧ doc.functions = [f]
        ∧ Json.parse f.name = .ok (.float (Double.ofDecimal true 15 (-1)))
        ∧ f.examples = [t, "f(x)"] ∧ Json.parse t = .ok (.int 7) := by
  have hbounds : Fits (986 + 4) (.obj mistyped) := by
    have hdigits : (Text.ofNat 7).length ≤ digitLimit := by decide
    simp only [mistyped, mistypedFunction, Fits, List.forall_mem_cons]
    refine ⟨by decide, ⟨⟨by decide, trivial, ⟨hdigits, trivial, trivial, ?_⟩, ?_⟩, ?_⟩, ?_⟩ <;>
      exact List.forall_mem_nil _
  have hunpaired : ∀ t ∈ (Json.obj mistyped).strings, Unpaired t := by
    have hwhole : ∀ t ∈ (["functions", "name", "examples", "f(x)"] : List Text), IsWhole t := by
      decide
    exact fun t ht => ((hwhole t ht).legibleText .common).1
  have hparse := (parse_write_iff hbounds).mpr hunpaired
  obtain ⟨-, ⟨doc, hdoc, hkeeps⟩, -⟩ := leaves_kept.2 _ _ (extract_of_parse hparse).1
  have hfunctions : List.Forall₂ FunctionDoc.Keeps [mistypedFunction] doc.functions :=
    hkeeps.functions
  obtain ⟨f, fs, hf, hfs, hdoc'⟩ := List.forall₂_cons_left_iff.mp hfunctions
  obtain rfl := List.forall₂_nil_left_iff.mp hfs
  have hname : Leaf.Keeps (.float (Double.ofDecimal true 15 (-1))) f.name := hf.name
  have hexamples : List.Forall₂ Leaf.Keeps [.int 7, .str "f(x)"] f.examples := hf.examples
  obtain ⟨t, ts, ht, hts, hexamples'⟩ := List.forall₂_cons_left_iff.mp hexamples
  obtain ⟨u, us, hu, hus, rfl⟩ := List.forall₂_cons_left_iff.mp hts
  obtain rfl := List.forall₂_nil_left_iff.mp hus
  obtain rfl : u = "f(x)" := hu
  exact ⟨doc, f, t, hdoc, hdoc', hname.mpr (List.forall_mem_nil _), hexamples',
    ht.mpr (List.forall_mem_nil _)⟩

/-- A reply with the first half of a pair in front of an escape for the
second half. -/
def splitPair : Text :=
  "\x7b\"constants\":[\x7b\"value\":[\"" ++ CodePoint.ofNatD 0xD800 :: "\\udc00\"]\x7d]\x7d"

/-- The value that stands there for a text: a list of one string. -/
def halves : Json := .arr [.str [CodePoint.ofNatD 0xD800, CodePoint.ofNatD 0xDC00]]

/-- Whether a constant with one value was read, a list of one string. -/
def readsValue (t : Text) : Except ReplyError Json.Members → Bool
  | .ok [(l, .arr [.obj [(k, .arr [.str u])]])] => l == "constants" && k == "value" && u == t
  | _ => false

/-- The value is not decoded from the text that is kept of it. Its string
has two halves of a pair that do not meet in the reply, and do meet in the
text. -/
theorem halves_joined :
    extract splitPair = .ok [("constants", .arr [.obj [("value", halves)]])]
      ∧ ∃ doc c, normalize splitPair = .ok doc ∧ doc.constants = [c]
        ∧ Json.parse c.value ≠ .ok halves := by
  refine ⟨?_, ⟨[], [], [], [], [⟨[], [], halves.write .oneLine, []⟩], [], none, none⟩, _,
    by decide +kernel, rfl, ?_⟩
  · have hread : readsValue [CodePoint.ofNatD 0xD800, CodePoint.ofNatD 0xDC00]
        (extract splitPair) = true := by decide +kernel
    rw [readsValue.eq_def] at hread
    split at hread
    · next hextract =>
      simp only [Bool.and_eq_true, beq_iff_eq] at hread
      obtain ⟨⟨rfl, rfl⟩, rfl⟩ := hread
      exact hextract
    · cases hread
  · have hbounds : halves.InBounds := List.forall_mem_singleton.mpr trivial
    show Json.parse (halves.write .oneLine) ≠ .ok halves
    rw [ne_eq, parse_write_iff hbounds]
    intro hunpaired
    have hmeet := (forall_strings_str.mp
      (forall_strings_arr.mp hunpaired _ (List.mem_singleton_self _))).1 (by decide) _ rfl
    exact absurd hmeet (by decide)

end Reply

end DocScribe
