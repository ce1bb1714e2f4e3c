import DocScribe.Proofs.Search

/-!
# `DocScribe.Proofs.Truncation`: replies that were cut off

A reply may end before its object does. That object is not read then
(`Json.readValue_of_cut`). But the search for a payload goes on behind
the first brace, and an object inside of the object may be complete. So a
reply that was cut off is refused as malformed exactly if none of its
later braces opens a value before the cut
(`truncated_reply_refused_iff`). Otherwise the first object that can be
read there is taken for the documentation of the file.
-/

set_option autoImplicit false

namespace DocScribe

open Json

namespace Reply

/-! ### A first brace that opens nothing -/

variable {rest : Text}

/-- Where the first brace of a reply opens nothing, the reply is refused
as malformed exactly if the braces behind it open nothing. -/
theorem normalize_malformed_iff (h : Faulty (readFront .common (openBrace :: rest))) :
    (∃ m, normalize (openBrace :: rest) = .error (.malformed m)) ↔ OpensNothing rest := by
  simp only [normalize_eq_error_iff]
  rw [extract_malformed_iff, opensNothing_cons, and_iff_right fun _ => h]

/-- If it gives documentation, that is what one of the braces behind the
first one opens. -/
theorem exists_of_normalize {doc : FileDoc} (h : Faulty (readFront .common (openBrace :: rest)))
    (hdoc : normalize (openBrace :: rest) = .ok doc) :
    ∃ a b members left, rest = a ++ openBrace :: b
      ∧ readFront .common (openBrace :: b) = .ok (.obj members, left)
      ∧ docOf members = .ok doc := by
  obtain ⟨members, hextract, hof⟩ := normalize_eq_ok_iff.mp hdoc
  obtain ⟨a, b, left, hab, hread⟩ := exists_of_scan (extract_eq_ok_iff.mp hextract)
  cases a with
  | nil =>
      obtain ⟨fault, left', hfaulty⟩ := h
      obtain rfl := (List.cons.inj hab).2
      exact nomatch hread.symm.trans hfaulty
  | cons x a => exact ⟨a, b, members, left, (List.cons.inj hab).2, hread, hof⟩

/-! ### Documentation that was cut off -/

/-- Of an object that was cut off nothing is left, or its brace, which
opens nothing. -/
theorem cut_obj {members : Members} {t cut : Text}
    (hlegible : Legible .common Dialect.common.nesting (.obj members))
    (ht : Spells (.obj members) t) (hcut : cut <+: t) (hne : cut ≠ t) :
    cut = [] ∨ ∃ rest, cut = openBrace :: rest
      ∧ Faulty (readFront .common (openBrace :: rest)) := by
  obtain ⟨inside, rfl⟩ := ht.obj_braces
  rcases cut_container hcut hne with rfl | ⟨rest, rfl, -⟩
  · exact .inl rfl
  · rcases readValue_of_cut hlegible ht hcut hne with hfaulty | ⟨n, _, hint, _⟩
    · exact .inr ⟨rest, rfl, hfaulty⟩
    · exact nomatch hint

/-- **When a reply that was cut off is refused.** Cut off anywhere, a
text of a legible object that shows documentation is refused as
malformed exactly if none of the braces behind its first one opens a
value in what is left. Whatever is accepted is the documentation in an
object that one of these braces opens, and once the text of any legible
object inside is complete, the reply is not refused as malformed. All
objects that show documentation without surrogates are legible
(`FileDoc.legible`). -/
theorem truncated_reply_refused_iff (doc : FileDoc) (value : Json) (hshows : doc.Shows value)
    (hlegible : Legible .common Dialect.common.nesting value) (t : Text) (ht : Spells value t)
    (cut : Text) (hcut : cut <+: t) (hne : cut ≠ t) :
    ((∃ m, normalize cut = .error (.malformed m)) ↔ OpensNothing cut.tail)
      ∧ (∀ other, normalize cut = .ok other → ∃ a b members left,
          cut.tail = a ++ openBrace :: b
            ∧ readFront .common (openBrace :: b) = .ok (.obj members, left)
            ∧ docOf members = .ok other)
      ∧ ∀ a inner b members, cut.tail = a ++ inner ++ b → Spells (.obj members) inner →
          Legible .common Dialect.common.nesting (.obj members) →
          ∀ m, normalize cut ≠ .error (.malformed m) := by
  obtain ⟨members, rfl, -⟩ := FileDoc.reads_of_shows doc value hshows
  have hrefused : (∃ m, normalize cut = .error (.malformed m)) ↔ OpensNothing cut.tail := by
    rcases cut_obj hlegible ht hcut hne with rfl | ⟨rest, rfl, hfirst⟩
    · exact iff_of_true ⟨_, rfl⟩ fun a b hab => absurd hab (by simp)
    · exact normalize_malformed_iff hfirst
  refine ⟨hrefused, fun other hother => ?_, ?_⟩
  · rcases cut_obj hlegible ht hcut hne with rfl | ⟨rest, rfl, hfirst⟩
    · exact nomatch hother
    · exact exists_of_normalize hfirst hother
  · intro a inner b members hin hinner hlegible m hm
    obtain ⟨inside, rfl⟩ := hinner.obj_braces
    have hnothing := hrefused.mp ⟨m, hm⟩ a (inside ++ [closeBrace] ++ b)
      (by rw [hin, List.cons_append, List.append_assoc, List.cons_append, List.append_assoc])
      (by simp)
    obtain ⟨fault, left, hfaulty⟩ := hnothing
    have hread : readFront .common (openBrace :: (inside ++ [closeBrace] ++ b))
        = .ok (.obj members, b) := readValue_append hlegible hinner trivial
    exact nomatch hread.symm.trans hfaulty

/-- A file with one function. -/
def queue : FileDoc :=
  ⟨"A queue.", [⟨"push", [], [], [], [], [], []⟩], [], [], [], [], none, none⟩

/-- The example has no surrogates, as all of it is ASCII. -/
theorem queue_isWhole : queue.IsWhole :=
  ⟨by decide, by simpa [queue] using ⟨by decide, by decide, by simp, by decide, by decide,
    by simp [AllWhole], by decide⟩, by simp [queue], by simp [queue], by simp [queue],
    by simp [queue], by simp [queue], by simp [queue]⟩

/-- The example nests no deeper than the reader goes. -/
theorem queue_legible : Legible .common Dialect.common.nesting (queue.toJson .shown) :=
  FileDoc.legible queue_isWhole 983 _ (queue.shows_toJson .shown)

/-- What a model writes about it. -/
def queueReply : Text :=
  (queue.toJson .shown).write .oneLine

/-- The reply spells the example, so what holds of cut replies holds of
it. -/
theorem queueReply_spells : Spells (queue.toJson .shown) queueReply :=
  spells_writeAt .oneLine _ 0 _ queue_legible

/-- Cut off in its function it is refused. -/
theorem queueReply_refused : ∃ m, normalize (queueReply.take 60) = .error (.malformed m) := by
  have hclose : closeBrace ∉ (queueReply.take 60).tail := by decide +kernel
  have hcut : queueReply.take 60 <+: queueReply := List.take_prefix 60 _
  have hrefused := (truncated_reply_refused_iff queue _ (queue.shows_toJson .shown) queue_legible _
    queueReply_spells _ hcut (by decide +kernel)).1
  exact hrefused.mpr (opensNothing_of_not_mem hclose)

/-- Cut off behind its function it is accepted, and the file has neither
an overview nor a function. -/
theorem queueReply_accepted :
    queue.Shows (queue.toJson .shown) ∧ Spells (queue.toJson .shown) queueReply
      ∧ queueReply.take 200 <+: queueReply ∧ queueReply.take 200 ≠ queueReply
      ∧ normalize (queueReply.take 200) = .ok ⟨[], [], [], [], [], [], none, none⟩ :=
  ⟨queue.shows_toJson .shown, queueReply_spells, List.take_prefix 200 _, by decide +kernel,
    by decide +kernel⟩

end Reply

end DocScribe
