import DocScribe.Proofs.Json.Consumption
import DocScribe.Proofs.Limits

/-!
# `DocScribe.Proofs.Payload`: where the payload of a reply begins

The payload of a reply is the object at the first place where a value
decodes, among all opening braces of the reply
(`payload_at_first_opening`). The search does not try all of them: it
leaves out those that have no closing brace behind them. It misses
nothing, since an object ends with a closing brace
(`OpensAt.closeBrace_mem`).

Where no value decodes, the reply is refused. Either it has no span from
an opening to a closing brace, or the report is the one about the span
from the first opening to the last closing brace, and there is one:
nothing can be read of the span where nothing decodes
(`exists_parse_span`).

All of this is about replies in which no attempt to decode runs into a
limit. `Proofs/Limits.lean` says what comes of the others.
-/

set_option autoImplicit false

namespace DocScribe

open Json

namespace Reply

variable {reply : Text}

/-! ### Places in a reply -/

/-- What stands at a place of a text divides the text. The part in front is
as long as the place is far. -/
theorem exists_append_of_getElem? {p : Nat} {c : CodePoint} (h : reply[p]? = some c) :
    ∃ a b, reply = a ++ c :: b ∧ a.length = p := by
  obtain ⟨hlt, rfl⟩ := List.getElem?_eq_some_iff.mp h
  refine ⟨reply.take p, reply.drop (p + 1), ?_, List.length_take_of_le hlt.le⟩
  rw [← List.drop_eq_getElem_cons hlt, List.take_append_drop]

/-- What stands behind a text stands at the position of its length. -/
theorem getElem?_length_append (a : Text) (c : CodePoint) (b : Text) :
    (a ++ c :: b)[a.length]? = some c := by
  rw [List.getElem?_append_right (Nat.le_refl _), Nat.sub_self, List.getElem?_cons_zero]

/-- A value decodes at an opening brace of the reply. -/
def OpensAt (reply : Text) (p : Nat) (value : Json) : Prop :=
  reply[p]? = some openBrace ∧ ∃ left, readFront .common (reply.drop p) = .ok (value, left)

/-- A value opens at a brace if one can be read from there; what stands
before the brace makes no difference. -/
theorem opensAt_append {a b : Text} {value : Json} :
    OpensAt (a ++ openBrace :: b) a.length value
      ↔ ∃ left, readFront .common (openBrace :: b) = .ok (value, left) := by
  rw [OpensAt, List.drop_left, and_iff_right (getElem?_length_append a openBrace b)]

/-- Where a value opens the reply is cut in two, the brace being the first
of the second part. -/
theorem OpensAt.exists_append {p : Nat} {value : Json} (h : OpensAt reply p value) :
    ∃ a b left, reply = a ++ openBrace :: b ∧ a.length = p
      ∧ readFront .common (openBrace :: b) = .ok (value, left) := by
  obtain ⟨a, b, rfl, rfl⟩ := exists_append_of_getElem? h.1
  obtain ⟨left, hread⟩ := opensAt_append.mp h
  exact ⟨a, b, left, rfl, rfl, hread⟩

/-- Behind the brace of an object stands a closing one. -/
theorem closeBrace_mem_of_readFront {b left : Text} {value : Json}
    (h : readFront .common (openBrace :: b) = .ok (value, left)) : closeBrace ∈ b :=
  (closing_suffix_of_readValue h).subset List.mem_cons_self

/-- A place where a value decodes has a closing brace behind it. So the
first check of the search turns nothing away that would decode. -/
theorem OpensAt.closeBrace_mem {p : Nat} {value : Json} (h : OpensAt reply p value) :
    closeBrace ∈ reply.drop (p + 1) := by
  obtain ⟨a, b, left, rfl, rfl, hread⟩ := h.exists_append
  rw [← List.drop_drop, List.drop_left]
  exact closeBrace_mem_of_readFront hread

/-- Where the braces are passed over no value decodes: none of them opens
one, and values of this kind begin with a brace. -/
theorem PassedOver.not_opensAt {a b : Text} (h : PassedOver a (openBrace :: b)) {p : Nat}
    (hp : p < a.length) (value : Json) : ¬ OpensAt (a ++ openBrace :: b) p value := by
  rintro ⟨hopen, hdecodes⟩
  rw [List.getElem?_append_left hp] at hopen
  obtain ⟨u, v, rfl, rfl⟩ := exists_append_of_getElem? hopen
  rw [List.append_assoc, List.drop_left] at hdecodes
  obtain ⟨left, hread⟩ := hdecodes
  obtain ⟨fault, left', hfaulty⟩ := h u v rfl (closeBrace_mem_of_readFront hread)
  exact nomatch hread.symm.trans hfaulty

/-- So no value decodes anywhere if the braces open nothing. To open
something at a place there has to be a brace. -/
theorem OpensNothing.not_opensAt (h : OpensNothing reply) (p : Nat) (value : Json) :
    ¬ OpensAt reply p value := by
  intro hopens
  obtain ⟨a, b, left, rfl, rfl, hread⟩ := hopens.exists_append
  obtain ⟨fault, left', hfaulty⟩ := h a b rfl (closeBrace_mem_of_readFront hread)
  exact nomatch hread.symm.trans hfaulty

/-! ### What is extracted -/

/-- What a reply in which no limit is met gives: the object at the least
place where a value decodes. If there is none, the reply is refused. It
has no opening brace or no closing one behind it, or else the report is
about the span between the first opening and the last closing brace. -/
inductive Extraction (reply : Text) : Except ReplyError Members → Prop where
  | payload (p : Nat) (members : Members) (hopens : OpensAt reply p (.obj members))
      (hleast : ∀ q < p, ∀ value, ¬ OpensAt reply q value) : Extraction reply (.ok members)
  | noSpan
      (hapart : ∀ p q : Nat, reply[p]? = some openBrace → reply[q]? = some closeBrace → q < p) :
      Extraction reply (.error (.malformed ⟨.noPayload, excerpt reply⟩))
  | undecodable (before inner after : Text) (report : Malformed)
      (hnone : ∀ p value, ¬ OpensAt reply p value)
      (hreply : reply = before ++ openBrace :: (inner ++ closeBrace :: after))
      (hfirst : openBrace ∉ before) (hlast : closeBrace ∉ after)
      (hreport : Json.parse (openBrace :: inner ++ [closeBrace]) = .error (.malformed report)) :
      Extraction reply (.error (.malformed ⟨.undecodable report, excerpt reply⟩))

/-- All closing braces stand before all opening ones exactly if there is
none from the first opening one on. -/
theorem apart_iff :
    (∀ p q : Nat, reply[p]? = some openBrace → reply[q]? = some closeBrace → q < p)
      ↔ closeBrace ∉ fromBrace reply := by
  constructor
  · intro hapart hclose
    -- The closing brace of the span stands behind its opening one.
    obtain ⟨before, inner, after, rfl, -, -⟩ := exists_eq_span hclose
    have hbehind : (before ++ openBrace :: (inner ++ closeBrace :: after))[
        (before ++ openBrace :: inner).length]? = some closeBrace := by
      rw [← List.cons_append, ← List.append_assoc]
      exact getElem?_length_append _ closeBrace after
    have hlt := hapart _ _ (getElem?_length_append before openBrace _) hbehind
    rw [List.length_append] at hlt
    omega
  · intro hnone p q hopen hclose
    by_contra hle
    obtain ⟨a, b, rfl, rfl⟩ := exists_append_of_getElem? hopen
    rw [List.getElem?_append_right (not_lt.mp hle)] at hclose
    have hmem : closeBrace ∈ b :=
      (List.mem_cons.mp (List.mem_of_getElem? hclose)).resolve_left (by decide)
    exact hnone (mem_fromBrace a hmem)

/-- Where no limit is met, the first brace that is not passed over opens
an object. -/
theorem exists_first_opening (hlimits : ∀ e, ¬ MeetsLimit reply e) (h : ¬ OpensNothing reply) :
    ∃ a b members left, reply = a ++ openBrace :: b ∧ PassedOver a (openBrace :: b)
      ∧ readFront .common (openBrace :: b) = .ok (.obj members, left) := by
  obtain ⟨a, b, rfl, hbehind, hpassed, hfirst⟩ := exists_first_not_faulty h
  cases hread : readFront .common (openBrace :: b) with
  | ok found =>
      obtain ⟨value, left⟩ := found
      obtain ⟨members, rfl⟩ := exists_of_readValue hread
      exact ⟨a, b, members, left, rfl, hpassed, hread⟩
  | error e =>
      -- What is not malformed exceeds a limit.
      have hmeets {e' : ReplyError} (h : Exceeds (readFront .common (openBrace :: b)) e') : False :=
        hlimits e' ⟨a, b, rfl, hbehind, hpassed, h⟩
      rw [hread] at hmeets hfirst
      cases e with
      | malformed fault left => exact absurd ⟨fault, left, rfl⟩ hfirst
      | integerTooLong digits => exact (hmeets (.tooLong digits)).elim
      | nestingTooDeep container => exact (hmeets (.tooDeep container)).elim

/-- What is extracted is what the reply gives: the object at the first brace
that decodes, or else an error of the kind that fits. Replies that meet a
limit are another matter. -/
theorem extraction_extract (hlimits : ∀ e, ¬ MeetsLimit reply e) :
    Extraction reply (extract reply) := by
  by_cases hclose : closeBrace ∈ fromBrace reply
  · by_cases hnothing : OpensNothing reply
    · obtain ⟨report, hreport⟩ := exists_parse_span hnothing hclose
      have hextract : extract reply = .error (.malformed ⟨.undecodable report, excerpt reply⟩) := by
        rw [extract, if_neg (not_not_intro hclose), (scan_eq_none_iff reply).mpr hnothing]
        simp only [hreport]
      obtain ⟨before, inner, after, heq, hbefore, hafter⟩ := exists_eq_span hclose
      rw [heq, (span_append hbefore inner hafter).2] at hreport
      rw [hextract]
      exact .undecodable before inner after report hnothing.not_opensAt heq hbefore hafter hreport
    · obtain ⟨a, b, members, left, rfl, hpassed, hread⟩ := exists_first_opening hlimits hnothing
      have hscan : scan (a ++ openBrace :: b) = .ok (some members) := by
        rw [scan_append hpassed, scan, if_pos ⟨rfl, closeBrace_mem_of_readFront hread⟩, hread]
      rw [extract_eq_ok_iff.mpr hscan]
      exact .payload a.length members (opensAt_append.mpr ⟨left, hread⟩)
        fun q hq value => hpassed.not_opensAt hq value
  · rw [extract, if_pos hclose]
    exact .noSpan (apart_iff.mpr hclose)

/-- Where no value decodes, none can be read of the span from the first
brace to the last: it would begin at the first brace. So trying the span is
never of use. -/
theorem parse_span_ne_ok (hlimits : ∀ e, ¬ MeetsLimit reply e)
    (hnone : ∀ p value, ¬ OpensAt reply p value) (value : Json) :
    Json.parse (span reply) ≠ .ok value := by
  intro hparse
  have hnothing : OpensNothing reply := by
    by_contra hopens
    obtain ⟨a, b, members, left, rfl, -, hread⟩ := exists_first_opening hlimits hopens
    exact hnone a.length _ (opensAt_append.mpr ⟨left, hread⟩)
  by_cases hclose : closeBrace ∈ fromBrace reply
  · obtain ⟨report, hreport⟩ := exists_parse_span hnothing hclose
    exact nomatch hparse.symm.trans hreport
  · -- Without a closing brace nothing at all is left of the span.
    have hempty : span reply = [] := Text.dropEndWhile_eq_nil_iff.mpr fun c hc =>
      bne_iff_ne.mpr fun heq => hclose (heq ▸ hc)
    rw [hempty] at hparse
    exact nomatch hparse

/-- There is one thing that a reply gives: the first brace at which a value
decodes, the value there, and the error are all determined by the reply. -/
theorem Extraction.unique {result result' : Except ReplyError Members}
    (h : Extraction reply result) (h' : Extraction reply result') : result = result' := by
  -- Where a value decodes, a closing brace stands behind an opening one.
  have hspan {p : Nat} {value : Json} (hopens : OpensAt reply p value)
      (hapart : ∀ p q : Nat, reply[p]? = some openBrace → reply[q]? = some closeBrace → q < p) :
      False := by
    obtain ⟨a, b, left, rfl, rfl, hread⟩ := hopens.exists_append
    exact apart_iff.mp hapart (mem_fromBrace a (closeBrace_mem_of_readFront hread))
  have henclosed {before inner after : Text}
      (hreply : reply = before ++ openBrace :: (inner ++ closeBrace :: after)) :
      closeBrace ∈ fromBrace reply :=
    hreply ▸ mem_fromBrace before (by simp)
  cases h with
  | payload p members hopens hleast =>
      cases h' with
      | payload q members' hopens' hleast' =>
          rcases Nat.lt_trichotomy p q with hlt | rfl | hlt
          · exact absurd hopens (hleast' p hlt _)
          · obtain ⟨-, left, hread⟩ := hopens
            obtain ⟨-, left', hread'⟩ := hopens'
            have hsame := (Prod.mk.inj (Except.ok.inj (hread.symm.trans hread'))).1
            exact congrArg _ (Json.obj.inj hsame)
          · exact absurd hopens' (hleast q hlt _)
      | noSpan hapart => exact (hspan hopens hapart).elim
      | undecodable _ _ _ _ hnone => exact absurd hopens (hnone _ _)
  | noSpan hapart =>
      cases h' with
      | payload p members hopens => exact (hspan hopens hapart).elim
      | noSpan => rfl
      | undecodable _ _ _ _ _ hreply => exact absurd (henclosed hreply) (apart_iff.mp hapart)
  | undecodable before inner after report hnone hreply hfirst hlast hreport =>
      cases h' with
      | payload p members hopens => exact absurd hopens (hnone _ _)
      | noSpan hapart => exact absurd (henclosed hreply) (apart_iff.mp hapart)
      | undecodable before' inner' after' report' _ hreply' hfirst' hlast' hreport' =>
          have hsame :
              openBrace :: inner ++ [closeBrace] = openBrace :: inner' ++ [closeBrace] := by
            rw [← (span_append hfirst inner hlast).2, ← (span_append hfirst' inner' hlast').2,
              ← hreply, ← hreply']
          rw [hsame, hreport'] at hreport
          obtain rfl := ParseError.malformed.inj (Except.error.inj hreport)
          rfl

/-- **Where the payload begins.** If no attempt to decode part of a reply
exceeds a limit, the payload is the object at the least place where a
value decodes, among all opening braces. Without such a place the reply is
refused: it holds no span, or what is reported is the fault of the span
from the first opening to the last closing brace. The span is never read
as a value instead, and every place where a value decodes has a closing
brace behind it. -/
theorem payload_at_first_opening (reply : Text) (hlimits : ∀ e, ¬ MeetsLimit reply e) :
    (∀ result, extract reply = result ↔ Extraction reply result)
      ∧ ((∀ p value, ¬ OpensAt reply p value) → ∀ value, Json.parse (span reply) ≠ .ok value)
      ∧ ∀ p value, OpensAt reply p value → closeBrace ∈ reply.drop (p + 1) := by
  have hextraction := extraction_extract hlimits
  refine ⟨fun result => ⟨fun h => h ▸ hextraction, hextraction.unique⟩,
    parse_span_ne_ok hlimits, fun p value hopens => hopens.closeBrace_mem⟩

/-- Prose with a brace, an array, two objects and another brace. -/
def withBraces : Text := "use \x7bx\x7d in [1] \x7b\"overview\": \"a \x7d b\"\x7d or \x7b\x7d \x7b"

/-- Whether an object with one text was read, and what is left. -/
def readsText (key t left : Text) : Json.ReadResult Json → Bool
  | .ok (.obj [(k, .str value)], behind) => k == key && value == t && behind == left
  | _ => false

/-- A reading that passes the test is that of an object with this one text.
The test is there to be run. -/
theorem eq_of_readsText {key t left : Text} {found : Json.ReadResult Json}
    (h : readsText key t left found = true) : found = .ok (.obj [(key, .str t)], left) := by
  rw [readsText.eq_def] at h
  split at h
  · simp only [Bool.and_eq_true, beq_iff_eq] at h
    obtain ⟨⟨rfl, rfl⟩, rfl⟩ := h
    rfl
  · cases h

/-- The payload is the object at the second brace, although the first is
closed behind it and a brace stands in its string. -/
theorem extract_withBraces : (∀ e, ¬ MeetsLimit withBraces e)
    ∧ extract withBraces = .ok [("overview", .str "a \x7d b")] := by
  have hlimits : ∀ e, ¬ MeetsLimit withBraces e := fun e hmeets => by
    have hscan : (scan withBraces).isOk = true := by decide +kernel
    rw [scan_eq_error_iff.mpr hmeets] at hscan
    cases hscan
  have hopens : OpensAt withBraces 15 (.obj [("overview", .str "a \x7d b")]) := by
    have hread : readsText "overview" "a \x7d b" " or \x7b\x7d \x7b"
        (readFront .common (withBraces.drop 15)) = true := by decide +kernel
    exact ⟨by decide, _, eq_of_readsText hread⟩
  refine ⟨hlimits, ((payload_at_first_opening withBraces hlimits).1 _).mpr ?_⟩
  refine .payload 15 _ hopens ?_
  rintro q hq value ⟨hopen, left, hread⟩
  -- There is one brace in front of it, and what begins there is malformed.
  obtain rfl : q = 4 := by
    have honly : ∀ q < 15, withBraces[q]? = some openBrace → q = 4 := by decide
    exact honly q hq hopen
  have hfaulty : (readFront .common (withBraces.drop 4)).isOk = false := by decide +kernel
  rw [hread] at hfaulty
  cases hfaulty

end Reply

end DocScribe
