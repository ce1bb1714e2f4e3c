import DocScribe.Proofs.Extraction
import DocScribe.Proofs.Json.Objects
import DocScribe.Proofs.Leniency
import DocScribe.Proofs.Text.Trimming

/-!
# `DocScribe.Proofs.Search`: the payload of any reply

What the search along the braces of a reply comes to, whatever the reply
is. It finds nothing exactly if no brace opens a value
(`scan_eq_none_iff`), and a value that a brace opens is an object
(`exists_of_readValue`). The payload is what the search finds, and a
search that finds nothing ends in a report (`extract_eq_scan`): the span
that the report is about is a beginning of what the first brace was tried
on, it ends with a closing brace, and so nothing can be read of it that
could not be read of the whole (`Json.carries_readFront`).
-/

set_option autoImplicit false

namespace DocScribe

open Json

namespace Json

/-! ### What a brace opens -/

variable {d : Dialect} {readOne : Text → ReadResult Json}

/-- What is read as members is an object, wherever it ends. Induction on the
fuel, since a member may be followed by another. -/
theorem exists_of_readMembers (fuel : Nat) {read : Members} {s rest : Text} {value : Json}
    (h : readMembers d readOne fuel read s = .ok (value, rest)) :
    ∃ members, value = .obj members := by
  induction fuel generalizing read s with
  | zero => cases h
  | succ fuel ih =>
      cases s with
      | nil => cases h
      | cons q s =>
          rw [readMembers] at h
          -- Up to the mark behind a member there are six ways to fail.
          iterate 6
            split at h
            · cases h
          split at h
          · exact ⟨_, (Prod.mk.inj (Except.ok.inj h)).1.symm⟩
          split at h
          · exact ih h
          · cases h

/-- A brace opens an object, if anything, so a value that is found at one
has members. -/
theorem exists_of_readValue {depth : Nat} {s rest : Text} {value : Json}
    (h : readValue d depth (Reply.openBrace :: s) = .ok (value, rest)) :
    ∃ members, value = .obj members := by
  rw [readValue_eq_readWith] at h
  have hinside : readInside d depth .object s = .ok (value, rest) := h
  rcases readInside_cases hinside with rfl | ⟨_, inside, hcontent⟩
  · exact ⟨[], rfl⟩
  · cases inside with
    | nil => cases hcontent
    | cons c inside => exact exists_of_readMembers _ hcontent

end Json

namespace Reply

/-! ### The search -/

/-- None of the braces in a text that have a closing brace somewhere
behind them opens a value: what begins there is malformed. -/
def OpensNothing (s : Text) : Prop :=
  ∀ a b, s = a ++ openBrace :: b → closeBrace ∈ b → Faulty (readFront .common (openBrace :: b))

/-- Without a closing brace none of them does. -/
theorem opensNothing_of_not_mem {s : Text} (h : closeBrace ∉ s) : OpensNothing s := by
  rintro a b rfl hclose
  exact absurd (List.mem_append_right a (List.mem_cons_of_mem _ hclose)) h

/-- A text opens nothing if its first code point does not and the rest does
not. -/
theorem opensNothing_cons (c : CodePoint) (rest : Text) :
    OpensNothing (c :: rest) ↔
      (c = openBrace ∧ closeBrace ∈ rest → Faulty (readFront .common (c :: rest)))
        ∧ OpensNothing rest := by
  constructor
  · intro h
    refine ⟨?_, fun a b hab => h (c :: a) b (by rw [hab, List.cons_append])⟩
    rintro ⟨rfl, hclose⟩
    exact h [] rest rfl hclose
  · rintro ⟨hfirst, hrest⟩ a b hab hclose
    cases a with
    | nil =>
        obtain ⟨rfl, rfl⟩ := List.cons.inj hab
        exact hfirst ⟨rfl, hclose⟩
    | cons x a => exact hrest a b (List.cons.inj hab).2 hclose

/-- The search finds nothing exactly if the braces open nothing. Induction
on the reply, brace by brace. -/
theorem scan_eq_none_iff (reply : Text) : scan reply = .ok none ↔ OpensNothing reply := by
  induction reply with
  | nil => exact iff_of_true rfl fun a b hab => absurd hab (by simp)
  | cons c rest ih =>
      rw [opensNothing_cons, scan]
      split
      · next hopen =>
        split
        · next members left hread =>
          refine iff_of_false (by rintro ⟨⟩) fun hnothing => ?_
          obtain ⟨fault, left', hfaulty⟩ := hnothing.1 hopen
          cases hread.symm.trans hfaulty
        · next found hnot hread =>
          -- Whatever a brace opens is an object.
          obtain ⟨value, left⟩ := found
          obtain ⟨members, rfl⟩ := exists_of_readValue (hopen.1 ▸ hread)
          exact absurd rfl (hnot members left)
        · next fault left hread => rw [ih, and_iff_right fun _ => ⟨fault, left, hread⟩]
        · next digits hread =>
          refine iff_of_false (by rintro ⟨⟩) fun hnothing => ?_
          obtain ⟨fault, left, hfaulty⟩ := hnothing.1 hopen
          cases hread.symm.trans hfaulty
        · next container hread =>
          refine iff_of_false (by rintro ⟨⟩) fun hnothing => ?_
          obtain ⟨fault, left, hfaulty⟩ := hnothing.1 hopen
          cases hread.symm.trans hfaulty
      · next hopen => rw [ih, and_iff_right fun h => absurd h hopen]

/-- What the search finds is what one of the braces opens, and the reply is
cut there. -/
theorem exists_of_scan {reply : Text} {members : Members} (h : scan reply = .ok (some members)) :
    ∃ a b left, reply = a ++ openBrace :: b
      ∧ readFront .common (openBrace :: b) = .ok (.obj members, left) := by
  induction reply with
  | nil => cases h
  | cons c rest ih =>
      have htail : scan rest = .ok (some members) → ∃ a b left, c :: rest = a ++ openBrace :: b
          ∧ readFront .common (openBrace :: b) = .ok (.obj members, left) := by
        intro hrest
        obtain ⟨a, b, left, rfl, hread⟩ := ih hrest
        exact ⟨c :: a, b, left, rfl, hread⟩
      rw [scan] at h
      split at h
      · next hopen =>
        obtain ⟨rfl, -⟩ := hopen
        -- An object ends the search here, and what is malformed lets it go on.
        split at h
        · next members' left hread =>
          obtain rfl := Option.some.inj (Except.ok.inj h)
          exact ⟨[], rest, left, rfl, hread⟩
        · exact htail h
        · exact htail h
        · cases h
        · cases h
      · exact htail h

/-! ### The report about a reply -/

/-- Between a text without opening braces and one without closing ones,
what an opening and a closing brace enclose is the span. -/
theorem span_append {before after : Text} (hbefore : openBrace ∉ before) (inner : Text)
    (hafter : closeBrace ∉ after) :
    fromBrace (before ++ openBrace :: (inner ++ closeBrace :: after))
        = openBrace :: (inner ++ closeBrace :: after)
      ∧ span (before ++ openBrace :: (inner ++ closeBrace :: after))
        = openBrace :: inner ++ [closeBrace] := by
  have hfrom : fromBrace (before ++ openBrace :: (inner ++ closeBrace :: after))
      = openBrace :: (inner ++ closeBrace :: after) := by
    have hskip : ∀ c ∈ before, (c != openBrace) = true := fun c hc =>
      bne_iff_ne.mpr fun heq => hbefore (heq ▸ hc)
    rw [fromBrace, List.dropWhile_append_of_pos hskip, List.dropWhile_cons_of_neg (by simp)]
  refine ⟨hfrom, ?_⟩
  rw [span, hfrom, ← List.cons_append]
  refine Text.dropEndWhile_append (by simp) _ fun c hc => bne_iff_ne.mpr fun heq => ?_
  exact hafter (heq ▸ hc)

/-- What is left from the first brace on begins with it, if there is
anything. -/
theorem exists_fromBrace_eq {c : CodePoint} {reply : Text} (h : c ∈ fromBrace reply) :
    ∃ rest, fromBrace reply = openBrace :: rest := by
  cases hfrom : fromBrace reply with
  | nil => exact absurd (hfrom ▸ h) List.not_mem_nil
  | cons d rest =>
      have hhead := List.head?_dropWhile_not (· != openBrace) reply
      rw [← fromBrace, hfrom] at hhead
      exact ⟨rest, by simpa using hhead⟩

/-- A reply with a closing brace somewhere behind an opening one has a
first opening and a last closing brace, with the span between them. -/
theorem exists_eq_span {reply : Text} (hclose : closeBrace ∈ fromBrace reply) :
    ∃ before inner after, reply = before ++ openBrace :: (inner ++ closeBrace :: after)
      ∧ openBrace ∉ before ∧ closeBrace ∉ after := by
  obtain ⟨rest, hfrom⟩ := exists_fromBrace_eq hclose
  have hrest : closeBrace ∈ rest := (List.mem_cons.mp (hfrom ▸ hclose)).resolve_left (by decide)
  have hbefore : openBrace ∉ reply.takeWhile (· != openBrace) := fun h => by
    simpa using List.all_eq_true.mp List.all_takeWhile _ h
  -- The last closing brace is the first from behind.
  obtain ⟨after, inner, hreverse, hafter⟩ :=
    List.eq_append_cons_of_mem (List.mem_reverse.mpr hrest)
  have hinner : rest = inner.reverse ++ closeBrace :: after.reverse := by
    rw [← List.reverse_reverse rest, hreverse]
    simp
  refine ⟨_, inner.reverse, after.reverse, ?_, hbefore, fun h => hafter (List.mem_reverse.mp h)⟩
  rw [← hinner, ← hfrom]
  exact List.takeWhile_append_dropWhile.symm

/-- What begins with a brace that opens nothing is malformed, also if it is
parsed as a whole. -/
theorem parse_of_faulty {s : Text} (h : Faulty (readFront .common (openBrace :: s))) :
    ∃ report, Json.parse (openBrace :: s) = .error (.malformed report) := by
  obtain ⟨fault, left, hread⟩ := h
  have hmark : (openBrace :: s).head? ≠ some .byteOrderMark := by
    simp only [List.head?_cons]
    decide
  rw [Json.parse, Json.read, if_neg hmark, skipSpace_cons (by decide), hread]
  exact ⟨_, rfl⟩

/-- If the braces of a reply open nothing, nothing can be read of the span
either: it is a beginning of what its first brace was tried on. -/
theorem exists_parse_span {reply : Text} (h : OpensNothing reply)
    (hclose : closeBrace ∈ fromBrace reply) :
    ∃ report, Json.parse (span reply) = .error (.malformed report) := by
  obtain ⟨before, inner, after, rfl, hbefore, hafter⟩ := exists_eq_span hclose
  have hfaulty : Faulty (readFront .common (openBrace :: (inner ++ closeBrace :: after))) :=
    h before _ rfl (by simp)
  have hclosed : Closed (openBrace :: inner ++ [closeBrace]) := ⟨openBrace :: inner, rfl⟩
  rw [List.append_cons, ← List.cons_append, ← List.cons_append] at hfaulty
  rw [(span_append hbefore inner hafter).2]
  exact parse_of_faulty ((carries_readFront hclosed after).faulty_of_faulty hfaulty)

/-- The payload of a reply is what the search finds. A search that finds
nothing ends in a report about the reply. -/
theorem extract_eq_scan (reply : Text) :
    ∃ m, extract reply = (scan reply).bind fun found => found.elim (.error (.malformed m)) .ok := by
  by_cases hclose : closeBrace ∈ fromBrace reply
  · rw [extract, if_neg (not_not_intro hclose)]
    cases hscan : scan reply with
    | error e => exact ⟨⟨.noPayload, []⟩, rfl⟩
    | ok found =>
        cases found with
        | some members => exact ⟨⟨.noPayload, []⟩, rfl⟩
        | none =>
            obtain ⟨report, hreport⟩ :=
              exists_parse_span ((scan_eq_none_iff reply).mp hscan) hclose
            refine ⟨⟨.undecodable report, excerpt reply⟩, ?_⟩
            simp only [hreport, Except.bind, Option.elim]
  · -- Without a closing brace the search is not begun, but it would find nothing either.
    have hnothing : OpensNothing reply := by
      rintro a b rfl hb
      exact absurd (mem_fromBrace a hb) hclose
    refine ⟨⟨.noPayload, excerpt reply⟩, ?_⟩
    rw [extract, if_pos hclose, (scan_eq_none_iff reply).mpr hnothing]
    rfl

/-- A payload is found exactly if the search finds it: the whole text and
the span, which are tried as well, hold no other. -/
theorem extract_eq_ok_iff {reply : Text} {members : Members} :
    extract reply = .ok members ↔ scan reply = .ok (some members) := by
  obtain ⟨m, hextract⟩ := extract_eq_scan reply
  rw [hextract]
  rcases scan reply with e | _ | found
  · exact iff_of_false (fun h => nomatch h) (fun h => nomatch h)
  · exact iff_of_false (fun h => nomatch h) (fun h => nomatch Except.ok.inj h)
  · show Except.ok found = .ok members ↔ _
    rw [Except.ok.injEq, Except.ok.injEq, Option.some.injEq]

/-- A reply holds no payload exactly if none of its braces opens one. The
limits of the reader are not meant here: they end the search with errors of
their own. -/
theorem extract_malformed_iff (reply : Text) :
    (∃ m, extract reply = .error (.malformed m)) ↔ OpensNothing reply := by
  obtain ⟨m, hextract⟩ := extract_eq_scan reply
  rw [hextract, ← scan_eq_none_iff]
  rcases hscan : scan reply with e | _ | found
  · refine iff_of_false (fun ⟨m', hm⟩ => ?_) (fun h => nomatch h)
    exact scan_ne_malformed reply m' (hscan.trans (congrArg _ (Except.error.inj hm)))
  · exact iff_of_true ⟨m, rfl⟩ rfl
  · exact iff_of_false (fun ⟨_, h⟩ => nomatch h) (fun h => nomatch Except.ok.inj h)

/-- All errors but that there is no payload are those of the search, which
are the limits of the reader. -/
theorem extract_eq_error_iff {reply : Text} {e : ReplyError} (he : ∀ m, e ≠ .malformed m) :
    extract reply = .error e ↔ scan reply = .error e := by
  obtain ⟨m, hextract⟩ := extract_eq_scan reply
  rw [hextract]
  rcases scan reply with e' | _ | found
  · show Except.error e' = .error e ↔ _
    rw [Except.error.injEq, Except.error.injEq]
  · refine iff_of_false (fun h => ?_) (fun h => nomatch h)
    exact he m (Except.error.inj h).symm
  · exact iff_of_false (fun h => nomatch h) (fun h => nomatch h)

/-- A payload that is found is never refused, so the errors are the same
for the documentation. -/
theorem normalize_eq_error_iff {reply : Text} {e : ReplyError} :
    normalize reply = .error e ↔ extract reply = .error e := by
  cases hextract : extract reply with
  | error e' => rw [normalize, hextract, Except.error.injEq, Except.error.injEq]
  | ok payload =>
      obtain ⟨doc, hdoc⟩ := exists_normalize_eq hextract
      rw [hdoc]
      exact iff_of_false (by rintro ⟨⟩) (by rintro ⟨⟩)

/-- What a reply is read as is the documentation in its payload, and nothing
else of the reply has a part in it. -/
theorem normalize_eq_ok_iff {reply : Text} {doc : FileDoc} :
    normalize reply = .ok doc
      ↔ ∃ members, extract reply = .ok members ∧ docOf members = .ok doc := by
  cases hextract : extract reply with
  | error e =>
      rw [normalize, hextract]
      exact iff_of_false (by rintro ⟨⟩) (by rintro ⟨_, ⟨⟩, _⟩)
  | ok payload =>
      obtain ⟨found, hfound⟩ := exists_docOf (isWritable_of_extract hextract)
      have hdoc : normalize reply = .ok found := by
        rw [normalize, hextract]
        simp only [hfound]
      rw [hdoc]
      constructor
      · intro heq
        obtain rfl := Except.ok.inj heq
        exact ⟨payload, rfl, hfound⟩
      · rintro ⟨members, heq, hof⟩
        obtain rfl := Except.ok.inj heq
        exact congrArg _ (Except.ok.inj (hfound.symm.trans hof))

end Reply

end DocScribe
