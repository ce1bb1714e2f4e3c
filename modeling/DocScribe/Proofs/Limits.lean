import DocScribe.Proofs.Search

/-!
# `DocScribe.Proofs.Limits`: replies that exceed a limit of the reader

A brace from which on nothing can be read is passed over, and the search
goes on behind it: text in front of a reply, all of whose braces are
passed over, changes neither what the reply is read as nor how it fails
(`extract_append`, `normalize_append`).

This is so if what begins at those braces is malformed. An integer with
too many digits and containers that nest too deep are faults of another
kind. They end the search at the first brace that is not malformed, and
the reply is neither read nor refused as malformed then
(`scan_eq_error_iff`). There is no other way to such an error: the span
that a report is about does not exceed a limit where no brace does
(`extract_eq_scan`). The number of digits that is too many may stand in a
text that has nothing to do with a payload behind it
(`documentation_hidden_by_long_number`).
-/

set_option autoImplicit false

namespace DocScribe

open Json

namespace Reply

/-- All braces of a text that goes on with `rest` are passed over: none
that has a closing brace behind it opens a value or exceeds a limit. -/
def PassedOver (before rest : Text) : Prop :=
  ∀ a b, before = a ++ openBrace :: b → closeBrace ∈ b ++ rest →
    Faulty (readFront .common (openBrace :: b ++ rest))

/-- Nothing is passed over in an empty text. -/
theorem passedOver_nil (rest : Text) : PassedOver [] rest :=
  fun a b hab => absurd hab (by simp)

/-- One more code point in front, which opens nothing: it is no brace, or no
brace closes behind it, or the reading from there is faulty. -/
theorem passedOver_cons {c : CodePoint} {before rest : Text}
    (hfirst : c = openBrace ∧ closeBrace ∈ before ++ rest →
      Faulty (readFront .common (c :: (before ++ rest))))
    (hrest : PassedOver before rest) : PassedOver (c :: before) rest := by
  intro a b hab hclose
  cases a with
  | nil =>
      obtain ⟨rfl, rfl⟩ := List.cons.inj hab
      exact hfirst ⟨rfl, hclose⟩
  | cons x a => exact hrest a b (List.cons.inj hab).2 hclose

/-! ### Text before a reply -/

/-- The same comes of two replies: both are malformed, or the results are
equal. A report on a malformed reply shows how that reply begins. -/
def SameOutcome {α : Type} (result result' : Except ReplyError α) : Prop :=
  result = result' ∨ (∃ m, result = .error (.malformed m)) ∧ ∃ m, result' = .error (.malformed m)

variable {before reply : Text}

/-- Text that is passed over does not change what is extracted, but for the
beginning of the reply that an error shows. -/
theorem extract_append (h : PassedOver before reply) :
    SameOutcome (extract (before ++ reply)) (extract reply) := by
  obtain ⟨m, hwhole⟩ := extract_eq_scan (before ++ reply)
  obtain ⟨m', hreply⟩ := extract_eq_scan reply
  rw [scan_append h] at hwhole
  rw [hwhole, hreply]
  rcases scan reply with e | _ | members
  · exact .inl rfl
  · exact .inr ⟨⟨m, rfl⟩, m', rfl⟩
  · exact .inl rfl

/-- Nor does it change what comes of the reply in the end: documentation, or
an error that is the same but for the excerpt it shows. -/
theorem normalize_append (h : PassedOver before reply) :
    SameOutcome (normalize (before ++ reply)) (normalize reply) := by
  rcases extract_append h with heq | hmalformed
  · cases hextract : extract reply with
    | error e =>
        refine .inl ?_
        rw [normalize_eq_error_iff.mpr hextract,
          normalize_eq_error_iff.mpr (heq.trans hextract)]
    | ok members =>
        obtain ⟨doc, hdoc⟩ := exists_docOf (isWritable_of_extract hextract)
        refine .inl ?_
        rw [normalize_eq_ok_iff.mpr ⟨members, hextract, hdoc⟩,
          normalize_eq_ok_iff.mpr ⟨members, heq.trans hextract, hdoc⟩]
  · simp only [← normalize_eq_error_iff] at hmalformed
    exact .inr hmalformed

/-! ### Limits -/

/-- A reading that exceeds a limit, and the error that a reply ends in
for it. -/
inductive Exceeds {α : Type} : ReadResult α → ReplyError → Prop where
  | tooLong (digits : Nat) : Exceeds (.error (.integerTooLong digits)) (.integerTooLong digits)
  | tooDeep (container : Container) :
      Exceeds (.error (.nestingTooDeep container)) (.nestingTooDeep container)

/-- A brace of the reply exceeds a limit, and all braces before it are
passed over. -/
def MeetsLimit (reply : Text) (e : ReplyError) : Prop :=
  ∃ a b, reply = a ++ openBrace :: b ∧ closeBrace ∈ b ∧ PassedOver a (openBrace :: b)
    ∧ Exceeds (readFront .common (openBrace :: b)) e

/-- If the braces of a reply do not all open nothing, there is a first one
that opens something or exceeds a limit. -/
theorem exists_first_not_faulty (h : ¬ OpensNothing reply) :
    ∃ a b, reply = a ++ openBrace :: b ∧ closeBrace ∈ b ∧ PassedOver a (openBrace :: b)
      ∧ ¬ Faulty (readFront .common (openBrace :: b)) := by
  induction reply with
  | nil => exact absurd (opensNothing_of_not_mem (by simp)) h
  | cons c rest ih =>
      by_cases hfirst : c = openBrace ∧ closeBrace ∈ rest → Faulty (readFront .common (c :: rest))
      · have hrest : ¬ OpensNothing rest :=
          fun hrest => h ((opensNothing_cons c rest).mpr ⟨hfirst, hrest⟩)
        obtain ⟨a, b, rfl, hclose, hpassed, hopens⟩ := ih hrest
        exact ⟨c :: a, b, rfl, hclose, passedOver_cons hfirst hpassed, hopens⟩
      · obtain ⟨⟨rfl, hclose⟩, hopens⟩ := Classical.not_imp.mp hfirst
        exact ⟨[], rest, rfl, hclose, passedOver_nil _, hopens⟩

/-- The search fails exactly if a brace exceeds a limit before one opens a
value. -/
theorem scan_eq_error_iff {e : ReplyError} : scan reply = .error e ↔ MeetsLimit reply e := by
  constructor
  · intro hscan
    have hopens : ¬ OpensNothing reply := by
      intro hnothing
      cases hscan.symm.trans ((scan_eq_none_iff reply).mpr hnothing)
    obtain ⟨a, b, rfl, hclose, hpassed, hfirst⟩ := exists_first_not_faulty hopens
    refine ⟨a, b, rfl, hclose, hpassed, ?_⟩
    rw [scan_append hpassed, scan, if_pos ⟨rfl, hclose⟩] at hscan
    -- Of what a reading can give, only a limit that is exceeded ends the search with an error.
    split at hscan
    · cases hscan
    · next found hnot hread =>
      obtain ⟨value, left⟩ := found
      obtain ⟨members, rfl⟩ := exists_of_readValue hread
      exact absurd rfl (hnot members left)
    · next fault left hread => exact absurd ⟨fault, left, hread⟩ hfirst
    · next digits hread =>
      rw [hread, ← Except.error.inj hscan]
      exact .tooLong digits
    · next container hread =>
      rw [hread, ← Except.error.inj hscan]
      exact .tooDeep container
  · rintro ⟨a, b, rfl, hclose, hpassed, hexceeds⟩
    rw [scan_append hpassed, scan, if_pos ⟨rfl, hclose⟩]
    generalize readFront .common (openBrace :: b) = result at hexceeds
    cases hexceeds with
    | tooLong digits => rfl
    | tooDeep container => rfl

/-- **How a reply fails.** Whatever a reply is, its payload and the
documentation in it fail alike, and they fail in one of two ways: the
reply is malformed, or its first brace that is not malformed exceeds a
limit. Text before a reply changes nothing as long as what begins at its
braces is malformed. -/
theorem reply_fails_malformed_or_beyond_limit (reply : Text) :
    (∀ e, normalize reply = .error e ↔ extract reply = .error e)
      ∧ (∀ e, (∀ m, e ≠ .malformed m) → (extract reply = .error e ↔ MeetsLimit reply e))
      ∧ ∀ before, PassedOver before reply →
          SameOutcome (extract (before ++ reply)) (extract reply)
            ∧ SameOutcome (normalize (before ++ reply)) (normalize reply) := by
  refine ⟨fun e => normalize_eq_error_iff, fun e he => ?_, fun before hbefore => ?_⟩
  · rw [extract_eq_error_iff he, scan_eq_error_iff]
  · exact ⟨extract_append hbefore, normalize_append hbefore⟩

/-! ### A number that is too long -/

/-- More digits than an integer may have, of which the first is no zero, are
refused with their number. What stands behind them is not read. -/
theorem readUnsigned_of_long {d : Dialect} (start : Text) (negative : Bool) {c : CodePoint}
    {digits rest : Text} (hdigits : ∀ x ∈ c :: digits, x.isDigit = true)
    (hzero : c ≠ CodePoint.ofChar '0') (hlong : digitLimit < (c :: digits).length)
    (hends : Ends rest) :
    readUnsigned d start negative (c :: digits ++ rest)
      = .error (.integerTooLong (c :: digits).length) := by
  have hwhole : readWhole? (c :: digits ++ rest) = some (c :: digits, rest) := by
    simp only [List.cons_append, readWhole?, hzero, if_false, hdigits c List.mem_cons_self, if_true]
    rw [← List.cons_append, spanDigits_append hdigits hends.not_isDigit]
  have htoo : isTooLong d true (c :: digits) = true := by
    simp only [isTooLong, Bool.or_true, Bool.true_and, decide_eq_true_eq]
    exact hlong
  simp only [readUnsigned, hwhole, readFraction_of_ends hends, readExponent_of_ends hends,
    List.isEmpty_nil, Option.isNone_none, Bool.and_self, htoo, if_true]

/-- Where the value of the first member is such a number, nothing else is
read of the object. -/
theorem readFront_of_long {c : CodePoint} {digits rest : Text}
    (hdigits : ∀ x ∈ c :: digits, x.isDigit = true) (hzero : c ≠ CodePoint.ofChar '0')
    (hlong : digitLimit < (c :: digits).length) (hends : Ends rest) :
    readFront .common ("\x7b\"a\":" ++ (c :: digits ++ rest))
      = .error (.integerTooLong (c :: digits).length) := by
  have hspace : isSpace c = false := by
    by_contra hblank
    have hc := hdigits c List.mem_cons_self
    simp only [isSpace, CodePoint.isDigit, Bool.not_eq_false, Bool.or_eq_true, beq_iff_eq,
      Bool.and_eq_true, decide_eq_true_eq] at hblank hc
    omega
  have hvalue : ∀ depth, readValue .common depth (c :: digits ++ rest)
      = .error (.integerTooLong (c :: digits).length) := fun depth => by
    have hnumber := readUnsigned_of_long (d := .common) (c :: digits ++ rest) false hdigits hzero
      hlong hends
    cases depth <;>
    · rw [readValue, List.cons_append,
        (readWith_of_digit _ (hdigits c List.mem_cons_self) (digits ++ rest)).1]
      exact hnumber
  -- In front of the number stand a brace, a name and a colon, and these are read.
  have hkey : ∀ s, readString .common (CodePoint.ofChar 'a' :: .quoteSign :: s) = .ok ("a", s) :=
    fun s => rfl
  have hblanks : ∀ s, skipSpace (CodePoint.ofChar ':' :: s) = CodePoint.ofChar ':' :: s :=
    fun s => skipSpace_cons (by decide) s
  show readMembers .common (readValue .common 989) _ []
    (.quoteSign :: CodePoint.ofChar 'a' :: .quoteSign :: CodePoint.ofChar ':'
      :: (c :: digits ++ rest)) = _
  simp only [readMembers, ne_eq, not_true_eq_false, if_false, hkey, hblanks, List.cons_append,
    skipSpace_cons hspace]
  rw [← List.cons_append, hvalue 989]

/-- A payload. -/
def plainReply : Text := "\x7b\"overview\": \"x\"\x7d"

/-- An object with one number, which has a digit more than is allowed. -/
def longNumber : Text :=
  "\x7b\"a\":" ++ (List.replicate (digitLimit + 1) (CodePoint.ofChar '1') ++ "\x7d ")

/-- The reader stops at that number, whatever stands behind it. So no text
after it can make a value of the object. -/
theorem readFront_longNumber (rest : Text) :
    readFront .common (longNumber ++ rest) = .error (.integerTooLong (digitLimit + 1)) := by
  have hends : Ends (("\x7d " : Text) ++ rest) := ends_mark (by decide) _
  have hdigits : ∀ x ∈ CodePoint.ofChar '1' :: List.replicate digitLimit (CodePoint.ofChar '1'),
      x.isDigit = true := by
    intro x hx
    rw [← List.replicate_succ] at hx
    rw [List.eq_of_mem_replicate hx]
    decide
  have hread := readFront_of_long hdigits (by decide) (by simp) hends
  rw [List.length_cons, List.length_replicate] at hread
  rw [longNumber, List.append_assoc, List.append_assoc, List.replicate_succ]
  exact hread

/-- It is the first brace of a reply that begins with it, so the limit is
met whatever the rest of the reply is. -/
theorem meetsLimit_longNumber (rest : Text) :
    MeetsLimit (longNumber ++ rest) (.integerTooLong (digitLimit + 1)) := by
  have hbrace : longNumber ++ rest = openBrace :: ("\"a\":"
      ++ (List.replicate (digitLimit + 1) (CodePoint.ofChar '1') ++ ("\x7d " ++ rest))) := by
    rw [longNumber, List.append_assoc, List.append_assoc]
    rfl
  have hread := readFront_longNumber rest
  refine ⟨[], _, hbrace, ?_, passedOver_nil _, ?_⟩
  · exact List.mem_append_right _ (List.mem_append_right _ (List.mem_append_left _ (by decide)))
  · rw [← hbrace, hread]
    exact .tooLong _

/-- So this is what the reply fails with. The payload behind the number
would have been found, had the search gone on. -/
theorem normalize_behind_long_number :
    normalize (longNumber ++ plainReply) = .error (.integerTooLong (digitLimit + 1)) := by
  obtain ⟨hnormalize, hlimit, -⟩ := reply_fails_malformed_or_beyond_limit (longNumber ++ plainReply)
  have hother : ∀ m, ReplyError.integerTooLong (digitLimit + 1) ≠ .malformed m :=
    fun _ h => nomatch h
  exact (hnormalize _).mpr ((hlimit _ hother).mpr (meetsLimit_longNumber plainReply))

/-- The documentation behind such a number is not found, and the reply is
not refused as malformed either. -/
theorem documentation_hidden_by_long_number :
    normalize plainReply = .ok ⟨"x", [], [], [], [], [], none, none⟩
      ∧ ¬ ((∃ doc, normalize (longNumber ++ plainReply) = .ok doc)
        ∨ ∃ m, normalize (longNumber ++ plainReply) = .error (.malformed m)) := by
  have hfails : normalize (longNumber ++ plainReply)
      = .error (.integerTooLong (digitLimit + 1)) := by
    have hscan := scan_eq_error_iff.mpr (meetsLimit_longNumber plainReply)
    have hother : ∀ m, ReplyError.integerTooLong (digitLimit + 1) ≠ .malformed m :=
      fun _ h => nomatch h
    exact normalize_eq_error_iff.mpr ((extract_eq_error_iff hother).mpr hscan)
  refine ⟨by decide +kernel, ?_⟩
  rw [hfails]
  rintro (⟨doc, hdoc⟩ | ⟨m, hm⟩)
  · exact nomatch hdoc
  · exact nomatch hm

end Reply

end DocScribe
