import DocScribe.Terminal.Basic
import Mathlib.Data.List.Basic

/-!
# `DocScribe.Proofs.Terminal.Quietness`: what is heard of a quiet terminal

A terminal that is to be quiet shows errors and the files that failed, and
shows them as it would otherwise. That is not all (`received_of_quiet`): a
line that was forced gets through, and so do details if the terminal is also
to be verbose, since whether it is quiet is not looked at for them
(`debug_heard`). Whatever else a quiet terminal is asked for, it shows
nothing, and nothing is wrong with the call.

No call changes the terminal, so what is said of one call
(`Call.shownOn_aloud`, `Call.shownOn_of_unheard`) carries over to calls in
any order, by induction on them.
-/

set_option autoImplicit false

namespace DocScribe.Terminal

/-- The terminal, not quiet. -/
def aloud (t : Terminal) : Terminal := { t with quiet := false }

/-- A quiet terminal shows nothing of what is only for others. -/
theorem unlessQuiet_of_quiet {t : Terminal} (hquiet : t.quiet = true) (shown : List Display) :
    t.unlessQuiet shown = [] :=
  if_pos hquiet

namespace Call

/-- Errors, and the files that failed. -/
def tellsErrors : Call → Bool
  | .line .error _ _ => true
  | .failures _ => true
  | _ => false

/-- What gets through to a quiet terminal besides: lines that are forced, and
details if they are wanted. -/
def getsThrough (verbose : Bool) : Call → Bool
  | .line mark _ force => mark != .error && force == some true
  | .debug _ => verbose
  | _ => false

/-- What is heard of a quiet terminal. -/
def isHeard (verbose : Bool) (call : Call) : Bool :=
  call.tellsErrors || call.getsThrough verbose

variable {t : Terminal} {call : Call}

/-- A line that is forced is shown by every terminal. -/
theorem say_forced (t : Terminal) (mark : Mark) (message : Text) :
    t.say mark message true = [status mark.marker message] := by
  simp [say]

/-- What is heard is heard as it would be otherwise: being quiet leaves out
calls and changes none. -/
theorem shownOn_aloud (h : call.isHeard t.verbose = true) :
    call.shownOn t = call.shownOn t.aloud := by
  cases call with
  | line mark message force =>
      -- The line is forced by its kind or by the call, or it was forced twice.
      simp only [shownOn]
      cases hforced : isForced mark force with
      | error fault => rfl
      | ok forced =>
          have hheard : forced = true := by
            cases mark <;> cases force <;>
              simp_all [isHeard, tellsErrors, getsThrough, isForced]
          show Except.ok (t.say mark message forced) = .ok (t.aloud.say mark message forced)
          rw [hheard, say_forced, say_forced]
  -- Neither of these looks at whether the terminal is quiet.
  | debug message => rfl
  | failures failed => rfl
  -- The others are not heard.
  | banner => simp [isHeard, tellsErrors, getsThrough] at h
  | fileSummary doc => simp [isHeard, tellsErrors, getsThrough] at h
  | statistics docs failed seconds output => simp [isHeard, tellsErrors, getsThrough] at h
  | settings entries => simp [isHeard, tellsErrors, getsThrough] at h
  | fileList paths => simp [isHeard, tellsErrors, getsThrough] at h

/-- Of everything else a quiet terminal shows nothing. One case for each
call. -/
theorem shownOn_of_unheard (hquiet : t.quiet = true) (h : call.isHeard t.verbose = false) :
    call.shownOn t = .ok [] := by
  cases call with
  | line mark message force =>
      have hforced : isForced mark force = .ok false := by
        cases mark <;> cases force <;> simp_all [isHeard, tellsErrors, getsThrough, isForced]
      simp [shownOn, hforced, Except.map, say, hquiet]
  | debug message =>
      have hverbose : t.verbose = false := by simpa [isHeard, tellsErrors, getsThrough] using h
      simp [shownOn, Terminal.debug, hverbose]
  | failures failed => simp [isHeard, tellsErrors] at h
  | banner => exact congrArg Except.ok (unlessQuiet_of_quiet hquiet _)
  | fileSummary doc => exact congrArg Except.ok (unlessQuiet_of_quiet hquiet _)
  | statistics docs failed seconds output =>
      exact congrArg Except.ok (unlessQuiet_of_quiet hquiet _)
  | settings entries =>
      -- The names of the settings are not even looked at.
      have hnothing : t.settings entries = .ok [] := if_pos hquiet
      rw [shownOn, hnothing]
      rfl
  | fileList paths => exact congrArg Except.ok (unlessQuiet_of_quiet hquiet _)

/-- What gets through tells of no error. It is either a detail or a line
that was forced, and errors are shown without that. -/
theorem tellsErrors_of_getsThrough (h : call.getsThrough t.verbose = true) :
    call.tellsErrors = false := by
  cases call with
  | line mark message force => cases mark <;> simp_all [getsThrough, tellsErrors]
  | failures failed => simp [getsThrough] at h
  | _ => rfl

/-- What gets through is one line, since it is a debug message or a line
that is forced. -/
theorem shownOn_of_getsThrough (h : call.getsThrough t.verbose = true) :
    ∃ display, call.shownOn t = .ok [display] := by
  cases call with
  | line mark message force =>
      have hforced : isForced mark force = .ok true := by
        cases mark <;> simp_all [getsThrough, isForced]
      refine ⟨status mark.marker message, ?_⟩
      simp [shownOn, hforced, Except.map, say]
  | debug message =>
      have hverbose : t.verbose = true := h
      exact ⟨_, congrArg Except.ok (if_pos hverbose)⟩
  | _ => simp [getsThrough] at h

end Call

variable {t : Terminal} {calls : List Call}

/-- Without calls nothing is received. -/
@[simp] theorem received_nil (t : Terminal) : t.received [] = [] := rfl

/-- The first call is received first; one that has no text is not shown, and
the others are. -/
@[simp] theorem received_cons (t : Terminal) (call : Call) (calls : List Call) :
    t.received (call :: calls) = (call.shownOn t).toOption.getD [] ++ t.received calls := rfl

/-- Of some of the calls a terminal shows some of what it shows of all of
them. -/
theorem received_filter_sublist (t : Terminal) (chosen : Call → Bool) (calls : List Call) :
    (t.received (calls.filter chosen)).Sublist (t.received calls) := by
  induction calls with
  | nil => exact List.Sublist.refl _
  | cons call calls ih =>
      cases hchosen : chosen call with
      | true => simpa [hchosen] using ih
      | false => simpa [hchosen] using ih.trans (List.sublist_append_right _ _)

/-- What a quiet terminal shows is what a terminal that is not quiet shows of
the calls that are heard. -/
theorem received_eq_aloud (hquiet : t.quiet = true) (calls : List Call) :
    t.received calls = t.aloud.received (calls.filter (·.isHeard t.verbose)) := by
  induction calls with
  | nil => rfl
  | cons call calls ih =>
      cases hheard : call.isHeard t.verbose with
      | true =>
          have hsame := Call.shownOn_aloud hheard
          simp [hheard, hsame, ih]
      | false =>
          -- The call is not among those that are heard, and nothing is shown of it.
          have hnothing := Call.shownOn_of_unheard hquiet hheard
          simp [hheard, hnothing, Except.toOption, ih]

/-- A quiet terminal shows nothing but errors and failures exactly if nothing
else gets through to it. -/
theorem received_tellsErrors_iff (hquiet : t.quiet = true) (calls : List Call) :
    t.received calls = t.received (calls.filter Call.tellsErrors)
      ↔ ∀ call ∈ calls, call.getsThrough t.verbose = false := by
  induction calls with
  | nil => simp
  | cons call calls ih =>
      rw [List.forall_mem_cons, ← ih]
      cases hthrough : call.getsThrough t.verbose with
      | true =>
          obtain ⟨display, hshown⟩ := Call.shownOn_of_getsThrough hthrough
          have herrors := Call.tellsErrors_of_getsThrough hthrough
          -- The display of this call is one too many.
          have hlength := (received_filter_sublist t Call.tellsErrors calls).length_le
          refine iff_of_false ?_ fun hnone => Bool.noConfusion hnone.1
          intro heq
          have hcounted := congrArg List.length heq
          simp [hshown, herrors, Except.toOption] at hcounted
          omega
      | false =>
          -- The call is kept on both sides, or it shows nothing.
          cases herrors : call.tellsErrors with
          | true => simp [herrors]
          | false =>
              have hunheard : call.isHeard t.verbose = false := by
                rw [Call.isHeard, herrors, hthrough, Bool.or_false]
              simp [herrors, Call.shownOn_of_unheard hquiet hunheard, Except.toOption]

/-- **A quiet terminal shows errors and failures, and what gets through to it
besides.** Whatever it is asked for, one thing after the other, it shows what
it would show of the calls that are heard if it were not quiet, in their
order. All other calls show nothing, and are not wrong. That is no more than
errors and failures exactly if none of the calls is a line that was forced or,
for a terminal that is also verbose, a detail. -/
theorem received_of_quiet (hquiet : t.quiet = true) (calls : List Call) :
    t.received calls = t.aloud.received (calls.filter (·.isHeard t.verbose))
      ∧ (∀ call ∈ calls, call.isHeard t.verbose = false → call.shownOn t = .ok [])
      ∧ (t.received calls = t.received (calls.filter Call.tellsErrors)
        ↔ ∀ call ∈ calls, call.getsThrough t.verbose = false) := by
  refine ⟨received_eq_aloud hquiet calls, ?_, received_tellsErrors_iff hquiet calls⟩
  intro call _ hunheard
  exact Call.shownOn_of_unheard hquiet hunheard

/-- A terminal that is to be quiet, and verbose. -/
def hushed : Terminal := ⟨true, true⟩

/-- Calls of several kinds. -/
def mixture : List Call :=
  [.banner, .line .info "Scanning" none, .line .error "broken" none, .debug "cache miss",
    .line .warning "late" (some true), .failures [⟨"a.py", "LLMError", "no"⟩]]

/-- Two of the four things that are heard tell of no error: a debug message
and a line that was forced. -/
theorem received_mixture :
    hushed.quiet = true
      ∧ (hushed.received mixture).length = 4
      ∧ hushed.received mixture
        = hushed.aloud.received (mixture.filter (·.isHeard hushed.verbose))
      ∧ ¬ hushed.received mixture = hushed.received (mixture.filter Call.tellsErrors) := by
  obtain ⟨heard, -, hiff⟩ := received_of_quiet (t := hushed) rfl mixture
  refine ⟨rfl, by decide +kernel, heard, ?_⟩
  rw [hiff]
  intro hnone
  have hdebug := hnone (.debug "cache miss") (by simp [mixture])
  exact absurd hdebug (by decide)

/-- A quiet terminal shows a detail although no error was told. -/
theorem debug_heard :
    hushed.quiet = true
      ∧ [Call.debug "cache miss"].filter Call.tellsErrors = []
      ∧ hushed.received [.debug "cache miss"] = [.line "cache miss"]
      ∧ hushed.received [.debug "cache miss"]
        ≠ hushed.received ([Call.debug "cache miss"].filter Call.tellsErrors) := by
  refine ⟨rfl, rfl, ?_, ?_⟩ <;> decide +kernel

end DocScribe.Terminal
