import DocScribe.Proofs.Generation.Requests

/-!
# `DocScribe.Proofs.Generation.Prompts`: what a batch has sent when it reports

A batch that ends with a report has had every file come to a result of
its own (`exists_results_of_report`). The prompts that it has sent by then
are those of files that could be read; if no file is listed twice, none of
them is asked about twice (`Runs.exists_asked`).
-/

set_option autoImplicit false

namespace DocScribe.Batch

open Generation Generator

variable {b : Batch} {g : Generator} {s : State} {moves : List Move} {i : Nat} {path : Path}

/-! ### Prompts of calls -/

/-- A file that asks is read, and asks the provider with its prompt. The
provider is the one that the generator finds whenever it looks. -/
theorem exists_provider_of_begun {prompt : Text} {answer : Answer}
    (h : b.begun g i path = .asked prompt answer) :
    ∃ code provider, b.workspace.readText path = .ok code
      ∧ (g.provide b.connect).2.2 = .ok provider ∧ prompt = b.promptFor path code
      ∧ answer = provider.send i prompt := by
  cases hread : b.workspace.readText path with
  | error fault =>
      obtain ⟨outcome, hended⟩ := exists_begun_of_unread hread g i
      cases h.symm.trans hended
  | ok code =>
      -- A path that is blank has no options, and nobody is asked about it.
      have hoptions := PromptOptions.forFile_eq b.includeExamples path.toText
      split at hoptions
      · rw [begun, beginFile, hread] at h
        simp only [hoptions] at h
        cases h
      · rw [begun, beginFile_of_readText hread hoptions] at h
        dsimp only at h
        rw [ask_result] at h
        cases hprovide : (g.provide b.connect).2.2 with
        | error cause =>
            rw [hprovide] at h
            cases h
        | ok provider =>
            rw [hprovide] at h
            obtain ⟨rfl, rfl⟩ := Begun.asked.inj h
            exact ⟨code, provider, rfl, rfl, rfl, rfl⟩

/-- Every call is that of the file at its position, with the prompt for what
the file holds. -/
theorem Sound.exists_code_of_call (h : b.Sound g s) {call : Call} (hcall : call ∈ s.calls) :
    ∃ path code, b.paths[call.position]? = some path ∧ b.workspace.readText path = .ok code
      ∧ call.prompt = b.promptFor path code := by
  have hmem : call ∈ s.callsOf call.position :=
    List.mem_filter.mpr ⟨hcall, beq_self_eq_true call.position⟩
  rcases h.callsOf_cases call.position with hnone | ⟨path, hpath, hcalls⟩
  · exact absurd (hnone ▸ hmem) List.not_mem_nil
  · rw [hcalls] at hmem
    cases hbegun : b.begun g call.position path with
    | ended outcome => exact absurd (hbegun ▸ hmem) List.not_mem_nil
    | asked prompt answer =>
        rw [hbegun, Begun.calls, List.mem_singleton] at hmem
        obtain ⟨code, -, hread, -, hprompt, -⟩ := exists_provider_of_begun hbegun
        exact ⟨path, code, hpath, hread, hmem ▸ hprompt⟩

/-- No two calls are of the same position: a position that was asked does
not start again. -/
theorem Sound.nodup_positions (h : b.Sound g s) : (s.calls.map Call.position).Nodup := by
  rw [List.nodup_iff_count]
  intro i
  have hcount : (s.calls.map Call.position).count i = (s.callsOf i).length := by
    rw [List.count, List.countP_map, State.callsOf, List.countP_eq_length_filter]
    rfl
  rw [hcount]
  rcases h.callsOf_cases i with hnone | ⟨path, -, hcalls⟩
  · rw [hnone]
    exact Nat.zero_le 1
  · rw [hcalls]
    cases b.begun g i path with
    | asked => exact Nat.le_refl 1
    | ended => exact Nat.zero_le 1

/-! ### Files asked about -/

/-- Files with their prompts, each of them once. -/
structure Asked (b : Batch) (asked : List (Path × Text)) : Prop where
  once : (asked.map Prod.fst).Nodup
  listed : ∀ entry ∈ asked, entry.1 ∈ b.paths
  prompt : ∀ entry ∈ asked, ∃ code, b.workspace.readText entry.1 = .ok code
    ∧ entry.2 = b.promptFor entry.1 code

/-- Calls of different positions are of different files, if no file is
listed twice. Induction on the calls; of the files it is kept that they
stand at the positions of the calls. -/
theorem exists_asked_of_calls (hpaths : b.paths.Nodup) {calls : List Call}
    (hpositions : (calls.map Call.position).Nodup)
    (hcalls : ∀ call ∈ calls, ∃ path code, b.paths[call.position]? = some path
      ∧ b.workspace.readText path = .ok code ∧ call.prompt = b.promptFor path code) :
    ∃ asked, b.Asked asked ∧ asked.map Prod.snd = calls.map Call.prompt
      ∧ ∀ entry ∈ asked, ∃ call ∈ calls, b.paths[call.position]? = some entry.1 := by
  induction calls with
  | nil => exact ⟨[], ⟨List.nodup_nil, by simp, by simp⟩, rfl, by simp⟩
  | cons call calls ih =>
      rw [List.map_cons, List.nodup_cons] at hpositions
      obtain ⟨hfresh, hpositions⟩ := hpositions
      rw [List.forall_mem_cons] at hcalls
      obtain ⟨⟨path, code, hpath, hread, hprompt⟩, hcalls⟩ := hcalls
      obtain ⟨asked, ⟨honce, hlisted, hprompts⟩, hsent, hplaces⟩ := ih hpositions hcalls
      have hnew : path ∉ asked.map Prod.fst := by
        intro hmem
        obtain ⟨entry, hentry, rfl⟩ := List.mem_map.mp hmem
        obtain ⟨other, hother, hplace⟩ := hplaces entry hentry
        -- The same file at two positions is listed twice.
        have heq : call.position = other.position :=
          (List.getElem?_inj (List.getElem?_eq_some_iff.mp hpath).1 hpaths).mp
            (hpath.trans hplace.symm)
        exact hfresh (heq ▸ List.mem_map_of_mem hother)
      refine ⟨(path, call.prompt) :: asked, ⟨List.nodup_cons.mpr ⟨hnew, honce⟩, ?_, ?_⟩, ?_, ?_⟩
      · exact List.forall_mem_cons.mpr ⟨List.mem_of_getElem? hpath, hlisted⟩
      · exact List.forall_mem_cons.mpr ⟨⟨code, hread, hprompt⟩, hprompts⟩
      · rw [List.map_cons, List.map_cons, hsent]
      · refine List.forall_mem_cons.mpr ⟨⟨call, List.mem_cons_self, hpath⟩, fun entry hentry => ?_⟩
        obtain ⟨other, hother, hplace⟩ := hplaces entry hentry
        exact ⟨other, List.mem_cons_of_mem _ hother, hplace⟩

/-- At any time of a batch in which no file is listed twice, the prompts
that were sent are those of files of which each is asked about once. -/
theorem Runs.exists_asked (h : b.Runs g moves s) (hpaths : b.paths.Nodup) :
    ∃ asked, b.Asked asked ∧ s.prompts = asked.map Prod.snd := by
  have hsent : (s.calls.filter Call.sent).Sublist s.calls := List.filter_sublist
  obtain ⟨asked, hasked, hprompts, -⟩ := exists_asked_of_calls hpaths
    (h.sound.nodup_positions.sublist (hsent.map Call.position))
    fun call hcall => h.sound.exists_code_of_call (hsent.subset hcall)
  exact ⟨asked, hasked, hprompts.symm⟩

/-! ### Batches that report -/

/-- What a batch that reports has come to: all of its files have come to
results of their own, in their order, and the report tells of them. -/
structure Reports (b : Batch) (g : Generator)
    (results : List (Path × Except GenerationError FileDoc)) (report : Report) : Prop where
  listed : results.map Prod.fst = b.paths
  alone : ∀ i entry, results[i]? = some entry → b.outcome g i entry.1 = .settled entry.2
  docs : report.docs = results.filterMap fun entry => entry.2.toOption
  failures : report.failures = results.filterMap failure?

/-- A file without a breakdown has a result, which may be that it has
failed. -/
theorem exists_result_of_breakdown {outcome : Outcome} (h : outcome.breakdown? = none) :
    ∃ result, outcome = .settled result := by
  cases outcome with
  | settled result => exact ⟨result, rfl⟩
  | broken breakdown => exact nomatch h

/-- Files that all come to results, each at its position. The induction
is on the files; those behind the first one stand one position further
back. -/
theorem exists_results_of_outcomes {outcome : Nat → Path → Outcome} {paths : List Path}
    (h : ∀ i path, paths[i]? = some path → (outcome i path).breakdown? = none) :
    ∃ results : List (Path × Except GenerationError FileDoc),
      paths.mapIdx (fun i path => (path, outcome i path))
        = results.map fun entry => (entry.1, .settled entry.2) := by
  induction paths generalizing outcome with
  | nil => exact ⟨[], rfl⟩
  | cons path paths ih =>
      obtain ⟨result, hresult⟩ := exists_result_of_breakdown (h 0 path rfl)
      obtain ⟨results, hresults⟩ := @ih (fun i => outcome (i + 1)) fun i => h (i + 1)
      refine ⟨(path, result) :: results, ?_⟩
      rw [List.mapIdx_cons, List.map_cons, hresult, hresults]

/-- A batch with permits has sent what it has sent by its last state.
Without permits it is refused, and sends nothing. -/
theorem run_prompts (hlimit : 0 < b.limit) (patience : Nat) (g : Generator) :
    (b.run patience g).prompts = (b.finish patience g).prompts := by
  rw [run, if_neg (Nat.ne_of_gt hlimit)]
  dsimp only
  split <;> rfl

/-- What a batch has sent, whether it reports or not, are prompts of files
of which each was asked about once. -/
theorem exists_asked_of_run (hpaths : b.paths.Nodup) (patience : Nat) (g : Generator) :
    ∃ asked, b.Asked asked ∧ (b.run patience g).prompts = asked.map Prod.snd := by
  rcases Nat.eq_zero_or_pos b.limit with hzero | hlimit
  · refine ⟨[], ⟨List.nodup_nil, by simp, by simp⟩, ?_⟩
    rw [run, if_pos hzero]
    rfl
  · obtain ⟨moves, hruns, -⟩ := exists_runs_finish hlimit patience g
    rw [run_prompts hlimit]
    exact hruns.exists_asked hpaths

/-- A batch has sent nothing if its provider never sends anything, as one
without a key. -/
theorem prompts_run_eq_nil {provider : Provider}
    (hprovide : (g.provide b.connect).2.2 = .ok provider)
    (hunsent : ∀ i prompt, (provider.send i prompt).sent = false) (patience : Nat) :
    (b.run patience g).prompts = [] := by
  rcases Nat.eq_zero_or_pos b.limit with hzero | hlimit
  · rw [run, if_pos hzero]
  · obtain ⟨moves, hruns, -⟩ := exists_runs_finish hlimit patience g
    rw [run_prompts hlimit, State.prompts, List.map_eq_nil_iff, List.filter_eq_nil_iff]
    intro call hcall
    -- Every call is one of its position, and that is the one with which its file began.
    have hmem : call ∈ (b.finish patience g).callsOf call.position :=
      List.mem_filter.mpr ⟨hcall, beq_self_eq_true call.position⟩
    rcases hruns.sound.callsOf_cases call.position with hnone | ⟨path, -, hcalls⟩
    · exact absurd (hnone ▸ hmem) List.not_mem_nil
    · rw [hcalls] at hmem
      cases hbegun : b.begun g call.position path with
      | ended outcome => exact absurd (hbegun ▸ hmem) List.not_mem_nil
      | asked prompt answer =>
          rw [hbegun, Begun.calls, List.mem_singleton] at hmem
          obtain ⟨_, other, -, hother, -, rfl⟩ := exists_provider_of_begun hbegun
          obtain rfl : other = provider := Except.ok.inj (hother.symm.trans hprovide)
          rw [hmem, hunsent]
          exact Bool.false_ne_true

/-- A report is one on a result for every file, each what the file comes to
alone at its position. -/
theorem exists_results_of_report {patience : Nat} {report : Report}
    (h : (b.run patience g).report = .ok report) : ∃ results, b.Reports g results report := by
  have hlimit : 0 < b.limit := by
    refine Nat.pos_of_ne_zero fun hzero => ?_
    rw [run, if_pos hzero] at h
    cases h
  obtain ⟨moves, hruns, hstuck⟩ := exists_runs_finish hlimit patience g
  obtain ⟨-, hreport⟩ := run_eq (b := b) hlimit patience g
  rw [hreport] at h
  cases hbreakdown : (b.finish patience g).breakdown with
  | some breakdown =>
      rw [hbreakdown] at h
      cases h
  | none =>
      rw [hbreakdown] at h
      obtain rfl := Except.ok.inj h
      have houtcomes := (hruns.breakdown_iff_of_stuck hlimit (hstuck hbreakdown)).mp hbreakdown
      obtain ⟨results, hresults⟩ := exists_results_of_outcomes houtcomes
      have halone : b.oneByOne 0 g b.paths = results.map fun entry => (entry.1, .settled entry.2) :=
        (oneByOne_eq b g b.paths).trans hresults
      obtain ⟨hlisted, hat⟩ := outcomes_of_oneByOne halone
      have htells := hruns.tells hlimit (hstuck hbreakdown) halone
      refine ⟨results, hlisted.symm, fun i entry hentry => ?_, htells.docs, htells.failures⟩
      -- Each result stands at the position of its file, so it is what the file comes to there.
      have hpath : b.paths[i]? = some entry.1 := by
        rw [hlisted, List.getElem?_map, hentry, Option.map_some]
      have houtcome := hat i
      rw [hpath, hentry, Option.map_some, Option.map_some] at houtcome
      exact Option.some.inj houtcome

end DocScribe.Batch
