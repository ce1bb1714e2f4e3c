import DocScribe.CommandLine.Generate
import DocScribe.Proofs.CommandLine.Steps
import Mathlib.Data.List.Forall2
import Mathlib.Data.List.Nodup

/-!
# `DocScribe.Proofs.CommandLine.Discovering`: which files a run is about

A run looks at its paths one after the other and adds what is found at
each of them to what it knows. However the paths overlap, what it ends up
with are the files found anywhere, each at the place where it was found
first (`discover_cases`), and no two of them are at the same place
(`Discovered.places`).
-/

set_option autoImplicit false

namespace DocScribe

namespace Discovery

variable {ws : Workspace} {path file : Path} {lines : List Text} {found : List Path}

/-- What is found below a path has an absolute path, whether it is the file
at the path or one in a folder there. -/
theorem start_of_mem_find (h : (find ws path lines).2 = .ok found) (hmem : file ∈ found) :
    file.start = .root := by
  rw [find] at h
  split at h
  · exact nomatch h
  dsimp only at h
  split at h
  · exact nomatch h
  · exact nomatch h
  · -- A file is found alone, if at all.
    obtain rfl := Except.ok.inj h
    split at hmem
    · rw [List.mem_singleton.mp hmem]
      rfl
    · exact absurd hmem List.not_mem_nil
  split at h
  · exact nomatch h
  next paths hbelow =>
  -- Of a folder, places below it are found.
  obtain rfl := Except.ok.inj h
  rw [below] at hbelow
  cases hpatterns : Pattern.ofLines (defaultLines ++ lines) with
  | error e => exact nomatch hpatterns ▸ hbelow
  | ok patterns =>
      rw [hpatterns] at hbelow
      obtain rfl := Except.ok.inj hbelow
      obtain ⟨place, -, rfl⟩ := List.mem_map.mp hmem
      rfl

end Discovery

namespace CommandLine.Generate

open Procedure

/-! ### Adding what is new -/

variable {files found : List Path}

/-- What is found is added behind what is known, without repetitions. The
command adds file by file; here the files that are new are named all at
once, in the order in which they are found first. -/
theorem addNew_eq (files found : List Path) :
    addNew files found = files ++ (found.removeAll files).eraseDups := by
  rw [addNew]
  induction found generalizing files with
  | nil => exact (List.append_nil files).symm
  | cons path found ih =>
      rw [List.foldl_cons, ih, List.cons_removeAll]
      by_cases hmem : path ∈ files
      · rw [if_pos (List.contains_iff_mem.mpr hmem)]
        simp [hmem]
      · rw [if_neg (mt List.contains_iff_mem.mp hmem)]
        -- What is found again behind the new one is no longer new.
        have hrest : found.removeAll (files ++ [path])
            = (found.removeAll files).filter fun file => !file == path := by
          rw [List.removeAll, List.removeAll, List.filter_filter]
          refine List.filter_congr fun file _ => ?_
          by_cases heq : file = path <;> simp [heq]
        simp [hmem, List.eraseDups_cons, hrest]

/-- It makes no difference whether repetitions are left out at once or at
the end. -/
theorem addNew_eraseDups (known found : List Path) :
    addNew known.eraseDups found = (known ++ found).eraseDups := by
  rw [addNew_eq, List.eraseDups_append]
  congr 2
  simp [List.removeAll]

/-- Adding keeps the files apart: what is known already is not added again,
and what is new is added once. -/
theorem nodup_addNew (hfiles : files.Nodup) (found : List Path) : (addNew files found).Nodup := by
  rw [addNew]
  induction found generalizing files with
  | nil => exact hfiles
  | cons path found ih =>
      rw [List.foldl_cons]
      split
      · exact ih hfiles
      · next hnew =>
        have hdisjoint : path ∉ files := fun hmem => hnew (List.contains_iff_mem.mpr hmem)
        refine ih (List.nodup_append.mpr ⟨hfiles, List.pairwise_singleton _ path, ?_⟩)
        rintro file hfile _ hpath rfl
        exact hdisjoint (List.mem_singleton.mp hpath ▸ hfile)

/-- A file that is added where it is new leaves no file twice. -/
theorem nodup_eraseDups (files : List Path) : files.eraseDups.Nodup := by
  have hadded : addNew [] files = files.eraseDups := addNew_eraseDups [] files
  exact hadded ▸ nodup_addNew List.nodup_nil files

/-! ### All paths -/

/-- The source files at some paths: those found at each of the paths in
turn, every one of them where it was found first. -/
structure Discovered (ws : Workspace) (lines : List Text) (paths files : List Path) : Prop where
  found : ∃ founds, List.Forall₂ (fun path found => (Discovery.find ws path lines).2 = .ok found)
    paths founds ∧ files = founds.flatten.eraseDups
  places : (files.map Path.segments).Nodup

variable {lines : List Text} {paths known : List Path} {run run' : Run}
  {result : Except Stop (List Path)}

/-- Files that differ and are named from the top are at different
places. -/
theorem nodup_places (hfiles : files.Nodup) (hroot : ∀ file ∈ files, file.start = .root) :
    (files.map Path.segments).Nodup := by
  rw [List.nodup_map_iff_inj_on hfiles]
  intro a ha b hb hsegments
  obtain ⟨start, segments⟩ := a
  obtain ⟨start', segments'⟩ := b
  obtain rfl : start = .root := hroot _ ha
  obtain rfl : start' = .root := hroot _ hb
  exact congrArg (Path.mk .root) hsegments

/-- One of the paths cannot be searched, and what is said of that. -/
def Unsearchable (ws : Workspace) (lines : List Text) (paths : List Path) (message : Text) :
    Prop :=
  ∃ path ∈ paths, ∃ e, (Discovery.find ws path lines).2 = .error e ∧ message = e.message

/-- A search goes through the paths in order and ends at the first that
cannot be searched, or comes to the list of all files below them, each of
them once. It keeps the run as it is, but for log lines. -/
theorem discover_cases (h : (discover lines known.eraseDups paths).on run = (result, run')) :
    Keeps run run' ∧ ((∃ message, result = .error (.unexpected message)
        ∧ Unsearchable run.workspace lines paths message) ∨ ∃ founds,
      List.Forall₂ (fun path found => (Discovery.find run.workspace path lines).2 = .ok found)
        paths founds
      ∧ result = .ok (known ++ founds.flatten).eraseDups) := by
  induction paths generalizing known run with
  | nil =>
      rw [discover, on_pure] at h
      obtain ⟨rfl, rfl⟩ := Prod.mk.inj h
      refine ⟨.refl run, .inr ⟨[], .nil, ?_⟩⟩
      rw [List.flatten_nil, List.append_nil]
  | cons path paths ih =>
      simp only [discover, on_bind, on_get, on_log] at h
      have hlogged := Keeps.log (Discovery.find run.workspace path lines).1 run
      cases hfound : (Discovery.find run.workspace path lines).2 with
      | error e =>
          simp only [hfound, on_throw] at h
          obtain ⟨rfl, rfl⟩ := Prod.mk.inj h
          exact ⟨hlogged, .inl ⟨e.message, rfl, path, List.mem_cons_self, e, hfound, rfl⟩⟩
      | ok found =>
          simp only [hfound, addNew_eraseDups] at h
          -- What is found here is known from here on, so the others come behind it.
          obtain ⟨hkeeps, hresult⟩ := ih h
          refine ⟨hlogged.trans hkeeps, ?_⟩
          rcases hresult with ⟨message, rfl, other, hother, hstop⟩ | ⟨founds, hfounds, rfl⟩
          · exact .inl ⟨message, rfl, other, List.mem_cons_of_mem path hother,
              hlogged.workspace ▸ hstop⟩
          · refine .inr ⟨found :: founds, .cons hfound (hlogged.workspace ▸ hfounds), ?_⟩
            rw [List.flatten_cons, List.append_assoc]

/-- Every list of files was found at one of the paths. The lists stand in
the order of the paths, so the induction goes along both. -/
theorem exists_find_of_mem {ws : Workspace} {founds : List (List Path)}
    (h : List.Forall₂ (fun path found => (Discovery.find ws path lines).2 = .ok found)
      paths founds) (hmem : found ∈ founds) :
    ∃ path, (Discovery.find ws path lines).2 = .ok found := by
  induction h with
  | nil => exact absurd hmem List.not_mem_nil
  | cons hfound _ ih =>
      rcases List.mem_cons.mp hmem with rfl | hmem
      · exact ⟨_, hfound⟩
      · exact ih hmem

/-- What a run discovers, unless one of its paths cannot be searched: the
files below the paths, each once, in the order in which they were found. -/
theorem discovered_of_discover (h : (discover lines [] paths).on run = (result, run')) :
    Keeps run run' ∧ ((∃ message, result = .error (.unexpected message)
        ∧ Unsearchable run.workspace lines paths message)
      ∨ ∃ files, result = .ok files ∧ Discovered run.workspace lines paths files) := by
  rw [← List.eraseDups_nil] at h
  obtain ⟨hkeeps, hresult⟩ := discover_cases h
  refine ⟨hkeeps, hresult.imp_right fun ⟨founds, hfounds, hall⟩ => ?_⟩
  rw [List.nil_append] at hall
  refine ⟨_, hall, ⟨founds, hfounds, rfl⟩, nodup_places (nodup_eraseDups _) fun file hfile => ?_⟩
  obtain ⟨found, hfound, hmem⟩ := List.mem_flatten.mp (List.mem_eraseDups.mp hfile)
  obtain ⟨path, hpath⟩ := exists_find_of_mem hfounds hfound
  exact Discovery.start_of_mem_find hpath hmem

end CommandLine.Generate

end DocScribe
