import DocScribe.Workspace.Tree
import DocScribe.Proofs.Exclusion.Matching

/-!
# `DocScribe.Proofs.Workspace.Places`: the files of a tree and their places

In a file system the entries of a folder have names, and no two of them
have the same one (`Tree.IsSound`). Going through such a tree folder by
folder therefore lists what is found by going to a place: every file of
the tree with its place (`Tree.mem_files_iff`), and each of them once
(`Tree.nodup_places_files`).
-/

set_option autoImplicit false

namespace DocScribe.Tree

mutual

/-- A tree as file systems have them: in each folder the names are names
and differ. -/
def IsSound : Tree → Prop
  | .file _ => True
  | .folder entries => (entries.map Prod.fst).Nodup ∧ AreSound entries

/-- The entries of a folder in such a tree. -/
def AreSound : List (Text × Tree) → Prop
  | [] => True
  | (name, tree) :: entries => IsName name ∧ tree.IsSound ∧ AreSound entries

end

variable {entries : List (Text × Tree)} {tree : Tree} {name : Text} {place names : List Text}
  {content : List UInt8}

/-! ### Entries -/

/-- An entry of a folder in a sound tree has a proper name, and what it
names is sound. -/
theorem AreSound.of_lookup (h : AreSound entries) (hentry : entries.lookup name = some tree) :
    IsName name ∧ tree.IsSound := by
  induction entries with
  | nil => exact nomatch hentry
  | cons entry entries ih =>
      obtain ⟨first, below⟩ := entry
      obtain ⟨hname, hbelow, hrest⟩ := h
      rw [List.lookup_cons] at hentry
      split at hentry
      · next hsame =>
        obtain rfl := Option.some.inj hentry
        exact ⟨eq_of_beq hsame ▸ hname, hbelow⟩
      · exact ih hrest hentry

/-- Only what is in a folder is found there, under the name of an entry.
Which of the entries it is does not matter here. -/
theorem mem_of_lookup (h : entries.lookup name = some tree) : name ∈ entries.map Prod.fst := by
  induction entries with
  | nil => exact nomatch h
  | cons entry entries ih =>
      rw [List.lookup_cons] at h
      rw [List.map_cons, List.mem_cons]
      split at h
      · next hsame => exact .inl (eq_of_beq hsame)
      · exact .inr (ih h)

/-- The way to a file leads along names. Induction on the place: a folder
has names for its entries, and what lies in it is sound, too. -/
theorem IsSound.isName (h : tree.IsSound) (hfile : tree.get? place = some (.file content)) :
    ∀ name ∈ place, IsName name := by
  induction place generalizing tree with
  | nil => exact fun name hmem => absurd hmem List.not_mem_nil
  | cons first names ih =>
      cases tree with
      | file bytes => exact nomatch hfile
      | folder entries =>
          rw [get?] at hfile
          cases hentry : entries.lookup first with
          | none =>
              rw [hentry] at hfile
              cases hfile
          | some below =>
              rw [hentry] at hfile
              obtain ⟨hfirst, hbelow⟩ := h.2.of_lookup hentry
              exact List.forall_mem_cons.mpr ⟨hfirst, ih hbelow hfile⟩

/-! ### Files and places -/

mutual

/-- The files of a tree are what is found at places in it. In a sound tree
no two entries of a folder have one name, so a place leads to one thing. -/
theorem mem_files_iff : ∀ {tree : Tree}, tree.IsSound → ∀ {place : List Text}
    {content : List UInt8},
    (place, content) ∈ tree.files ↔ tree.get? place = some (.file content)
  | .file bytes, _, place, content => by
      cases place with
      | nil => simp [files, get?, eq_comm]
      | cons name names => simp [files, get?]
  | .folder entries, hsound, place, content => mem_filesOf_iff hsound.1 hsound.2

/-- The files below entries are what is found at places in their folder. The
first name on the way tells the entry. -/
theorem mem_filesOf_iff : ∀ {entries : List (Text × Tree)}, (entries.map Prod.fst).Nodup →
    AreSound entries → ∀ {place : List Text} {content : List UInt8},
    (place, content) ∈ filesOf entries
      ↔ (Tree.folder entries).get? place = some (.file content)
  | [], _, _, place, content => by
      cases place with
      | nil => simp [filesOf, get?]
      | cons name names => simp [filesOf, get?]
  | (first, tree) :: entries, hnodup, ⟨_, htree, hentries⟩, place, content => by
      obtain ⟨hfirst, hnodup⟩ := List.nodup_cons.mp hnodup
      have hbelow := @mem_files_iff tree htree
      have hbehind := @mem_filesOf_iff entries hnodup hentries
      rw [filesOf, List.mem_append, hbehind, List.mem_map]
      cases place with
      | nil => simp [get?]
      | cons name names =>
          rw [get?, get?, List.lookup_cons]
          by_cases hname : name = first
          · -- The name stands for the first entry, so for no other one.
            have hnone : entries.lookup name = none := by
              cases hentry : entries.lookup name with
              | none => rfl
              | some other => exact absurd (hname ▸ mem_of_lookup hentry) hfirst
            rw [hnone, beq_iff_eq.mpr hname]
            simp [hname, hbelow]
          · rw [beq_false_of_ne hname]
            simp [Ne.symm hname]

end

mutual

/-- No file of a tree is listed twice. -/
theorem nodup_places_files : ∀ {tree : Tree}, tree.IsSound → (tree.files.map Prod.fst).Nodup
  | .file _, _ => List.pairwise_singleton _ _
  | .folder _, hsound => nodup_places_filesOf hsound.1 hsound.2

/-- Of a folder, by its entries: their names are different, so what is below
one of them is not below another. -/
theorem nodup_places_filesOf : ∀ {entries : List (Text × Tree)}, (entries.map Prod.fst).Nodup →
    AreSound entries → ((filesOf entries).map Prod.fst).Nodup
  | [], _, _ => List.nodup_nil
  | (first, tree) :: entries, hnodup, ⟨_, htree, hentries⟩ => by
      obtain ⟨hfirst, hnodup⟩ := List.nodup_cons.mp hnodup
      have hbelow := nodup_places_files htree
      have hbehind := nodup_places_filesOf hnodup hentries
      have hinner : ((files tree).map fun file => (first :: file.1, file.2)).map Prod.fst
          = ((files tree).map Prod.fst).map (first :: ·) := by
        rw [List.map_map, List.map_map]
        rfl
      rw [filesOf, List.map_append, hinner, List.nodup_append]
      refine ⟨?_, hbehind, ?_⟩
      · exact List.Pairwise.map _ (fun a b hab hsame => hab (List.cons.inj hsame).2) hbelow
      · -- A place behind the first entry begins with another name.
        intro place hplace other hother hsame
        obtain ⟨names, -, rfl⟩ := List.mem_map.mp hplace
        obtain ⟨⟨place, content⟩, hmem, rfl⟩ := List.mem_map.mp hother
        obtain rfl : first :: names = place := hsame
        rw [mem_filesOf_iff hnodup hentries, get?] at hmem
        cases hentry : entries.lookup first with
        | none =>
            rw [hentry] at hmem
            cases hmem
        | some other => exact hfirst (mem_of_lookup hentry)

end

end DocScribe.Tree
