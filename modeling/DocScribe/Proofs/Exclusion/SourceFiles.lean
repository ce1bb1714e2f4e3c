import DocScribe.Proofs.Exclusion.HiddenFolders
import DocScribe.Proofs.Paths
import DocScribe.Proofs.Workspace.Places

/-!
# `DocScribe.Proofs.Exclusion.SourceFiles`: what a search without lines finds

A search below a folder that is given no lines finds the files with a
known suffix that lie in no hidden folder: all of them, each of them
once, and in the order of their segments (`Discovery.source_files_below`).
Only the names of the folders below the root decide what is hidden. The
folders above it do not, and neither does the name of the file.

The one thing assumed of the two standard lines is that they reach every
file below a folder they are about (`Discovery.Reached`). They do so
wherever no name has a line feed (`Discovery.reached_of_plain`).
-/

set_option autoImplicit false

namespace DocScribe.Discovery

variable {ws : Workspace} {path root : Path} {tree : Tree} {place : List Text}

/-! ### What the two lines reach -/

/-- The two lines reach a place from every folder on the way that they are
about. -/
structure Reached (place : List Text) : Prop where
  dots : ∀ folder ∈ place.dropLast, folder.head? = some (CodePoint.ofChar '.') →
    Glob.matches? dotPattern.items (placeText place) = true
  libraries : ("node_modules" : Text) ∈ place.dropLast →
    Glob.matches? (folderPattern "node_modules").items (placeText place) = true

/-- The folder of libraries has a name that a folder can have. -/
theorem isName_node_modules : IsName "node_modules" := ⟨by decide, by decide⟩

/-- Where no name has a line feed, the two lines reach everything. This is
the usual case, and what is assumed elsewhere follows from it. -/
theorem reached_of_plain (hnames : ∀ name ∈ place, IsName name) (hsome : place ≠ [])
    (hplain : ∀ name ∈ place, CodePoint.lineFeed ∉ name) : Reached place where
  dots folder hfolder hdot := by
    obtain ⟨front, back, rfl, hback⟩ := exists_split hfolder
    exact (matches_dotPattern_iff hnames hsome).mpr ⟨front, folder, back, rfl, hback, hdot,
      fun above habove => hplain above (List.mem_append_left _ habove)⟩
  libraries hfolder := by
    obtain ⟨front, back, rfl, hback⟩ := exists_split hfolder
    exact (matches_folderPattern_iff hnames hsome isName_node_modules).mpr ⟨front, back, rfl,
      hback, fun above habove => hplain above (List.mem_append_left _ habove)⟩

/-- What is reached is shunned just in case it lies hidden. That it has to
be hidden holds of every place; the converse is what being reached is for,
since the two lines have to get at the folder. -/
theorem isShunned_iff_of_reached (hnames : ∀ name ∈ place, IsName name) (hsome : place ≠ [])
    (hreached : Reached place) : IsShunned place ↔ LiesHidden place := by
  refine ⟨liesHidden_of_isShunned, ?_⟩
  rintro ⟨folder, hfolder, hdot | rfl⟩
  · obtain ⟨front, name, back, hsplit, hback, hhead, hfront⟩ :=
      (matches_dotPattern_iff hnames hsome).mp (hreached.dots folder hfolder hdot)
    exact ⟨front, name, back, hsplit, hback, .inl hhead, hfront⟩
  · obtain ⟨front, back, hsplit, hback, hfront⟩ :=
      (matches_folderPattern_iff hnames hsome isName_node_modules).mp
        (hreached.libraries hfolder)
    exact ⟨front, _, back, hsplit, hback, .inr rfl, hfront⟩

/-! ### The order of what is found -/

/-- Places that differ increase when they are in order: sorting gives an
order that no two of them share. -/
theorem pairwise_ordered {places : List (List Text)} (h : places.Nodup) :
    (ordered places).Pairwise Path.Before := by
  have hle : (ordered places).Pairwise fun a b => (!Path.segmentsLt b a) = true := by
    refine List.pairwise_mergeSort (fun a b c hab hbc => ?_) (fun a b => ?_) places
    · rw [Bool.not_eq_true', Bool.eq_false_iff, ne_eq, Path.segmentsLt_iff] at hab hbc ⊢
      intro hca
      exact (IsOrderConnected.conn c b a hca).elim hbc hab
    · rw [Bool.or_eq_true, Bool.not_eq_true', Bool.not_eq_true', Bool.eq_false_iff,
        Bool.eq_false_iff, ne_eq, ne_eq, Path.segmentsLt_iff, Path.segmentsLt_iff]
      by_contra hboth
      obtain ⟨hba, hab⟩ := not_or.mp hboth
      exact asymm (of_not_not hba) (of_not_not hab)
  have hnodup : (ordered places).Nodup := (List.mergeSort_perm places _).nodup_iff.mpr h
  refine (hle.and hnodup).imp fun {a b} hab => ?_
  -- Of two places that differ one comes first, and it is not the second.
  obtain ⟨hnot, hne⟩ := hab
  rw [Bool.not_eq_true', Bool.eq_false_iff, ne_eq, Path.segmentsLt_iff] at hnot
  by_contra hlt
  exact hne (Std.Trichotomous.trichotomous a b hlt hnot)

/-! ### What is found -/

/-- What a search without lines finds below a folder at `root`. -/
structure SourceFiles (root : Path) (tree : Tree) (found : List Path) : Prop where
  /-- the files of a known suffix with no hidden folder on the way -/
  exactly : ∀ file, file ∈ found ↔ ∃ folders name content,
    tree.get? (folders ++ [name]) = some (.file content) ∧ Language.HasKnownSuffix name
      ∧ (∀ folder ∈ folders, ¬ IsHidden folder) ∧ file = placeBelow root (folders ++ [name])
  /-- each of them once -/
  once : found.Nodup
  /-- each behind those that come before it by their segments -/
  increasing : found.Pairwise fun a b => Path.Before a.segments b.segments
  /-- and each named from the top -/
  fromTop : ∀ file ∈ found, file.isAbsolute = true

/-- The name of a place is its last one. -/
theorem isSupported_place_iff (folders : List Text) (name : Text) :
    Language.isSupported ⟨.relative, folders ++ [name]⟩ = true
      ↔ Language.HasKnownSuffix name := by
  rw [Language.isSupported_iff, Path.name, List.getLastD_concat]

/-- The source files of a tree, by what is found at places in it: files
whose names have a known suffix. -/
theorem mem_sourcesBelow_iff (hsound : tree.IsSound) (folders : List Text) (name : Text) :
    folders ++ [name] ∈ sourcesBelow tree ↔ Language.HasKnownSuffix name
      ∧ ∃ content, tree.get? (folders ++ [name]) = some (.file content) := by
  rw [sourcesBelow, List.mem_filter, isSupported_place_iff, List.mem_map, and_comm]
  refine and_congr_right fun _ => ?_
  constructor
  · rintro ⟨⟨place, content⟩, hmem, hplace⟩
    obtain rfl : place = folders ++ [name] := hplace
    exact ⟨content, (Tree.mem_files_iff hsound).mp hmem⟩
  · rintro ⟨content, hfile⟩
    exact ⟨⟨_, content⟩, (Tree.mem_files_iff hsound).mpr hfile, rfl⟩

/-- The names on the way to a source file are names. -/
theorem isName_of_mem_sourcesBelow (hsound : tree.IsSound) (h : place ∈ sourcesBelow tree) :
    ∀ name ∈ place, IsName name := by
  obtain ⟨⟨place, content⟩, hmem, rfl⟩ := List.mem_map.mp (List.mem_filter.mp h).1
  exact hsound.isName ((Tree.mem_files_iff hsound).mp hmem)

/-- In a sound tree no source file is listed twice. -/
theorem nodup_sourcesBelow (hsound : tree.IsSound) : (sourcesBelow tree).Nodup :=
  (Tree.nodup_places_files hsound).filter _

/-- What is found are places below the root, in their order. With this all
that is left to say is about places, and not about paths. -/
theorem eq_map_of_below {found : List Path} (hfound : below root [] tree = .ok found) :
    found = (ordered (kept [dotPattern, folderPattern "node_modules"] tree)).map
      (placeBelow root) := by
  rw [below, List.append_nil, ofLines_defaultLines] at hfound
  exact (Except.ok.inj hfound).symm

/-- A search lists paths in the order of their names, from the root on: this
is the order in which folders are gone through, and it is strict. -/
theorem pairwise_below {found : List Path} (hfound : below root [] tree = .ok found)
    (hsound : tree.IsSound) :
    found.Pairwise fun a b => Path.Before a.segments b.segments := by
  rw [eq_map_of_below hfound]
  exact List.Pairwise.map _ (fun a b hab => List.Lex.append_left _ hab root.segments)
    (pairwise_ordered ((nodup_sourcesBelow hsound).filter _))

/-- A file that the two lines reach is shunned exactly if a folder on its
way is hidden. -/
theorem isShunned_concat_iff (hsound : tree.IsSound) {folders : List Text} {name : Text}
    {content : List UInt8} (hfile : tree.get? (folders ++ [name]) = some (.file content))
    (hreached : Reached (folders ++ [name])) :
    IsShunned (folders ++ [name]) ↔ ∃ folder ∈ folders, IsHidden folder := by
  have hsome : folders ++ [name] ≠ [] :=
    List.append_ne_nil_of_right_ne_nil _ (List.cons_ne_nil _ _)
  rw [isShunned_iff_of_reached (hsound.isName hfile) hsome hreached, LiesHidden,
    List.dropLast_concat]

/-- Where all files are reached, those in no hidden folder are found, if
their names have a known suffix, and no others. -/
theorem mem_below_nil_iff {found : List Path} (hfound : below root [] tree = .ok found)
    (hsound : tree.IsSound)
    (hreached : ∀ place content, tree.get? place = some (.file content) → Reached place)
    (file : Path) :
    file ∈ found ↔ ∃ folders name content,
      tree.get? (folders ++ [name]) = some (.file content) ∧ Language.HasKnownSuffix name
        ∧ (∀ folder ∈ folders, ¬ IsHidden folder)
        ∧ file = placeBelow root (folders ++ [name]) := by
  rw [mem_below_iff hfound rfl fun place => isName_of_mem_sourcesBelow hsound]
  constructor
  · rintro ⟨place, hmem, rfl, hadmitted⟩
    obtain ⟨folders, name, rfl⟩ : ∃ folders name, place = folders ++ [name] :=
      ⟨_, _, (List.dropLast_concat_getLast (ne_nil_of_mem_sourcesBelow hmem)).symm⟩
    obtain ⟨hknown, content, hfile⟩ := (mem_sourcesBelow_iff hsound folders name).mp hmem
    have hshunned := isShunned_concat_iff hsound hfile (hreached _ _ hfile)
    exact ⟨folders, name, content, hfile, hknown,
      fun folder hfolder hhidden => hadmitted (hshunned.mpr ⟨folder, hfolder, hhidden⟩), rfl⟩
  · rintro ⟨folders, name, content, hfile, hknown, hopen, rfl⟩
    refine ⟨_, (mem_sourcesBelow_iff hsound folders name).mpr ⟨hknown, content, hfile⟩, rfl, ?_⟩
    intro hmem
    obtain ⟨folder, hfolder, hhidden⟩ :=
      (isShunned_concat_iff hsound hfile (hreached _ _ hfile)).mp hmem
    exact hopen folder hfolder hhidden

/-- What is found below a root whose files are all reached: exactly its
source files, as absolute paths, each once and in order. -/
theorem sourceFiles_of_below {found : List Path} (hfound : below root [] tree = .ok found)
    (hroot : root.isAbsolute = true) (hsound : tree.IsSound)
    (hreached : ∀ place content, tree.get? place = some (.file content) → Reached place) :
    SourceFiles root tree found where
  exactly := mem_below_nil_iff hfound hsound hreached
  once := by
    refine (pairwise_below hfound hsound).imp fun {a b} hab heq => ?_
    -- Nothing comes before itself.
    subst heq
    exact asymm hab hab
  increasing := pairwise_below hfound hsound
  fromTop file hmem := by
    rw [eq_map_of_below hfound] at hmem
    obtain ⟨place, -, rfl⟩ := List.mem_map.mp hmem
    exact hroot

/-- **Without lines exactly the source files in no hidden folder are
found.** This is so below every folder of a file system with names that
differ, if the two lines reach what they are about. -/
theorem source_files_below {entries : List (Text × Tree)}
    (hspelled : Workspace.pathFault? path.toText = none)
    (hroot : ws.find? (ws.absolute path) = .ok (some (.folder entries)))
    (hsound : (Tree.folder entries).IsSound)
    (hreached : ∀ place content,
      (Tree.folder entries).get? place = some (.file content) → Reached place) :
    ∃ found, (find ws path []).2 = .ok found
      ∧ SourceFiles (ws.absolute path) (.folder entries) found := by
  obtain ⟨found, hfound⟩ := isOk_below (ws.absolute path) (.folder entries)
    (show Pattern.ofLines [] = .ok [] from rfl)
  refine ⟨found, ?_, sourceFiles_of_below hfound rfl hsound hreached⟩
  rw [find_eq_below hspelled hroot, hfound]
  rfl

/-- A project in a folder that is hidden itself, with a script that has a
dot in front of its name, a folder that is called like a script, and a
folder of settings. -/
def dottedProject : Workspace where
  tree := .folder [(".work", .folder
    [(".vscode", .folder [("task.js", .file [])]), (".lint.JS", .file []),
      ("z.py", .folder [("a.go", .file []), (".go", .file [])])])]
  current := [".work"]
  environment := []

/-- The script with a dot in front is found, the one in the folder of
settings is not. -/
theorem find_dottedProject :
    ∃ found, (find dottedProject ⟨.relative, []⟩ []).2 = .ok found
      ∧ placeBelow ⟨.root, [".work"]⟩ [".lint.JS"] ∈ found
      ∧ placeBelow ⟨.root, [".work"]⟩ ["z.py", "a.go"] ∈ found
      ∧ placeBelow ⟨.root, [".work"]⟩ [".vscode", "task.js"] ∉ found := by
  let entries : List (Text × Tree) := [(".vscode", .folder [("task.js", .file [])]),
    (".lint.JS", .file []), ("z.py", .folder [("a.go", .file []), (".go", .file [])])]
  have hsound : (Tree.folder entries).IsSound := by
    simp only [entries, Tree.IsSound, Tree.AreSound]
    decide
  have hplain : ∀ file ∈ (Tree.folder entries).files,
      file.1 ≠ [] ∧ ∀ name ∈ file.1, CodePoint.lineFeed ∉ name := by decide
  have hroot : dottedProject.find? (dottedProject.absolute ⟨.relative, []⟩)
      = .ok (some (.folder entries)) := rfl
  obtain ⟨found, hfound, hfiles⟩ := source_files_below (by decide) hroot hsound
    fun place content hfile =>
      have hmem := hplain _ ((Tree.mem_files_iff hsound).mpr hfile)
      reached_of_plain (hsound.isName hfile) hmem.1 hmem.2
  refine ⟨found, hfound, ?_, ?_, fun hmem => ?_⟩
  · exact (hfiles.exactly _).mpr ⟨[], ".lint.JS", [], rfl,
      ⟨".lint", "JS", rfl, by decide, by decide, by decide⟩, by decide, rfl⟩
  · exact (hfiles.exactly _).mpr ⟨["z.py"], "a.go", [], rfl,
      ⟨"a", "go", rfl, by decide, by decide, by decide⟩, by decide, rfl⟩
  · obtain ⟨folders, name, -, -, -, hopen, hplace⟩ := (hfiles.exactly _).mp hmem
    have hsame : ([".vscode"] ++ ["task.js"] : List Text) = folders ++ [name] :=
      placeBelow_injective ⟨.root, [".work"]⟩ hplace
    obtain ⟨rfl, -⟩ := List.append_inj' hsame rfl
    exact hopen ".vscode" List.mem_cons_self (by decide)

end DocScribe.Discovery
