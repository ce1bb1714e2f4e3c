import DocScribe.Discovery
import DocScribe.Proofs.Exclusion.Matching

/-!
# `DocScribe.Proofs.Exclusion.HiddenFolders`: what a search leaves out

Two lines of their own come before the lines a search is given: they take
out what lies in a hidden folder, that is in one whose name starts with a
dot or is `node_modules` (`Discovery.isExcluded_standard_iff`). They have
the first word and not the last. So the files that are found are settled
place by place (`Discovery.find_below_folder`): where one of the given
lines matches, the last such line decides, whatever the two lines say,
and elsewhere the two lines do. Only a line that begins with an
exclamation mark lets a file in that the two lines keep out. Without such
a line nothing is found that would not be found without any.

The two lines do not look beyond a line feed in the name of a folder
that stands before the hidden one.
-/

set_option autoImplicit false

namespace DocScribe.Discovery

instance (name : Text) : Decidable (IsName name) :=
  decidable_of_iff (name ≠ [] ∧ CodePoint.ofChar '/' ∉ name)
    ⟨fun h => ⟨h.1, h.2⟩, fun h => ⟨h.proper, h.whole⟩⟩

/-! ### Hidden folders -/

/-- A folder that a search does not enter of its own accord. -/
def IsHidden (name : Text) : Prop :=
  name.head? = some (CodePoint.ofChar '.') ∨ name = "node_modules"

/-- A place below a hidden folder. -/
def LiesHidden (place : List Text) : Prop :=
  ∃ name ∈ place.dropLast, IsHidden name

instance (name : Text) : Decidable (IsHidden name) :=
  inferInstanceAs (Decidable (_ ∨ _))

instance (place : List Text) : Decidable (LiesHidden place) :=
  inferInstanceAs (Decidable (∃ name ∈ place.dropLast, IsHidden name))

/-- A place below a hidden folder that no name with a line feed stands
before. -/
def IsShunned (place : List Text) : Prop :=
  ∃ front name back, place = front ++ name :: back ∧ back ≠ [] ∧ IsHidden name
    ∧ ∀ above ∈ front, CodePoint.lineFeed ∉ above

variable {place : List Text}

/-- A place that the two lines take out lies below a hidden folder. Each of
the lines stands for one kind of these. -/
theorem liesHidden_of_isShunned (h : IsShunned place) : LiesHidden place := by
  obtain ⟨front, name, back, rfl, hback, hhidden, -⟩ := h
  refine ⟨name, ?_, hhidden⟩
  rw [List.dropLast_append_of_ne_nil (List.cons_ne_nil _ _), List.dropLast_cons_of_ne_nil hback]
  exact List.mem_append_right _ List.mem_cons_self

/-- A folder on the way to a place stands between what is above it and
what is below. -/
theorem exists_split {folder : Text} (h : folder ∈ place.dropLast) :
    ∃ front back, place = front ++ folder :: back ∧ back ≠ [] := by
  obtain ⟨front, back, hsplit⟩ := List.append_of_mem h
  have hsome : place ≠ [] := by
    rintro rfl
    exact absurd h List.not_mem_nil
  refine ⟨front, back ++ [place.getLast hsome], ?_, by simp⟩
  rw [← List.cons_append, ← List.append_assoc, ← hsplit, List.dropLast_concat_getLast hsome]

/-- Where no name has a line feed, all that lies hidden is shunned. A
pattern does not get across a line feed, and names of files may hold one. -/
theorem isShunned_iff (h : ∀ name ∈ place, CodePoint.lineFeed ∉ name) :
    IsShunned place ↔ LiesHidden place := by
  refine ⟨liesHidden_of_isShunned, ?_⟩
  rintro ⟨name, hmem, hhidden⟩
  obtain ⟨front, back, rfl, hback⟩ := exists_split hmem
  exact ⟨front, name, back, rfl, hback, hhidden,
    fun above habove => h above (List.mem_append_left _ habove)⟩

/-! ### The two lines -/

/-- The pattern of the line for names that start with a dot. -/
def dotPattern : Pattern :=
  ⟨true, [.maybeFolders, .one '.', .run, .one '/']⟩

/-- The pattern of a line that is the name of a folder. -/
def folderPattern (name : Text) : Pattern :=
  ⟨true, .maybeFolders :: (name.map .one ++ [.one '/'])⟩

/-- The two lines that every search begins with, and the patterns that they
are read as. -/
theorem ofLines_defaultLines :
    Pattern.ofLines defaultLines = .ok [dotPattern, folderPattern "node_modules"] := by
  decide

/-- The first line matches what lies below a folder whose name starts with a
dot, if no name with a line feed stands before that folder. -/
theorem matches_dotPattern_iff (hnames : ∀ name ∈ place, IsName name) (hplace : place ≠ []) :
    Glob.matches? dotPattern.items (placeText place) = true
      ↔ ∃ front name back, place = front ++ name :: back ∧ back ≠ []
        ∧ name.head? = some (CodePoint.ofChar '.')
        ∧ ∀ above ∈ front, CodePoint.lineFeed ∉ above := by
  rw [dotPattern, placeText, Glob.matches_maybeFolders_iff hnames hplace]
  -- Behind the folders: a dot, what goes on without a slash, a slash.
  have hbehind : ∀ t, Glob.matches? [.one '.', .run, .one '/'] t = true
      ↔ ∃ run rest, t = (CodePoint.ofChar '.' :: run) ++ CodePoint.ofChar '/' :: rest
        ∧ CodePoint.ofChar '/' ∉ CodePoint.ofChar '.' :: run := by
    intro t
    have hdot : CodePoint.ofChar '/' ≠ CodePoint.ofChar '.' := by decide
    rw [show ([.one '.', .run, .one '/'] : List GlobItem)
        = ("." : Text).map .one ++ [.run, .one '/'] from rfl, Glob.matches_spelled_iff]
    simp only [Glob.matches?, Glob.afterRun_iff]
    constructor
    · rintro ⟨_, rfl, run, rest, rfl, hrun, hslash⟩
      cases rest with
      | nil => cases hslash
      | cons c rest =>
          obtain rfl : c = CodePoint.ofChar '/' := by simpa using hslash
          refine ⟨run, rest, rfl, fun hmem => ?_⟩
          exact (List.mem_cons.mp hmem).elim hdot hrun
    · rintro ⟨run, rest, rfl, hrun⟩
      exact ⟨_, rfl, run, _, rfl, fun hmem => hrun (List.mem_cons_of_mem _ hmem), by simp⟩
  constructor
  · rintro ⟨front, below, rfl, hbelow, hfront, hmatch⟩
    obtain ⟨run, rest, htext, hrun⟩ := (hbehind _).mp hmatch
    obtain ⟨back, rfl, hback, -⟩ := (Text.joinWith_eq_whole_append_cons_iff
      (fun name hmem => (hnames name (List.mem_append_right _ hmem)).whole) hrun).mp htext
    exact ⟨front, _, back, rfl, hback, rfl, hfront⟩
  · rintro ⟨front, name, back, rfl, hback, hhead, hfront⟩
    refine ⟨front, name :: back, rfl, List.cons_ne_nil _ _, hfront, (hbehind _).mpr ?_⟩
    obtain ⟨run, rfl⟩ := List.head?_eq_some_iff.mp hhead
    have hname := (hnames _ (List.mem_append_right _ List.mem_cons_self)).whole
    refine ⟨run, Text.joinWith "/" back, ?_, hname⟩
    exact (Text.joinWith_eq_whole_append_cons_iff
      (fun name hmem => (hnames name (List.mem_append_right _ hmem)).whole) hname).mpr
      ⟨back, rfl, hback, rfl⟩

/-- The name of a folder as a line matches what lies below such a folder,
with the same exception. -/
theorem matches_folderPattern_iff (hnames : ∀ name ∈ place, IsName name) (hplace : place ≠ [])
    {folder : Text} (hfolder : IsName folder) :
    Glob.matches? (folderPattern folder).items (placeText place) = true
      ↔ ∃ front back, place = front ++ folder :: back ∧ back ≠ []
        ∧ ∀ above ∈ front, CodePoint.lineFeed ∉ above := by
  rw [folderPattern, placeText, Glob.matches_maybeFolders_iff hnames hplace]
  -- Behind the folders above, the name is taken code point by code point, and then a slash.
  have hbehind : ∀ t, Glob.matches? (folder.map .one ++ [.one '/']) t = true
      ↔ ∃ rest, t = folder ++ CodePoint.ofChar '/' :: rest := by
    intro t
    rw [Glob.matches_spelled_iff]
    constructor
    · rintro ⟨rest, rfl, hslash⟩
      cases rest with
      | nil => exact nomatch hslash
      | cons c rest =>
          obtain rfl : c = CodePoint.ofChar '/' := by simpa [Glob.matches?] using hslash
          exact ⟨rest, rfl⟩
    · rintro ⟨rest, rfl⟩
      exact ⟨_, rfl, by simp [Glob.matches?]⟩
  constructor
  · rintro ⟨front, below, rfl, hbelow, hfront, hmatch⟩
    obtain ⟨rest, htext⟩ := (hbehind _).mp hmatch
    obtain ⟨back, rfl, hback, -⟩ := (Text.joinWith_eq_whole_append_cons_iff
      (fun name hmem => (hnames name (List.mem_append_right _ hmem)).whole) hfolder.whole).mp htext
    exact ⟨front, back, rfl, hback, hfront⟩
  · rintro ⟨front, back, rfl, hback, hfront⟩
    refine ⟨front, folder :: back, rfl, List.cons_ne_nil _ _, hfront, (hbehind _).mpr ?_⟩
    exact ⟨Text.joinWith "/" back, (Text.joinWith_eq_whole_append_cons_iff
      (fun name hmem => (hnames name (List.mem_append_right _ hmem)).whole) hfolder.whole).mpr
      ⟨back, rfl, hback, rfl⟩⟩

/-- The two lines take out what is shunned, and no more: names that end in a
dot or contain one further on are none of theirs. -/
theorem isExcluded_standard_iff (hnames : ∀ name ∈ place, IsName name) (hplace : place ≠ []) :
    Pattern.isExcluded [dotPattern, folderPattern "node_modules"] (placeText place) = true
      ↔ IsShunned place := by
  have hfolder : IsName "node_modules" := ⟨by decide, by decide⟩
  rw [Pattern.isExcluded_iff_of_all (by simp [dotPattern, folderPattern])]
  simp only [List.mem_cons, List.not_mem_nil, or_false, exists_eq_or_imp, exists_eq_left,
    matches_dotPattern_iff hnames hplace, matches_folderPattern_iff hnames hplace hfolder]
  constructor
  · rintro (⟨front, name, back, hsplit, hback, hhead, hfront⟩ |
      ⟨front, back, hsplit, hback, hfront⟩)
    · exact ⟨front, name, back, hsplit, hback, .inl hhead, hfront⟩
    · exact ⟨front, _, back, hsplit, hback, .inr rfl, hfront⟩
  · rintro ⟨front, name, back, hsplit, hback, hhead | rfl, hfront⟩
    · exact .inl ⟨front, name, back, hsplit, hback, hhead, hfront⟩
    · exact .inr ⟨front, back, hsplit, hback, hfront⟩

/-! ### What is found -/

/-- The path of a place below a root. -/
def placeBelow (root : Path) (place : List Text) : Path :=
  { root with segments := root.segments ++ place }

/-- Below one root, paths are as different as places. -/
theorem placeBelow_injective (root : Path) {a b : List Text}
    (h : placeBelow root a = placeBelow root b) : a = b :=
  List.append_cancel_left (congrArg Path.segments h)

/-- The verdict on a place: that of the last line that matches it, or
that of the two lines. -/
def IsAdmitted (patterns : List Pattern) (place : List Text) : Prop :=
  match Pattern.lastMatch? patterns (placeText place) with
  | some pattern => pattern.excludes = false
  | none => ¬ IsShunned place

/-- What is found below a root, besides what is found there without any
lines. -/
structure Sifted (root : Path) (tree : Tree) (patterns : List Pattern)
    (standard found : List Path) : Prop where
  /-- every file is the path of a source file in the tree -/
  placed : ∀ file ∈ found, ∃ place ∈ sourcesBelow tree, file = placeBelow root place
  /-- without any lines those are found that are not shunned -/
  unsifted : ∀ place ∈ sourcesBelow tree, placeBelow root place ∈ standard ↔ ¬ IsShunned place
  /-- and with lines those that are admitted -/
  sifted : ∀ place ∈ sourcesBelow tree,
    placeBelow root place ∈ found ↔ IsAdmitted patterns place

variable {ws : Workspace} {path root : Path} {lines : List Text} {patterns : List Pattern}
  {tree : Tree}

/-- Source files have names. -/
theorem ne_nil_of_mem_sourcesBelow (h : place ∈ sourcesBelow tree) : place ≠ [] := by
  rintro rfl
  have hsupported := (List.mem_filter.mp h).2
  exact absurd hsupported (by decide)

/-- What the two lines and the given ones keep in together is what is
admitted: the last line that matches decides, and the given ones come behind
the two. -/
theorem isExcluded_iff (hnames : ∀ name ∈ place, IsName name) (hplace : place ≠ []) :
    Pattern.isExcluded ([dotPattern, folderPattern "node_modules"] ++ patterns)
      (placeText place) = false ↔ IsAdmitted patterns place := by
  have hstandard := isExcluded_standard_iff hnames hplace
  rw [Pattern.isExcluded_append, IsAdmitted]
  cases Pattern.lastMatch? patterns (placeText place) with
  | some pattern => exact Iff.rfl
  | none =>
      rw [← hstandard, Bool.not_eq_true]
      rfl

/-- A search finds exactly the places with source files that are
admitted. -/
theorem mem_below_iff {found : List Path} (h : below root lines tree = .ok found)
    (hlines : Pattern.ofLines lines = .ok patterns)
    (hnames : ∀ place ∈ sourcesBelow tree, ∀ name ∈ place, IsName name) (file : Path) :
    file ∈ found ↔ ∃ place ∈ sourcesBelow tree, file = placeBelow root place
      ∧ IsAdmitted patterns place := by
  rw [below, Pattern.ofLines_append, ofLines_defaultLines, hlines] at h
  obtain rfl := Except.ok.inj h
  simp only [List.mem_map, ordered, List.mem_mergeSort, kept, List.mem_filter,
    Bool.not_eq_true']
  constructor
  · rintro ⟨place, ⟨hmem, hkept⟩, rfl⟩
    have hsome := ne_nil_of_mem_sourcesBelow hmem
    exact ⟨place, hmem, rfl, (isExcluded_iff (hnames place hmem) hsome).mp hkept⟩
  · rintro ⟨place, hmem, rfl, hadmitted⟩
    have hkept := (isExcluded_iff (hnames place hmem) (ne_nil_of_mem_sourcesBelow hmem)).mpr
      hadmitted
    exact ⟨place, ⟨hmem, hkept⟩, rfl⟩

/-- A search below a folder does not fail once its lines are read. -/
theorem isOk_below (root : Path) (tree : Tree) (hlines : Pattern.ofLines lines = .ok patterns) :
    ∃ found, below root lines tree = .ok found := by
  rw [below, Pattern.ofLines_append, ofLines_defaultLines, hlines]
  exact ⟨_, rfl⟩

/-- Below a folder all that is found is found below its tree: where the
folder is does not matter for what is in it. -/
theorem find_eq_below {entries : List (Text × Tree)}
    (hspelled : Workspace.pathFault? path.toText = none)
    (hroot : ws.find? (ws.absolute path) = .ok (some (.folder entries))) (lines : List Text) :
    (find ws path lines).2
      = (below (ws.absolute path) lines (.folder entries)).mapError .pattern := by
  rw [find, hspelled]
  dsimp only
  rw [hroot]
  dsimp only
  cases below (ws.absolute path) lines (.folder entries) with
  | error e => rfl
  | ok paths => rfl

/-- The lines of a search only sift what is found without any, but for what
an exclamation mark takes back in. -/
theorem sifted_of_below {standard found : List Path} (hstandard : below root [] tree = .ok standard)
    (hfound : below root lines tree = .ok found) (hlines : Pattern.ofLines lines = .ok patterns)
    (hnames : ∀ place ∈ sourcesBelow tree, ∀ name ∈ place, IsName name) :
    Sifted root tree patterns standard found where
  placed file hmem := by
    obtain ⟨place, hplace, rfl, -⟩ := (mem_below_iff hfound hlines hnames file).mp hmem
    exact ⟨place, hplace, rfl⟩
  unsifted place hplace := by
    rw [mem_below_iff hstandard rfl hnames]
    constructor
    · rintro ⟨other, -, hsame, hadmitted⟩
      exact placeBelow_injective root hsame ▸ hadmitted
    · intro hshunned
      exact ⟨place, hplace, rfl, hshunned⟩
  sifted place hplace := by
    rw [mem_below_iff hfound hlines hnames]
    constructor
    · rintro ⟨other, -, hsame, hadmitted⟩
      exact placeBelow_injective root hsame ▸ hadmitted
    · intro hadmitted
      exact ⟨place, hplace, rfl, hadmitted⟩

/-- Lines without an exclamation mark in front admit nothing that is
shunned. -/
theorem not_isShunned_of_isAdmitted (hlines : Pattern.ofLines lines = .ok patterns)
    (hmarks : ∀ line ∈ lines, line.head? ≠ some (CodePoint.ofChar '!'))
    (h : IsAdmitted patterns place) : ¬ IsShunned place := by
  rw [IsAdmitted] at h
  cases hlast : Pattern.lastMatch? patterns (placeText place) with
  | none => rwa [hlast] at h
  | some pattern =>
      rw [hlast] at h
      have hmem := (List.mem_filter.mp (List.mem_of_getLast? hlast)).1
      obtain ⟨line, hline, hpattern⟩ := Pattern.exists_line_of_mem hlines hmem
      exact absurd ((Pattern.excludes_eq_false_iff hpattern).mp h) (hmarks line hline)

/-- **The last line that matches decides, also over the two lines.** A
search below a folder succeeds if its lines are patterns. It finds the
source files that are admitted; without any lines these are the ones that
are not shunned, and those are all that do not lie in a hidden folder if
no name has a line feed. Lines that all lack an exclamation mark in front
take files out and let none in. -/
theorem find_below_folder {entries : List (Text × Tree)}
    (hspelled : Workspace.pathFault? path.toText = none)
    (hroot : ws.find? (ws.absolute path) = .ok (some (.folder entries)))
    (hnames : ∀ place ∈ sourcesBelow (.folder entries), ∀ name ∈ place, IsName name)
    (hlines : Pattern.ofLines lines = .ok patterns) :
    ∃ standard found, (find ws path []).2 = .ok standard ∧ (find ws path lines).2 = .ok found
      ∧ Sifted (ws.absolute path) (.folder entries) patterns standard found
      ∧ (∀ place ∈ sourcesBelow (.folder entries),
          (∀ name ∈ place, CodePoint.lineFeed ∉ name) → (IsShunned place ↔ LiesHidden place))
      ∧ ((∀ line ∈ lines, line.head? ≠ some (CodePoint.ofChar '!')) →
          found ⊆ standard) := by
  have hnone : Pattern.ofLines [] = .ok [] := rfl
  obtain ⟨standard, hstandard⟩ := isOk_below (ws.absolute path) (.folder entries) hnone
  obtain ⟨found, hfound⟩ := isOk_below (ws.absolute path) (.folder entries) hlines
  have hsifted := sifted_of_below hstandard hfound hlines hnames
  refine ⟨standard, found, ?_, ?_, hsifted, fun place _ => isShunned_iff, ?_⟩
  · rw [find_eq_below hspelled hroot, hstandard]
    rfl
  · rw [find_eq_below hspelled hroot, hfound]
    rfl
  · intro hmarks file hmem
    obtain ⟨place, hplace, rfl⟩ := hsifted.placed file hmem
    have hadmitted := (hsifted.sifted place hplace).mp hmem
    exact (hsifted.unsifted place hplace).mpr (not_isShunned_of_isAdmitted hlines hmarks hadmitted)

/-- A project with a file of its own, one of a library and one of its
history. -/
def smallProject : Workspace where
  tree := .folder [("src", .folder [("a.py", .file [])]),
    ("node_modules", .folder [("b.py", .file [])]), (".git", .folder [("c.py", .file [])])]
  current := []
  environment := []

/-- The line that takes a folder of libraries back in. -/
def librariesToo : List Text := ["!node_modules/"]

/-- A line that takes the folder of libraries back in is the pattern of its
name, with the other verdict. -/
theorem ofLines_librariesToo :
    Pattern.ofLines librariesToo
      = .ok [{ folderPattern "node_modules" with excludes := false }] := by
  decide

/-- The file of the library is found with that line. The one of the
history is not, nor would either be without the line. -/
theorem find_smallProject :
    ∃ standard found, (find smallProject ⟨.relative, []⟩ []).2 = .ok standard
      ∧ (find smallProject ⟨.relative, []⟩ librariesToo).2 = .ok found
      ∧ (placeBelow ⟨.root, []⟩ ["node_modules", "b.py"] ∉ standard
        ∧ placeBelow ⟨.root, []⟩ ["node_modules", "b.py"] ∈ found)
      ∧ placeBelow ⟨.root, []⟩ ["src", "a.py"] ∈ found
      ∧ placeBelow ⟨.root, []⟩ [".git", "c.py"] ∉ found := by
  have hspelled : Workspace.pathFault? (⟨.relative, []⟩ : Path).toText = none := by decide
  have hroot : smallProject.find? (smallProject.absolute ⟨.relative, []⟩)
      = .ok (some smallProject.tree) := rfl
  obtain ⟨standard, found, hstandard, hfound, ⟨-, hunsifted, hsifted⟩, hhidden, -⟩ :=
    find_below_folder hspelled hroot (by decide) ofLines_librariesToo
  have hlibrary := hhidden ["node_modules", "b.py"] (by decide) (by decide)
  have hown := hhidden ["src", "a.py"] (by decide) (by decide)
  have hhistory := hhidden [".git", "c.py"] (by decide) (by decide)
  refine ⟨standard, found, hstandard, hfound, ⟨?_, ?_⟩, ?_, ?_⟩
  · exact fun h => (hunsifted _ (by decide)).mp h (hlibrary.mpr (by decide))
  · exact (hsifted _ (by decide)).mpr (by decide : Pattern.excludes _ = false)
  · exact (hsifted _ (by decide)).mpr fun h => absurd (hown.mp h) (by decide)
  · exact fun h => (hsifted _ (by decide)).mp h (hhistory.mpr (by decide))

/-- So a search can find a file in a hidden folder, and one that it would
not find without its lines. -/
theorem hidden_file_found :
    ∃ standard found, (find smallProject ⟨.relative, []⟩ []).2 = .ok standard
      ∧ (find smallProject ⟨.relative, []⟩ librariesToo).2 = .ok found
      ∧ ∃ place, LiesHidden place
        ∧ placeBelow (smallProject.absolute ⟨.relative, []⟩) place ∈ found
        ∧ placeBelow (smallProject.absolute ⟨.relative, []⟩) place ∉ standard := by
  have hnames : ∀ place ∈ sourcesBelow smallProject.tree, ∀ name ∈ place, IsName name := by decide
  have hnone : Pattern.ofLines [] = .ok [] := rfl
  obtain ⟨standard, hstandard⟩ := isOk_below ⟨.root, []⟩ smallProject.tree hnone
  obtain ⟨found, hfound⟩ := isOk_below ⟨.root, []⟩ smallProject.tree ofLines_librariesToo
  have hsifted := sifted_of_below hstandard hfound ofLines_librariesToo hnames
  refine ⟨standard, found, ?_, ?_, ["node_modules", "b.py"], by decide, ?_, ?_⟩
  · rw [find_eq_below (by decide) rfl]
    exact congrArg (Except.mapError _) hstandard
  · rw [find_eq_below (by decide) rfl]
    exact congrArg (Except.mapError _) hfound
  · exact (hsifted.sifted _ (by decide)).mpr (by decide : Pattern.excludes _ = false)
  · have hshunned : IsShunned ["node_modules", "b.py"] :=
      (isShunned_iff (by decide)).mpr (by decide)
    exact fun h => (hsifted.unsifted _ (by decide)).mp h hshunned

end DocScribe.Discovery
