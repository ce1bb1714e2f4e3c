import DocScribe.Proofs.Settings.Values
import DocScribe.Proofs.Text.LetterCase

/-!
# `DocScribe.Proofs.Settings.Sources`: what each source gives

Values of settings say nothing about how variables are looked up, so these
are looked up in the usual way, and words and secrets give nothing. Without
a dotfile, what is left are the values that were given and the variables of
the environment (`exists_fromSources`). A variable is that of a setting if
the two names are equal in small letters (`isVariableOf`); for ASCII names
this is the same as being equal in capitals, which is what counts for the
file (`isShadowed_eq`).
-/

set_option autoImplicit false

namespace DocScribe.Settings

variable {ws : Workspace} {name : Text} {values : Values} {environment : List (Text × Text)}

/-! ### Variables of the environment -/

/-- Whether a variable is that of a setting. -/
def isVariableOf (name : Text) (entry : Text × Text) : Bool :=
  entry.1.toSmall == (Lookup.usualBeginning ++ name).toSmall

/-- The names of the variables are ASCII, so their letter case is that of
ASCII letters. -/
theorem isAscii_variable (h : name ∈ names) :
    Text.isAscii (Lookup.usualBeginning ++ name) = true := by
  have hall : ∀ name ∈ names, Text.isAscii (Lookup.usualBeginning ++ name) = true := by decide
  exact hall name h

/-- The file is asked about the same variables as the environment. One of
them compares capital letters and the other small ones, which is the same
for names in ASCII. -/
theorem isShadowed_eq (hascii : ∀ entry ∈ environment, entry.1.isAscii = true)
    (hname : name ∈ names) :
    isShadowed environment name = (environment.find? (isVariableOf name)).isSome := by
  rw [isShadowed, Bool.eq_iff_iff, List.any_eq_true, List.find?_isSome]
  refine exists_congr fun entry => and_congr_right fun hentry => ?_
  rw [isVariableOf, beq_iff_eq, beq_iff_eq]
  exact (Text.toSmall_eq_iff (hascii entry hentry) (isAscii_variable hname)).symm

/-- Where there is at most one, the last is the first. Of variables that are
the same but for letter case, the last counts. -/
theorem find?_reverse_of_le_one {α : Type} {p : α → Bool} {xs : List α}
    (h : (xs.filter p).length ≤ 1) : xs.reverse.find? p = xs.find? p := by
  rw [← List.head?_filter, ← List.head?_filter, List.filter_reverse]
  cases hfilter : xs.filter p with
  | nil => rfl
  | cons x rest =>
      rw [hfilter, List.length_cons] at h
      have hrest : rest = [] := List.eq_nil_of_length_eq_zero (by omega)
      rw [hrest]
      rfl

/-! ### Looking up in the usual way -/

/-- How variables are looked up if nothing is said about it. -/
def usualLookup : Lookup :=
  { beginning := Lookup.usualBeginning, caseCounts := false, ignoresEmpty := false, none? := none
    memberMark? := none, dotfiles := [Lookup.usualDotfile], dotfileEncoding := none
    dotfileDepth := 0, secretFolders := [] }

/-- The words that steer the reading of settings cannot be given: their
names are reserved, and where none of these is found the usual ones hold. -/
theorem lookup_ofValues {found : Text → Option Loose}
    (hfound : ∀ name, isReserved name = true → found name = none) :
    Lookup.ofValues found = .ok usualLookup := by
  have hparts : found "_env_nested_max_split" = none := hfound _ (by decide)
  have hbeginning : found "_env_prefix" = none := hfound _ (by decide)
  have hdotfile : found "_env_file" = none := hfound _ (by decide)
  have hdepth : found "_env_file_depth" = none := hfound _ (by decide)
  have hsecrets : found "_secrets_dir" = none := hfound _ (by decide)
  have htarget : found "_env_prefix_target" = none := hfound _ (by decide)
  have hcase : found "_case_sensitive" = none := hfound _ (by decide)
  have hempty : found "_env_ignore_empty" = none := hfound _ (by decide)
  have hnone : found "_env_parse_none_str" = none := hfound _ (by decide)
  have hmark : found "_env_nested_delimiter" = none := hfound _ (by decide)
  have hencoding : found "_env_file_encoding" = none := hfound _ (by decide)
  simp only [Lookup.ofValues, hparts, hbeginning, hdotfile, hdepth, hsecrets, htarget, hcase,
    hempty, hnone, hmark, hencoding]
  rfl

/-- What a variable with some text gives to a setting. A text that is no
list gives nothing to a setting that is one. -/
def valueOfVariable (name text : Text) : Option Loose :=
  match readVariable .environment name text with
  | .ok value => value
  | .error _ => none

/-- Names are read one by one, and those that have a value are kept with it.
Induction on the names. -/
theorem readEach_eq {read : Text → Except Fault (Option Loose)} {value : Text → Option Loose}
    (among : List Text) (h : ∀ name ∈ among, read name = .ok (value name)) :
    readEach read among
      = .ok (among.filterMap fun name => (value name).map fun v => (name, v)) := by
  induction among with
  | nil => rfl
  | cons name among ih =>
      rw [readEach, h name List.mem_cons_self,
        ih fun other hother => h other (List.mem_cons_of_mem _ hother)]
      cases hvalue : value name <;> simp [hvalue, bind, Except.bind, pure, Except.pure]

/-- The value of a variable of the environment, if no two variables are the
same but for letter case. -/
theorem valueOf?_environment (hone : (environment.filter (isVariableOf name)).length ≤ 1) :
    valueOf? usualLookup (environment.map fun entry => (entry.1, some entry.2)) name
      = (environment.find? (isVariableOf name)).map Prod.snd := by
  have hbinding : (fun entry : Dotfile.Binding =>
      usualLookup.isSame entry.1 (usualLookup.variableFor name) && usualLookup.counts entry.2)
        ∘ (fun entry : Text × Text => (entry.1, some entry.2)) = isVariableOf name := by
    funext entry
    simp only [Function.comp_apply, Lookup.isSame, Lookup.variableFor, Lookup.counts, usualLookup,
      isVariableOf, Bool.false_eq_true, if_false, Bool.false_and, Bool.not_false, Bool.and_true]
  rw [valueOf?, ← List.map_reverse, List.find?_map, hbinding, find?_reverse_of_le_one hone,
    Option.bind_map, Option.map_eq_bind]
  rfl

/-- What the environment gives to a setting. -/
def environmentValue? (environment : List (Text × Text)) (name : Text) : Option Loose :=
  (environment.find? (isVariableOf name)).bind fun entry => valueOfVariable name entry.2

/-- Variables of the environment that can be read are read, setting by
setting. -/
theorem readVariables_environment
    (hone : ∀ name ∈ names, (environment.filter (isVariableOf name)).length ≤ 1)
    (hread : ∀ name ∈ names, ∀ entry ∈ environment, isVariableOf name entry = true →
      readVariable .environment name entry.2 = .ok (valueOfVariable name entry.2)) :
    readVariables usualLookup .environment (environment.map fun entry => (entry.1, some entry.2))
      = .ok (names.filterMap fun name =>
          (environmentValue? environment name).map fun v => (name, v)) := by
  refine readEach_eq names fun name hname => ?_
  rw [valueOf?_environment (hone name hname), environmentValue?]
  cases hfind : environment.find? (isVariableOf name) with
  | none =>
      show Except.ok (membersOf? usualLookup _ name) = _
      rw [membersOf?, if_neg fun h => by simp [usualLookup, Lookup.setsMember] at h]
      rfl
  | some entry =>
      have hentry := hread name hname entry (List.mem_of_find?_eq_some hfind)
        (List.find?_some hfind)
      show readBound usualLookup .environment name entry.2 = _
      rw [readBound, if_neg (by simp [usualLookup]), hentry]
      rfl

/-! ### All sources -/

/-- Without a dotfile there are no variables in it, which is no fault. This
is the usual case, and the only one that the order of the sources is stated
for. -/
theorem dotfileVariables_of_missing
    (hdotfile : ws.isFile? (Path.ofText Lookup.usualDotfile) = .ok false) :
    dotfileVariables ws usualLookup Lookup.usualDotfile = .ok [] := by
  have hpath : expandedPath ws Lookup.usualDotfile = .ok (Path.ofText Lookup.usualDotfile) := rfl
  have hplace : dotfilePlace? ws (Path.ofText Lookup.usualDotfile) usualLookup.dotfileDepth
      = .ok none := by
    show dotfilePlace? ws (Path.ofText Lookup.usualDotfile) 0 = _
    rw [dotfilePlace?, hdotfile]
    rfl
  rw [dotfileVariables, hpath]
  simp only [bind, Except.bind, hplace]
  rfl

/-- Where no name is reserved, the usual places are looked at: the
environment and the dotfile. -/
theorem fromSources_eq (hvalues : NoneReserved values) :
    fromSources ws values = (dotfileVariables ws usualLookup Lookup.usualDotfile >>= fun bindings =>
      readVariables usualLookup .environment
          (ws.environment.map fun entry => (entry.1, some entry.2)) >>= fun fromEnvironment =>
        readVariables usualLookup .dotfile bindings >>= fun fromDotfile =>
          .ok [[], names.filterMap fun name => (spelled? values name).map fun v => (name, v),
            fromEnvironment, fromDotfile, []]) := by
  have hlookup : Lookup.ofValues (fun name => values.lookup name) = .ok usualLookup :=
    lookup_ofValues fun name hname => hvalues.lookup_eq_none hname
  have hnames : checkNames values (takenNames.drop 1) = .ok () :=
    checkNames_eq fun entry hentry => hvalues.lookup_eq_none (by
      revert entry
      decide)
  have hwords : Words.ofValues (fun name => values.lookup name) = .ok [] := by
    rw [Words.ofValues, hvalues.lookup_eq_none (by decide)]
  have hfolders : secretFolders ws usualLookup = .ok [] := rfl
  have hsecrets : readEach (readSecret usualLookup []) names = .ok [] := rfl
  have hdotfiles : usualLookup.dotfiles.mapM (dotfileVariables ws usualLookup)
      = (dotfileVariables ws usualLookup Lookup.usualDotfile).map fun bindings => [bindings] := by
    show [Lookup.usualDotfile].mapM (dotfileVariables ws usualLookup) = _
    rw [List.mapM_cons]
    cases dotfileVariables ws usualLookup Lookup.usualDotfile <;> rfl
  simp only [fromSources, hnames, hlookup, hwords, hdotfiles, hfolders, hsecrets, bind, Except.bind]
  cases dotfileVariables ws usualLookup Lookup.usualDotfile with
  | error fault => rfl
  | ok bindings =>
      simp only [Except.map, List.flatten_singleton]
      rfl

/-- Values of settings, with variables that can be read and without a
dotfile: the settings are what was given, and then what the environment
gives. -/
theorem exists_fromSources (hvalues : OnlySettings values)
    (hdotfile : ws.isFile? (Path.ofText Lookup.usualDotfile) = .ok false)
    (hone : ∀ name ∈ names, (ws.environment.filter (isVariableOf name)).length ≤ 1)
    (hread : ∀ name ∈ names, ∀ entry ∈ ws.environment, isVariableOf name entry = true →
      readVariable .environment name entry.2 = .ok (valueOfVariable name entry.2)) :
    ∃ sources, fromSources ws values = .ok sources ∧ ∀ name ∈ names,
      firstValue sources name
        = (values.lookup name).or (environmentValue? ws.environment name) := by
  have henvironment := readVariables_environment hone hread
  have hgiven : (names.filterMap fun name => (spelled? values name).map fun v => (name, v))
      = names.filterMap fun name => (values.lookup name).map fun v => (name, v) := by
    simp only [hvalues.spelled?_eq]
  refine ⟨[[], names.filterMap fun name => (values.lookup name).map fun v => (name, v),
    names.filterMap fun name => (environmentValue? ws.environment name).map fun v => (name, v),
    [], []], ?_, fun name hname => ?_⟩
  · rw [fromSources_eq hvalues.noneReserved, dotfileVariables_of_missing hdotfile, henvironment,
      hgiven]
    rfl
  · simp only [firstValue, List.findSome?_cons, List.findSome?_nil, List.lookup_nil,
      lookup_filterMap, if_pos hname]
    cases values.lookup name <;> cases environmentValue? ws.environment name <;> rfl

end DocScribe.Settings
