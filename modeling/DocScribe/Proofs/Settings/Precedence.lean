import DocScribe.Proofs.Settings.Sources
import DocScribe.Proofs.Settings.Validated
import DocScribe.Proofs.Workspace.Reading

/-!
# `DocScribe.Proofs.Settings.Precedence`: which source counts for a setting

A setting may be given by an override, a variable of the environment or the
file, in this order; of several that give it the first one counts, and its
default if none does (`ranked`). `load_by_precedence` says that settings
are read from nothing else: each of them is the value of its field for the
source that counts, and what another source says of it makes no difference,
be it a value or not.

One thing is not as the order has it. A variable for the exclusion lines
that holds `null` gives nothing. But as it is there, the file is not asked,
and the lines are those by default (`null_variable_hides_file`).

Assumed is that the sources say nothing but settings, that there is no
dotfile, and that the names of variables are ASCII, with one spelling for
each setting (`Sources`).
-/

set_option autoImplicit false

namespace DocScribe.Settings

variable {ws : Workspace} {path : Option Path} {table overrides : Values} {name : Text}

/-! ### The file -/

/-- The file that is asked for, or that is found. -/
def fileOf (ws : Workspace) : Option Path → Except Fault (Option Path)
  | some path => .ok (some path)
  | none => findFile ws

/-- The values that the file holds, if there is one. -/
inductive Holds (ws : Workspace) (path : Option Path) : Values → Prop
  | missing : fileOf ws path = .ok none → Holds ws path []
  | there {file : Path} {entries : List (PairsKey × Toml)} :
      fileOf ws path = .ok (some file) → fileEntries ws file = .ok entries →
      (∀ entry ∈ entries, entry.1.isText = true) →
      Holds ws path (entries.map fun entry => (entry.1.written, entry.2.toLoose))

/-- The values of the file that count are those for which there is no
variable. -/
theorem fileValues_eq (h : Holds ws path table) :
    fileValues ws path
      = .ok (table.filter fun entry => !isShadowed ws.environment entry.1) := by
  cases h with
  | missing hfile =>
      cases path with
      | none =>
          rw [fileOf] at hfile
          simp only [fileValues, hfile, bind, Except.bind]
          rfl
      | some path => cases hfile
  | @there file entries hfile hentries htexts =>
      -- No key is left that is not a text, with or without those that are shadowed.
      have hbad : ((entries.filter fun entry => !isShadowed ws.environment entry.1.written).any
          fun entry => !entry.1.isText) = false := by
        refine List.any_eq_false.mpr fun entry hentry => ?_
        rw [htexts entry (List.mem_filter.mp hentry).1]
        exact Bool.false_ne_true
      rw [List.filter_map]
      cases path with
      | none =>
          rw [fileOf] at hfile
          simp only [fileValues, hfile, bind, Except.bind, hentries, hbad]
          rfl
      | some path =>
          obtain rfl := Option.some.inj (Except.ok.inj hfile)
          simp only [fileValues, bind, Except.bind, pure, Except.pure, hentries, hbad]
          rfl

/-! ### Which source counts -/

/-- What all sources together give for a setting: the override if there is
one, else what a variable gives if there is one, else what the file
holds. -/
def ranked (environment : List (Text × Text)) (table overrides : Values) (name : Text) :
    Option Loose :=
  match (overrides.filter isGiven).lookup name with
  | some value => some value
  | none =>
    match environment.find? (isVariableOf name) with
    | some entry => valueOfVariable name entry.2
    | none => table.lookup name

/-- Where the settings of a run come from: a file, variables and overrides
that say nothing but settings, each of them once. A variable for the
exclusion lines holds JSON. -/
structure Sources (ws : Workspace) (path : Option Path) (table overrides : Values) : Prop where
  file : Holds ws path table
  tableNames : OnlySettings table
  overrideNames : OnlySettings overrides
  overridesOnce : (overrides.map Prod.fst).Nodup
  noDotfile : ws.isFile? (Path.ofText Lookup.usualDotfile) = .ok false
  ascii : ∀ entry ∈ ws.environment, entry.1.isAscii = true
  oneSpelling : ∀ name ∈ names, (ws.environment.filter (isVariableOf name)).length ≤ 1
  decodable : ∀ entry ∈ ws.environment, isVariableOf excludeName entry = true →
    ∃ value, Json.parse entry.2 = .ok value

/-- Variables that hold JSON where they should are read, and the others are
texts as they stand. -/
theorem Sources.readVariable_eq (h : Sources ws path table overrides) {entry : Text × Text}
    (hentry : entry ∈ ws.environment) (hvariable : isVariableOf name entry = true) :
    readVariable .environment name entry.2 = .ok (valueOfVariable name entry.2) := by
  rw [valueOfVariable, readVariable]
  by_cases hname : name = excludeName
  · obtain ⟨value, hvalue⟩ := h.decodable entry hentry (hname ▸ hvariable)
    rw [if_pos hname, hvalue]
    cases value <;> rfl
  · rw [if_neg hname]

/-- The values that are handed on: those of the file, with the overrides in
their place. -/
def handedOn (environment : List (Text × Text)) (table overrides : Values) : Values :=
  overlaid (table.filter fun entry => !isShadowed environment entry.1) (overrides.filter isGiven)

/-- All values that are handed on are of settings. The environment is asked
for these names only, and the others were checked. -/
theorem Sources.onlySettings (h : Sources ws path table overrides) :
    OnlySettings (handedOn ws.environment table overrides) := by
  refine OnlySettings.overlaid ?_ ?_
  · exact fun entry hentry => h.tableNames entry (List.mem_filter.mp hentry).1
  · exact fun entry hentry => h.overrideNames entry (List.mem_filter.mp hentry).1

/-- What counts for a setting is handed on, or is left to the environment:
what is given in words comes first, then the environment, then the file. -/
theorem Sources.ranked_eq (h : Sources ws path table overrides) (hname : name ∈ names) :
    ((handedOn ws.environment table overrides).lookup name).or
        (environmentValue? ws.environment name)
      = ranked ws.environment table overrides name := by
  have honce : ((overrides.filter isGiven).map Prod.fst).Nodup :=
    h.overridesOnce.sublist (List.filter_sublist.map Prod.fst)
  rw [handedOn, lookup_overlaid honce, lookup_filter fun key => !isShadowed ws.environment key,
    isShadowed_eq h.ascii hname, ranked, environmentValue?]
  cases (overrides.filter isGiven).lookup name with
  | some value => rfl
  | none =>
      cases ws.environment.find? (isVariableOf name) with
      | some entry => rfl
      | none => exact Option.or_none

/-- Settings are read from what counts. So a source makes a difference only
where no source in front of it has a value. -/
theorem Sources.load_eq (h : Sources ws path table overrides) :
    load ws path overrides
      = ((ofValues (ranked ws.environment table overrides)).toExcept title).mapError .rejected := by
  have hpath : checkNames overrides [(pathName, "load_config")] = .ok () :=
    h.overrideNames.checkNames_eq (by decide)
  have hself : checkNames (handedOn ws.environment table overrides) (takenNames.take 1) = .ok () :=
    h.onlySettings.checkNames_eq (by decide)
  have hothers : (handedOn ws.environment table overrides).lookup sourcesName = none :=
    h.onlySettings.lookup_eq_none (by decide)
  obtain ⟨sources, hsources, hfirst⟩ := exists_fromSources h.onlySettings h.noDotfile h.oneSpelling
    fun name _ entry hentry hvariable => h.readVariable_eq hentry hvariable
  have hsame : ofValues (firstValue sources) = ofValues (ranked ws.environment table overrides) :=
    ofValues_congr fun name hname => (hfirst name hname).trans (h.ranked_eq hname)
  rw [handedOn] at hself hothers hsources
  simp only [load, bind, Except.bind, hpath, fileValues_eq h.file, hself, hothers, hsources, hsame]

/-- Other variables and another file that say something else only where
something before them counts. -/
structure DiffersBehind (environment environment' : List (Text × Text))
    (table table' overrides : Values) : Prop where
  ofVariables : ∀ name ∈ names, (overrides.filter isGiven).lookup name = none →
    (environment'.find? (isVariableOf name)).map Prod.snd
      = (environment.find? (isVariableOf name)).map Prod.snd
  ofFile : ∀ name ∈ names, (overrides.filter isGiven).lookup name = none →
    environment.find? (isVariableOf name) = none → table'.lookup name = table.lookup name

/-- What is ranked behind a value that is given makes no difference to the
setting. -/
theorem DiffersBehind.ranked_eq {environment environment' : List (Text × Text)} {table' : Values}
    (h : DiffersBehind environment environment' table table' overrides) (hname : name ∈ names) :
    ranked environment' table' overrides name = ranked environment table overrides name := by
  rw [ranked, ranked]
  cases hoverride : (overrides.filter isGiven).lookup name with
  | some value => rfl
  | none =>
      -- Behind an override that is missing the variables agree, and behind those the files.
      have hvariable := h.ofVariables name hname hoverride
      cases hfind : environment.find? (isVariableOf name) with
      | some entry =>
          rw [hfind] at hvariable
          obtain ⟨entry', hentry', hvalue⟩ := Option.map_eq_some_iff.mp hvariable
          rw [hentry']
          exact congrArg (valueOfVariable name) hvalue
      | none =>
          rw [hfind] at hvariable
          rw [Option.map_eq_none_iff.mp hvariable]
          exact h.ofFile name hname hoverride hfind

/-- **Overrides before variables before the file before defaults.** Let the
settings come from sources that say nothing but settings. Then:

* each setting is the value of its field for the source that counts, or its
  default if none does, and there are settings exactly if all of these
  values are there;
* if there are none, they are refused, and nothing else goes wrong;
* whatever is said behind a source that counts, be it a value or not, makes
  no difference: neither to the settings nor to whether there are any. -/
theorem load_by_precedence (h : Sources ws path table overrides) :
    (∀ settings, load ws path overrides = .ok settings
        ↔ Validated (ranked ws.environment table overrides) settings)
      ∧ (∀ fault, load ws path overrides = .error fault → ∃ r, fault = .rejected r)
      ∧ ∀ (ws' : Workspace) (path' : Option Path) (table' : Values),
        Sources ws' path' table' overrides →
        DiffersBehind ws.environment ws'.environment table table' overrides →
        load ws' path' overrides = load ws path overrides := by
  refine ⟨fun settings => ?_, fun fault hfault => ?_, fun ws' path' table' h' hbehind => ?_⟩
  · rw [h.load_eq, ← ofValues_eq_ok_iff]
    cases ofValues (ranked ws.environment table overrides) <;>
      simp [Checked.toExcept, Workspace.mapError_ok, Workspace.mapError_error]
  · rw [h.load_eq] at hfault
    cases hread : ofValues (ranked ws.environment table overrides) with
    | ok settings =>
        rw [hread] at hfault
        cases hfault
    | bad issues =>
        rw [hread] at hfault
        exact ⟨⟨title, issues⟩, (Except.error.inj hfault).symm⟩
  · rw [h.load_eq, h'.load_eq, ofValues_congr fun name hname => hbehind.ranked_eq hname]

/-- A folder with nothing but a file of settings. -/
def withFile (content : Text) (environment : List (Text × Text)) : Workspace :=
  { tree := .folder [("apidocgen.toml", .file (content.map fun c => UInt8.ofNat c.val))]
    current := []
    environment := environment }

/-- A file, and a variable for one of the settings in it. -/
def threeSources : Workspace :=
  withFile "provider = \"ollama\"\nmax_tokens = 1000\noutput_format = \"html\"\n"
    [("APIDOCGEN_MAX_TOKENS", "2000")]

/-- An override for another one, and one that says nothing. -/
def someOverrides : Values := [("output_format", .text "json"), ("model", .null)]

/-- A result that passes a test is one. It is used where values are tested,
since texts of files cannot be compared by evaluation alone. -/
theorem exists_ok_of_any {ε α : Type} {result : Except ε α} {p : α → Bool}
    (h : result.toOption.any p = true) : ∃ a, result = .ok a ∧ p a = true := by
  cases result with
  | ok a => exact ⟨a, rfl, h⟩
  | error e => exact nomatch h

/-- Of three settings each is given by a source of its own: by words, by the
environment and by the file, although the sources behind have a value for it
too. -/
theorem load_threeSources :
    ∃ table settings, Sources threeSources none table someOverrides
      ∧ Validated (ranked threeSources.environment table someOverrides) settings
      ∧ settings.provider = ("ollama" : Text) ∧ settings.maxTokens = 2000
      ∧ settings.outputFormat = .json := by
  have hread : (fileEntries threeSources ⟨.root, ["apidocgen.toml"]⟩).toOption.any (fun entries =>
      entries.all fun entry => names.contains entry.1.written && entry.1.isText) = true := by
    decide +kernel
  obtain ⟨entries, hentries, hnames⟩ := exists_ok_of_any hread
  have hload : (load threeSources none someOverrides).toOption.any (fun s =>
      s.provider = ("ollama" : Text) ∧ s.maxTokens = 2000 ∧ s.outputFormat = .json) = true := by
    decide +kernel
  obtain ⟨settings, hsettings, hvalues⟩ := exists_ok_of_any hload
  have hentry : ∀ entry ∈ entries, entry.1.written ∈ names ∧ entry.1.isText = true := by
    simpa [List.all_eq_true] using hnames
  have hsources : Sources threeSources none
      (entries.map fun entry => (entry.1.written, entry.2.toLoose)) someOverrides :=
    { file := .there (by decide +kernel) hentries fun entry hmem => (hentry entry hmem).2
      tableNames := by
        intro entry hmem
        obtain ⟨old, hold, rfl⟩ := List.mem_map.mp hmem
        exact (hentry old hold).1
      overrideNames := by
        unfold OnlySettings
        decide +kernel
      overridesOnce := by decide +kernel
      noDotfile := by decide +kernel
      ascii := by decide +kernel
      oneSpelling := by decide +kernel
      decodable := by
        have hother : ∀ entry ∈ threeSources.environment,
          isVariableOf excludeName entry = false := by decide +kernel
        exact fun entry hmem hvariable => nomatch (hother entry hmem).symm.trans hvariable }
  exact ⟨_, settings, hsources, ((load_by_precedence hsources).1 settings).mp hsettings,
    by simpa using hvalues⟩

/-- A variable for the exclusion lines that holds `null`, beside a file with
such a line. -/
def nullVariable : Workspace :=
  withFile "exclude_patterns = [\"a\"]\n" [("APIDOCGEN_EXCLUDE_PATTERNS", "null")]

/-- The variable is there, and what it holds can be decoded; but the value
is neither refused nor is there a line, though the file has one. -/
theorem null_variable_hides_file :
    (nullVariable.environment.find? (isVariableOf excludeName)).isSome = true
      ∧ Json.parse "null" = .ok .null
      ∧ patternsOf (some Json.null.toLoose) = .bad [⟨.notList, [.key excludeName]⟩]
      ∧ (load nullVariable none []).toOption.map Settings.excludePatterns = some []
      ∧ (load { nullVariable with environment := [] } none []).toOption.map
        Settings.excludePatterns = some [Text.ofString "a"] := by
  refine ⟨by decide +kernel, rfl, rfl, by decide +kernel, by decide +kernel⟩

end DocScribe.Settings
