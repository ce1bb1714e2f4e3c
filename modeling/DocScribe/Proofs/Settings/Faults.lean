import DocScribe.Proofs.Settings.Finding
import DocScribe.Proofs.Settings.Precedence

/-!
# `DocScribe.Proofs.Settings.Faults`: why there are no settings

Most of what can be wrong with a configuration makes it invalid
(`Fault.isInvalid`). The rest is told apart here by what causes it:

* the file nests too deep or holds a value of a wrong type where a table
  should be (`Misshapen`), which is decided by what the file holds and
  nothing else (`fileValues_of_misshapen`);
* the file or the home is out of reach (`OutOfReach`);
* a variable for the exclusion lines nests too deep (`NestsTooDeep`);
* a name is given that says something else than a setting (`isReserved`).

`load_fault` says that there is no other cause.
-/

set_option autoImplicit false

namespace DocScribe.Settings

variable {ws : Workspace} {path : Option Path} {file : Path} {overrides values : Values}
  {fault : Fault}

/-! ### Variables -/

/-- A variable for the exclusion lines that nests too deep. -/
def NestsTooDeep (bindings : List Dotfile.Binding) (container : Json.Container) : Prop :=
  ∃ entry ∈ bindings, entry.1.toSmall = (Lookup.usualBeginning ++ excludeName).toSmall
    ∧ ∃ value, entry.2 = some value ∧ Json.parse value = .error (.nestingTooDeep container)

/-- The variables of the environment. -/
def environmentBindings (ws : Workspace) : List Dotfile.Binding :=
  ws.environment.map fun entry => (entry.1, some entry.2)

/-- A variable that cannot be read makes the settings invalid, with one
exception: exclusion lines that nest too deep for the reader of JSON. -/
theorem readVariable_fault {origin : Origin} {name value : Text}
    (h : readVariable origin name value = .error fault) :
    fault.isInvalid = true ∨ ∃ container, fault = .nestingTooDeep container ∧ name = excludeName
      ∧ Json.parse value = .error (.nestingTooDeep container) := by
  rw [readVariable] at h
  split at h
  · next hname =>
    split at h
    · cases h
    · cases h
    · next container hparse =>
      exact .inr ⟨container, (Except.error.inj h).symm, hname, hparse⟩
    · exact .inl (Except.error.inj h ▸ rfl)
  · cases h

/-- Names are read one by one, and where the reading fails one of them has
failed. Induction on the names. -/
theorem readEach_fault {read : Text → Except Fault (Option Loose)} {among : List Text}
    (h : readEach read among = .error fault) : ∃ name ∈ among, read name = .error fault := by
  induction among with
  | nil => exact nomatch h
  | cons name among ih =>
      rcases Workspace.bind_fault h with hread | ⟨value, -, hrest⟩
      · exact ⟨name, List.mem_cons_self, hread⟩
      · rcases Workspace.bind_fault hrest with hothers | ⟨others, -, hlast⟩
        · obtain ⟨other, hmem, hread⟩ := ih hothers
          exact ⟨other, List.mem_cons_of_mem _ hmem, hread⟩
        · exact nomatch hlast

/-- The value of a setting is that of a variable, whose name is the one of
the setting in any letters. -/
theorem exists_of_valueOf? {bindings : List Dotfile.Binding} {name value : Text}
    (h : valueOf? usualLookup bindings name = some value) :
    ∃ entry ∈ bindings, entry.1.toSmall = (Lookup.usualBeginning ++ name).toSmall
      ∧ entry.2 = some value := by
  rw [valueOf?] at h
  obtain ⟨entry, hfind, hvalue⟩ := Option.bind_eq_some_iff.mp h
  have hcounts := List.find?_some hfind
  have hsame := (Bool.and_eq_true_iff.mp hcounts).1
  exact ⟨entry, List.mem_reverse.mp (List.mem_of_find?_eq_some hfind), beq_iff_eq.mp hsame, hvalue⟩

/-- So the variables come out as invalid, unless those lines nest too
deep. -/
theorem readVariables_fault {origin : Origin} {bindings : List Dotfile.Binding}
    (h : readVariables usualLookup origin bindings = .error fault) :
    fault.isInvalid = true
      ∨ ∃ container, fault = .nestingTooDeep container ∧ NestsTooDeep bindings container := by
  obtain ⟨name, -, hread⟩ := readEach_fault h
  cases hvalue : valueOf? usualLookup bindings name with
  | none => exact nomatch hvalue ▸ hread
  | some value =>
      have hbound : readVariable origin name value = .error fault := by
        rw [hvalue] at hread
        exact hread
      refine (readVariable_fault hbound).imp_right ?_
      rintro ⟨container, hfault, rfl, hparse⟩
      obtain ⟨entry, hmem, hname, hentry⟩ := exists_of_valueOf? hvalue
      exact ⟨container, hfault, entry, hmem, hname, value, hentry, hparse⟩

/-! ### The dotfile -/

/-- Whether there is a dotfile can always be told: its name is short enough
for any folder. -/
theorem exists_isFile?_dotfile (ws : Workspace) :
    ∃ isThere, ws.isFile? (Path.ofText Lookup.usualDotfile) = .ok isThere := by
  cases hfile : ws.isFile? (Path.ofText Lookup.usualDotfile) with
  | ok isThere => exact ⟨isThere, rfl⟩
  | error fault =>
      obtain ⟨rfl, hfind⟩ := Workspace.isFile?_fault hfile
      rcases Workspace.tooLong_of_find hfind with hlong | ⟨segment, hsegment, hlong⟩
      · exact absurd hlong (by decide +kernel)
      · have hshort : ∀ segment ∈ (Path.ofText Lookup.usualDotfile).segments,
          ¬ Workspace.nameLimit < FileName.size segment := by decide +kernel
        exact absurd hlong (hshort segment hsegment)

/-- Only bytes that are no UTF-8 are wrong with a dotfile. Its lines cannot
be wrong: what is none of a variable is passed over. -/
theorem dotfileVariables_fault
    (h : dotfileVariables ws usualLookup Lookup.usualDotfile = .error fault) :
    ∃ e, fault = .encoding (.notUtf8 e) := by
  obtain ⟨isThere, hfile⟩ := exists_isFile?_dotfile ws
  cases isThere with
  | false => cases (dotfileVariables_of_missing hfile).symm.trans h
  | true =>
      obtain ⟨content, hfind⟩ := Workspace.exists_of_isFile? hfile
      have hplace : dotfilePlace? ws (Path.ofText Lookup.usualDotfile) 0
          = .ok (some (Path.ofText Lookup.usualDotfile)) := by
        rw [dotfilePlace?, hfile]
        rfl
      -- Once it is found there, it can be opened; what is left is to decode it.
      have hread : dotfileVariables ws usualLookup Lookup.usualDotfile
          = ((Encoding.utf8.decode content).mapError .encoding >>= fun text =>
            .ok (Dotfile.settledBindings ws.environment text.unifyNewlines)) := by
        have hpath : expandedPath ws Lookup.usualDotfile = .ok (Path.ofText Lookup.usualDotfile) :=
          rfl
        rw [dotfileVariables, hpath]
        show (dotfilePlace? ws (Path.ofText Lookup.usualDotfile) 0 >>= _) = _
        rw [hplace]
        show ((ws.readBytes (Path.ofText Lookup.usualDotfile)).mapError Fault.file >>= _) = _
        rw [Workspace.readBytes_of_find hfind]
        rfl
      rw [hread] at h
      rcases Workspace.bind_fault h with hdecode | ⟨text, -, htext⟩
      · obtain ⟨bad, hbad, rfl⟩ := Workspace.mapError_fault hdecode
        obtain ⟨e, -, rfl⟩ := Workspace.mapError_fault hbad
        exact ⟨e, rfl⟩
      · cases htext

/-! ### All sources -/

/-- Where no name is reserved, only a variable can be at fault, of the
environment or of the dotfile. Faults in values are invalid settings; what
is left are lines that nest too deep. -/
theorem fromSources_fault (hvalues : NoneReserved values)
    (h : fromSources ws values = .error fault) :
    fault.isInvalid = true ∨ ∃ container, fault = .nestingTooDeep container
      ∧ (NestsTooDeep (environmentBindings ws) container
        ∨ ∃ bindings, dotfileVariables ws usualLookup Lookup.usualDotfile = .ok bindings
          ∧ NestsTooDeep bindings container) := by
  rw [fromSources_eq hvalues] at h
  rcases Workspace.bind_fault h with hdotfile | ⟨bindings, hdotfile, hbehind⟩
  · obtain ⟨e, rfl⟩ := dotfileVariables_fault hdotfile
    exact .inl rfl
  rcases Workspace.bind_fault hbehind with henvironment | ⟨fromEnvironment, -, hlast⟩
  · refine (readVariables_fault henvironment).imp_right ?_
    rintro ⟨container, hfault, hdeep⟩
    exact ⟨container, hfault, .inl hdeep⟩
  rcases Workspace.bind_fault hlast with hbindings | ⟨fromDotfile, -, hgiven⟩
  · refine (readVariables_fault hbindings).imp_right ?_
    rintro ⟨container, hfault, hdeep⟩
    exact ⟨container, hfault, .inr ⟨bindings, hdotfile, hdeep⟩⟩
  · exact nomatch hgiven

/-! ### Files -/

/-- A file nests too deep, or it holds a value of a wrong type where a table
should be: under the tools of the project file, under the name of the table
for settings, or as one of the keys in it, unless a variable takes its
place. -/
inductive Misshapen (ws : Workspace) : Option Path → Fault → Prop
  | searchedNested {text : Text} : ws.isFile? (ownPath ws) = .ok false →
      ws.isFile? (projectPath ws) = .ok true → HoldsText ws (projectPath ws) text →
      Toml.read text = .error .nestingTooDeep → Misshapen ws none .fileTooDeep
  | searched {members : Toml.Members} : ws.isFile? (ownPath ws) = .ok false →
      ws.isFile? (projectPath ws) = .ok true →
      readMembers ws (projectPath ws) = .ok members → (toolsOf members).isScalar = true →
      Misshapen ws none (.notSearchable (toolsOf members).typeName)
  | nested {path : Option Path} {file : Path} {text : Text} :
      fileOf ws path = .ok (some file) → HoldsText ws file text →
      Toml.read text = .error .nestingTooDeep → Misshapen ws path .fileTooDeep
  | tools {path : Option Path} {file : Path} {members : Toml.Members} :
      fileOf ws path = .ok (some file) → readMembers ws file = .ok members →
      file.name = projectFileName → (∀ tools, toolsOf members ≠ .table tools) →
      Misshapen ws path (.noMembers (toolsOf members).typeName)
  | table {path : Option Path} {file : Path} {members : Toml.Members} {value : Toml}
      {e : PairsError} : fileOf ws path = .ok (some file) → readMembers ws file = .ok members →
      settingsIn file members = .ok value → Toml.NoTable value e → Misshapen ws path (.notTable e)
  | key {path : Option Path} {file : Path} {entries : List (PairsKey × Toml)}
      {entry : PairsKey × Toml} : fileOf ws path = .ok (some file) →
      fileEntries ws file = .ok entries → entry ∈ entries → entry.1.isText = false →
      isShadowed ws.environment entry.1.written = false → Misshapen ws path .badNames

/-- Words are no part of a file. -/
theorem Misshapen.ne_words (h : Misshapen ws path fault) (flaw : Words.Flaw) :
    fault ≠ .words flaw := by
  cases h <;> exact nofun

/-- A file cannot be reached: a name is too long, the file that is asked for
is a folder, or the home is unclear. -/
inductive OutOfReach (ws : Workspace) : Option Path → Fault → Prop
  | place {place : Path} : place ∈ places ws →
      ws.find place = .error (.refused .nameTooLong place.toText) →
      OutOfReach ws none (.file (.refused .nameTooLong place.toText))
  | home : ws.home = .unclear → OutOfReach ws none .noHome
  | given {file : Path} : ws.find file = .error (.refused .nameTooLong file.toText) →
      OutOfReach ws (some file) (.file (.refused .nameTooLong file.toText))
  | folder {file : Path} : ws.isFolder? file = .ok true →
      OutOfReach ws (some file) (.file (.refused .isFolder file.toText))

/-- What is there has members or is an invalid configuration, unless it nests
too deep or is a folder. -/
theorem readMembers_fault {tree : Tree} (hfind : ws.find file = .ok tree)
    (h : readMembers ws file = .error fault) :
    fault.isInvalid = true
      ∨ (∃ text, HoldsText ws file text ∧ Toml.read text = .error .nestingTooDeep
        ∧ fault = .fileTooDeep)
      ∨ ws.isFolder? file = .ok true ∧ fault = .file (.refused .isFolder file.toText) := by
  cases hbytes : ws.readBytes file with
  | error e =>
      obtain ⟨hfolder, rfl⟩ := Workspace.readBytes_fault_of_find hfind hbytes
      simp only [readMembers, hbytes, bind, Except.bind, Workspace.mapError_error] at h
      exact .inr (.inr ⟨hfolder, (Except.error.inj h).symm⟩)
  | ok bytes =>
      cases hdecode : Utf8.decode bytes with
      | error e =>
          rw [readMembers_of_notUtf8 hbytes hdecode] at h
          exact .inl (Except.error.inj h ▸ rfl)
      | ok text =>
          have htext : HoldsText ws file text := ⟨hbytes, hdecode⟩
          rw [htext.readMembers_eq] at h
          obtain ⟨e, htoml, rfl⟩ := Workspace.mapError_fault h
          cases e with
          | malformed => exact .inl rfl
          | integerTooLong digits => exact .inl rfl
          | nestingTooDeep => exact .inr (.inl ⟨text, htext, htoml, rfl⟩)

/-- The tools of a project file have to be a table. In a file of its own
this tool has no such table to look for. -/
theorem settingsIn_fault {members : Toml.Members} (h : settingsIn file members = .error fault) :
    file.name = projectFileName ∧ (∀ tools, toolsOf members ≠ .table tools)
      ∧ fault = .noMembers (toolsOf members).typeName := by
  rw [settingsIn] at h
  split at h
  · next hname =>
    split at h
    · exact nomatch h
    · next hother => exact ⟨hname, hother, (Except.error.inj h).symm⟩
  · exact nomatch h

/-- A file that is asked for or found is out of reach only if it is asked
for. -/
theorem outOfReach_of_fileOf (hfile : fileOf ws path = .ok (some file))
    (h : (ws.find file = .error (.refused .nameTooLong file.toText)
        ∧ fault = .file (.refused .nameTooLong file.toText))
      ∨ ws.isFolder? file = .ok true ∧ fault = .file (.refused .isFolder file.toText)) :
    OutOfReach ws path fault := by
  cases path with
  | some asked =>
      obtain rfl : asked = file := Option.some.inj (Except.ok.inj hfile)
      rcases h with ⟨hlong, rfl⟩ | ⟨hfolder, rfl⟩
      · exact .given hlong
      · exact .folder hfolder
  | none =>
      obtain ⟨content, hfind⟩ := Workspace.exists_of_isFile? (isFile?_of_findFile hfile)
      rcases h with ⟨hlong, -⟩ | ⟨hfolder, -⟩
      · cases hlong.symm.trans hfind
      · rw [Workspace.isFolder?, Workspace.find?, hfind] at hfolder
        cases hfolder

/-- What a file holds is read in two steps, if it is there: its members, and
what they say of settings. -/
theorem exists_of_readValue {value : Toml} (h : readValue ws file = .ok value) :
    ∃ members, readMembers ws file = .ok members ∧ settingsIn file members = .ok value := by
  rw [readValue] at h
  obtain ⟨isThere, -, hrest⟩ := Workspace.exists_of_bind h
  cases isThere with
  | false => cases hrest
  | true => exact Workspace.exists_of_bind hrest

/-- A file comes out as invalid, or it has not the shape of one with
settings, or it is out of reach. -/
theorem fileEntries_fault (hfile : fileOf ws path = .ok (some file))
    (h : fileEntries ws file = .error fault) :
    fault.isInvalid = true ∨ Misshapen ws path fault ∨ OutOfReach ws path fault := by
  rw [fileEntries] at h
  rcases Workspace.bind_fault h with hvalue | ⟨value, hvalue, hentries⟩
  · rw [readValue] at hvalue
    rcases Workspace.bind_fault hvalue with hthere | ⟨isThere, hthere, hrest⟩
    · obtain ⟨e, hexists, rfl⟩ := Workspace.mapError_fault hthere
      obtain ⟨rfl, hlong⟩ := Workspace.exists?_fault hexists
      exact .inr (.inr (outOfReach_of_fileOf hfile (.inl ⟨hlong, rfl⟩)))
    · cases isThere with
      -- That the file is missing is reported.
      | false => exact .inl (Except.error.inj hrest ▸ rfl)
      | true =>
          obtain ⟨tree, hfind⟩ := Workspace.exists_of_exists? (Workspace.ok_of_mapError hthere)
          rcases Workspace.bind_fault hrest with hmembers | ⟨members, hmembers, hsettings⟩
          · rcases readMembers_fault hfind hmembers with
              hinvalid | ⟨text, htext, hdeep, rfl⟩ | hfolder
            · exact .inl hinvalid
            · exact .inr (.inl (.nested hfile htext hdeep))
            · exact .inr (.inr (outOfReach_of_fileOf hfile (.inr hfolder)))
          · obtain ⟨hname, htools, rfl⟩ := settingsIn_fault hsettings
            exact .inr (.inl (.tools hfile hmembers hname htools))
  · obtain ⟨e, htable, rfl⟩ := Workspace.mapError_fault hentries
    obtain ⟨members, hmembers, hsettings⟩ := exists_of_readValue hvalue
    cases hlength : e.isLength with
    | false =>
        exact .inr (.inl (.table hfile hmembers hsettings (Toml.noTable_iff.mpr ⟨htable, hlength⟩)))
    | true =>
        -- A pair of a wrong length is the only shape that is reported.
        cases e with
        | wrongLength index length => exact .inl rfl
        | _ => exact nomatch hlength

/-- The values of entries, if their keys are texts but for those that a
variable takes the place of. -/
def namedValues (environment : List (Text × Text)) (entries : List (PairsKey × Toml)) :
    Except Fault Values :=
  let entries := entries.filter fun entry => !isShadowed environment entry.1.written
  if entries.any fun entry => !entry.1.isText then .error .badNames
  else .ok (entries.map fun entry => (entry.1.written, entry.2.toLoose))

/-- Names that are no text are a fault exactly if the environment does not
give a value for them: the environment comes first, and what it replaces is
not looked at. -/
theorem namedValues_eq_error_iff {environment : List (Text × Text)}
    {entries : List (PairsKey × Toml)} :
    namedValues environment entries = .error fault ↔ fault = .badNames ∧ ∃ entry ∈ entries,
      entry.1.isText = false ∧ isShadowed environment entry.1.written = false := by
  have hany : ((entries.filter fun entry => !isShadowed environment entry.1.written).any
        fun entry => !entry.1.isText) = true
      ↔ ∃ entry ∈ entries,
        entry.1.isText = false ∧ isShadowed environment entry.1.written = false := by
    simp only [List.any_eq_true, List.mem_filter, Bool.not_eq_true', and_assoc,
      and_comm (a := isShadowed _ _ = false)]
  rw [namedValues, ← hany]
  split
  · next hbad => exact ⟨fun h => ⟨(Except.error.inj h).symm, hbad⟩, fun h => by rw [h.1]⟩
  · next hgood => exact ⟨fun h => (nomatch h), fun h => absurd h.2 hgood⟩

/-- The values of the file, step by step: where it is, what it holds, and
which names its values have. -/
theorem fileValues_eq_bind (ws : Workspace) (path : Option Path) :
    fileValues ws path = (fileOf ws path >>= fun source =>
      match source with
      | none => .ok []
      | some file => fileEntries ws file >>= namedValues ws.environment) := by
  have hchecked : ∀ entries : List (PairsKey × Toml),
      (do
        if entries.any fun e => !e.1.isText then throw .badNames
        pure (entries.map fun e => (e.1.written, e.2.toLoose)) : Except Fault Values)
        = if entries.any fun e => !e.1.isText then .error .badNames
          else .ok (entries.map fun e => (e.1.written, e.2.toLoose)) := by
    intro entries
    by_cases hbad : (entries.any fun e => !e.1.isText) = true
    · rw [if_pos hbad, if_pos hbad]
      rfl
    · rw [if_neg hbad, if_neg hbad]
      rfl
  cases path
  all_goals
    rw [fileValues, fileOf]
    refine bind_congr fun source => ?_
    cases source with
    | none => rfl
    | some file => exact bind_congr fun entries => hchecked _

/-- What is wrong with the entries is wrong with the values. Nothing that
comes later can make up for it. -/
theorem fileValues_of_fileEntries (hfile : fileOf ws path = .ok (some file))
    (hentries : fileEntries ws file = .error fault) : fileValues ws path = .error fault := by
  rw [fileValues_eq_bind, hfile]
  show (fileEntries ws file >>= _) = _
  rw [hentries]
  rfl

/-- Without a file of their own, settings are looked for in the project
file, and what is wrong with it is wrong with the values. -/
theorem fileValues_of_verdict (hown : ws.isFile? (ownPath ws) = .ok false)
    (hproject : ws.isFile? (projectPath ws) = .ok true)
    (hverdict : Verdict ws (projectPath ws) (.error fault)) :
    fileValues ws none = .error fault := by
  rw [fileValues_eq_bind, fileOf, findFile_of_project hown hproject, hverdict.projectCounts_eq]
  rfl

/-- The values of the file are there, or the configuration is invalid, of a
wrong shape or out of reach. -/
theorem fileValues_fault (h : fileValues ws path = .error fault) :
    fault.isInvalid = true ∨ Misshapen ws path fault ∨ OutOfReach ws path fault := by
  rw [fileValues_eq_bind] at h
  rcases Workspace.bind_fault h with hfile | ⟨source, hfile, hvalues⟩
  · cases path with
    | some file => exact nomatch hfile
    | none =>
        rcases findFile_fault hfile with
          ⟨place, hplace, rfl, hlong⟩ | ⟨rfl, hhome⟩ | ⟨hown, hproject, hverdict⟩
        · exact .inr (.inr (.place hplace hlong))
        · exact .inr (.inr (.home hhome))
        · cases hverdict with
          | notUtf8 => exact .inl rfl
          | numberTooLong => exact .inl rfl
          | nestsTooDeep htext hdeep =>
              exact .inr (.inl (.searchedNested hown hproject htext hdeep))
          | scalar hmembers hscalar =>
              exact .inr (.inl (.searched hown hproject hmembers hscalar))
  · cases source with
    | none => exact nomatch hvalues
    | some file =>
        rcases Workspace.bind_fault hvalues with hentries | ⟨entries, hentries, hnamed⟩
        · exact fileEntries_fault hfile hentries
        · obtain ⟨rfl, entry, hmem, hkey, hunshadowed⟩ := namedValues_eq_error_iff.mp hnamed
          exact .inr (.inl (.key hfile hentries hmem hkey hunshadowed))

/-- A file that can be read is there, and its members hold its value or are
it. -/
theorem readValue_of_bytes {bytes : List UInt8} (h : ws.readBytes file = .ok bytes) :
    readValue ws file = (readMembers ws file >>= settingsIn file) := by
  obtain ⟨tree, hfind, -⟩ := Workspace.exists_of_bind h
  have hthere : ws.exists? file = .ok true := by
    rw [Workspace.exists?, Workspace.find?, hfind]
    rfl
  rw [readValue, hthere]
  rfl

/-- Of a file that can be read, the settings are what counts. In a project
file they stand in a table of their own. -/
theorem readValue_eq {members : Toml.Members} (h : readMembers ws file = .ok members) :
    readValue ws file = settingsIn file members := by
  have hmembers := h
  rw [readMembers] at hmembers
  obtain ⟨bytes, hbytes, -⟩ := Workspace.exists_of_bind hmembers
  rw [readValue_of_bytes (Workspace.ok_of_mapError hbytes), h]
  rfl

/-- A file of a wrong shape has no values, and that is not reported: the
fault is none of those that count as an invalid configuration. One case for
each shape. -/
theorem fileValues_of_misshapen (h : Misshapen ws path fault) :
    fileValues ws path = .error fault ∧ fault.isInvalid = false := by
  cases h with
  | searchedNested hown hproject htext hdeep =>
      exact ⟨fileValues_of_verdict hown hproject (.nestsTooDeep htext hdeep), rfl⟩
  | @nested _ file text hfile htext hdeep =>
      have hentries : fileEntries ws file = .error .fileTooDeep := by
        obtain ⟨hbytes, -⟩ := id htext
        rw [fileEntries, readValue_of_bytes hbytes, htext.readMembers_eq, hdeep]
        rfl
      exact ⟨fileValues_of_fileEntries hfile hentries, rfl⟩
  | searched hown hproject hmembers hscalar =>
      exact ⟨fileValues_of_verdict hown hproject (.scalar hmembers hscalar), rfl⟩
  | @tools _ file members hfile hmembers hname htools =>
      have hsettings : settingsIn file members
          = .error (.noMembers (toolsOf members).typeName) := by
        rw [settingsIn, if_pos hname]
        split
        · next tools htable => exact absurd htable (htools tools)
        · rfl
      have hentries : fileEntries ws file = .error (.noMembers (toolsOf members).typeName) := by
        rw [fileEntries, readValue_eq hmembers, hsettings]
        rfl
      exact ⟨fileValues_of_fileEntries hfile hentries, rfl⟩
  | @table _ file members value e hfile hmembers hsettings htable =>
      obtain ⟨herror, hlength⟩ := Toml.noTable_iff.mp htable
      have hentries : fileEntries ws file = .error (.notTable e) := by
        rw [fileEntries, readValue_eq hmembers, hsettings]
        show (value.toEntries).mapError Fault.notTable = _
        rw [herror]
        rfl
      refine ⟨fileValues_of_fileEntries hfile hentries, ?_⟩
      -- A wrong length would have been reported.
      cases e with
      | wrongLength index length => cases hlength
      | _ => rfl
  | @key _ file entries entry hfile hentries hmem hkey hunshadowed =>
      rw [fileValues_eq_bind, hfile]
      show (fileEntries ws file >>= _) = _ ∧ _
      rw [hentries]
      exact ⟨namedValues_eq_error_iff.mpr ⟨rfl, entry, hmem, hkey, hunshadowed⟩, rfl⟩

/-! ### Settings -/

/-- What keeps settings from being loaded and is not reported. -/
inductive Escapes (ws : Workspace) (path : Option Path) (overrides : Values) : Fault → Prop
  | pathTwice : (overrides.lookup pathName).isSome = true →
      Escapes ws path overrides (.givenTwice "load_config" pathName)
  | misshapen {fault : Fault} : Misshapen ws path fault → Escapes ws path overrides fault
  | outOfReach {fault : Fault} : OutOfReach ws path fault → Escapes ws path overrides fault
  | reserved {values : Values} {entry : Text × Loose} {fault : Fault} :
      fileValues ws path = .ok values → entry ∈ values ++ overrides.filter isGiven →
      isReserved entry.1 = true → Escapes ws path overrides fault
  | variable {container : Json.Container} : NestsTooDeep (environmentBindings ws) container →
      Escapes ws path overrides (.nestingTooDeep container)
  | dotfile {bindings : List Dotfile.Binding} {container : Json.Container} :
      dotfileVariables ws usualLookup Lookup.usualDotfile = .ok bindings →
      NestsTooDeep bindings container → Escapes ws path overrides (.nestingTooDeep container)

/-- A name that is taken is given: if the check fails, it is for one of the
names that were given. -/
theorem checkNames_fault {taken : List (Text × Text)} (h : checkNames values taken = .error fault) :
    ∃ entry ∈ taken, (values.lookup entry.1).isSome = true
      ∧ fault = .givenTwice entry.2 entry.1 := by
  rw [checkNames] at h
  split at h
  · next name taker hfind =>
    have hgiven := List.find?_some hfind
    exact ⟨_, List.mem_of_find?_eq_some hfind, hgiven, (Except.error.inj h).symm⟩
  · cases h

/-- Settings that are not loaded are invalid, or one of the causes keeps
them away. -/
theorem load_fault (h : load ws path overrides = .error fault) :
    fault.isInvalid = true ∨ Escapes ws path overrides fault := by
  rw [load] at h
  rcases Workspace.bind_fault h with hpath | ⟨_, -, hbehind⟩
  · obtain ⟨entry, hentry, hgiven, rfl⟩ := checkNames_fault hpath
    obtain rfl := List.mem_singleton.mp hentry
    exact .inr (.pathTwice hgiven)
  -- The file comes first: what is wrong with it ends the loading.
  rcases Workspace.bind_fault hbehind with hvalues | ⟨table, htable, hnamed⟩
  · rcases fileValues_fault hvalues with hinvalid | hshape | hreach
    · exact .inl hinvalid
    · exact .inr (.misshapen hshape)
    · exact .inr (.outOfReach hreach)
  by_cases hreserved : ∃ entry ∈ table ++ overrides.filter isGiven, isReserved entry.1 = true
  · obtain ⟨entry, hentry, hname⟩ := hreserved
    exact .inr (.reserved htable hentry hname)
  · have hnone : NoneReserved (overlaid table (overrides.filter isGiven)) := by
      have hall : ∀ entry ∈ table ++ overrides.filter isGiven, isReserved entry.1 = false :=
        fun entry hentry => (Bool.not_eq_true _).mp fun hname => hreserved ⟨entry, hentry, hname⟩
      exact NoneReserved.overlaid (fun entry hentry => hall entry (List.mem_append_left _ hentry))
        fun entry hentry => hall entry (List.mem_append_right _ hentry)
    -- Without reserved names no name is taken, and the usual sources are asked.
    rcases Workspace.bind_fault hnamed with hnames | ⟨_, -, hsources⟩
    · obtain ⟨entry, hentry, hgiven, -⟩ := checkNames_fault hnames
      obtain rfl := List.mem_singleton.mp hentry
      rw [hnone.lookup_eq_none (by decide)] at hgiven
      cases hgiven
    rw [hnone.lookup_eq_none (by decide)] at hsources
    rcases Workspace.bind_fault hsources with hfault | ⟨sources, -, hread⟩
    · rcases fromSources_fault hnone hfault with
        hinvalid | ⟨container, rfl, hdeep | ⟨_, hdotfile, hdeep⟩⟩
      · exact .inl hinvalid
      · exact .inr (.variable hdeep)
      · exact .inr (.dotfile hdotfile hdeep)
    -- Values that do not fit their settings are reported.
    · obtain ⟨rejection, -, rfl⟩ := Workspace.mapError_fault hread
      exact .inl rfl

/-- A file of a wrong shape keeps settings from being loaded, with its own
fault: nothing that is read before can fail. -/
theorem load_of_misshapen (hpath : overrides.lookup pathName = none)
    (h : Misshapen ws path fault) :
    load ws path overrides = .error fault ∧ fault.isInvalid = false := by
  obtain ⟨hvalues, hinvalid⟩ := fileValues_of_misshapen h
  have hnames : checkNames overrides [(pathName, "load_config")] = .ok () :=
    checkNames_eq fun entry hentry => by
      rw [List.mem_singleton.mp hentry]
      exact hpath
  refine ⟨?_, hinvalid⟩
  simp only [load, hnames, hvalues, bind, Except.bind]

end DocScribe.Settings
