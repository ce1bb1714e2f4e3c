import DocScribe.Proofs.Settings.Shapes
import DocScribe.Proofs.Workspace.Reading
import DocScribe.Settings.File

/-!
# `DocScribe.Proofs.Settings.Finding`: which file holds the settings

Three places are looked at, and the first that counts is taken. The file of
settings beside the sources and the one in the home count if they are there.
A project file is judged by what it holds (`Verdict`, `verdict_projectCounts`): it is
passed over if it is no configuration or its tools do not mention the table
for settings, it counts if they do, and it is an error in four cases: if it
is no UTF-8, if a number in it is too long, if it nests too deep, and if its
tools are a value without items, in which nothing can be mentioned.
-/

set_option autoImplicit false

namespace DocScribe

/-- A text occurs in another where it is a part of it. The empty text occurs
everywhere. -/
theorem Text.occursIn_iff {needle t : Text} : Text.occursIn needle t = true ↔ needle <:+: t := by
  induction t with
  | nil => rw [Text.occursIn, List.isEmpty_iff, List.infix_nil]
  | cons c rest ih =>
      rw [Text.occursIn, Bool.or_eq_true, List.isPrefixOf_iff_prefix, ih, List.infix_cons_iff]

namespace Settings

variable {ws : Workspace} {path : Path} {fault : Fault}

/-! ### What is mentioned -/

/-- The table for settings is a key, an item, or a part of a text. -/
inductive Mentions : Toml → Prop
  | table {members : Toml.Members} {value : Toml} : (tableName, value) ∈ members →
      Mentions (.table members)
  | list {items : List Toml} : .text tableName ∈ items → Mentions (.list items)
  | text {t : Text} : tableName <:+: t → Mentions (.text t)

/-- A value that mentions the tool holds other values. -/
theorem Mentions.isScalar_eq {value : Toml} (h : Mentions value) : value.isScalar = false := by
  cases h <;> rfl

/-- A scalar cannot be searched, and the fault says of which type it is.
Texts, lists and tables are no scalars in this sense. -/
theorem mentions_of_isScalar {value : Toml} (h : value.isScalar = true) :
    mentions value = .error (.notSearchable value.typeName) := by
  cases value with
  | text t => exact absurd h Bool.false_ne_true
  | list items => exact absurd h Bool.false_ne_true
  | table members => exact absurd h Bool.false_ne_true
  | _ => rfl

/-- What has items is searched, and the name is found exactly if it is one
of the items. For a table these are its keys, and for a text its parts. -/
theorem exists_mentions {value : Toml} (h : value.isScalar = false) :
    ∃ found, mentions value = .ok found ∧ (found = true ↔ Mentions value) := by
  cases value with
  | table members =>
      refine ⟨_, rfl, ?_⟩
      rw [Toml.Members.has, List.any_eq_true]
      constructor
      · rintro ⟨⟨key, value⟩, hmem, hkey⟩
        obtain rfl : key = tableName := beq_iff_eq.mp hkey
        exact .table hmem
      · intro h
        cases h with
        | table hmem => exact ⟨_, hmem, beq_self_eq_true _⟩
  | list items =>
      refine ⟨_, rfl, ?_⟩
      rw [List.any_eq_true]
      constructor
      · rintro ⟨item, hmem, hitem⟩
        cases item with
        | text t =>
            obtain rfl : t = tableName := beq_iff_eq.mp hitem
            exact .list hmem
        | _ => exact absurd hitem Bool.false_ne_true
      · intro h
        cases h with
        | list hmem => exact ⟨_, hmem, beq_self_eq_true tableName⟩
  | text t =>
      -- Of a text it is enough that the name stands somewhere in it.
      refine ⟨_, rfl, Text.occursIn_iff.trans ⟨.text, ?_⟩⟩
      intro h
      cases h with
      | text hinfix => exact hinfix
  | _ => exact absurd h.symm Bool.false_ne_true

/-! ### Project files -/

/-- The text that a file holds. -/
inductive HoldsText (ws : Workspace) (path : Path) (text : Text) : Prop
  | intro {bytes : List UInt8} : ws.readBytes path = .ok bytes → Utf8.decode bytes = .ok text →
      HoldsText ws path text

/-- What is wrong with a file whose text is no configuration. -/
def readFault (path : Path) : Toml.ReadError → Fault
  | .malformed => .malformed path.toText
  | .integerTooLong digits => .integerTooLong digits
  | .nestingTooDeep => .fileTooDeep

/-- A file that holds a text is read as the text is. What is wrong with the
text is told with the path of the file. -/
theorem HoldsText.readMembers_eq {text : Text} (h : HoldsText ws path text) :
    readMembers ws path = (Toml.read text).mapError (readFault path) := by
  obtain ⟨hbytes, hdecode⟩ := h
  simp only [readMembers, hbytes, hdecode, bind, Except.bind, Workspace.mapError_ok]
  cases Toml.read text with
  | ok members => rfl
  | error e => cases e <;> rfl

/-- A file that holds no text is not read. The fault is that of the decoder,
and it is no fault of TOML. -/
theorem readMembers_of_notUtf8 {bytes : List UInt8} {e : Utf8.DecodeError}
    (hbytes : ws.readBytes path = .ok bytes) (hdecode : Utf8.decode bytes = .error e) :
    readMembers ws path = .error (.file (.unreadable e)) := by
  simp only [readMembers, hbytes, hdecode, bind, Except.bind, Workspace.mapError_ok,
    Workspace.mapError_error]

/-- Whether a project file counts, or what is wrong with it. -/
inductive Verdict (ws : Workspace) (path : Path) : Except Fault Bool → Prop
  | notUtf8 {bytes : List UInt8} {e : Utf8.DecodeError} : ws.readBytes path = .ok bytes →
      Utf8.decode bytes = .error e → Verdict ws path (.error (.file (.unreadable e)))
  | numberTooLong {text : Text} {digits : Nat} : HoldsText ws path text →
      Toml.read text = .error (.integerTooLong digits) →
      Verdict ws path (.error (.integerTooLong digits))
  | nestsTooDeep {text : Text} : HoldsText ws path text →
      Toml.read text = .error .nestingTooDeep → Verdict ws path (.error .fileTooDeep)
  | malformed {text : Text} : HoldsText ws path text → Toml.read text = .error .malformed →
      Verdict ws path (.ok false)
  | scalar {members : Toml.Members} : readMembers ws path = .ok members →
      (toolsOf members).isScalar = true →
      Verdict ws path (.error (.notSearchable (toolsOf members).typeName))
  | unmentioned {members : Toml.Members} : readMembers ws path = .ok members →
      (toolsOf members).isScalar = false → ¬ Mentions (toolsOf members) →
      Verdict ws path (.ok false)
  | mentioned {members : Toml.Members} : readMembers ws path = .ok members →
      Mentions (toolsOf members) → Verdict ws path (.ok true)

/-- A project file counts if its tools mention this one. -/
theorem projectCounts_of_members {members : Toml.Members}
    (h : readMembers ws path = .ok members) :
    projectCounts ws path = mentions (toolsOf members) := by
  rw [projectCounts, h]

/-- A project file that can be read is judged by what it holds. The cases of
the verdict are all that there are: no text, no table, tools that cannot be
searched, and tools that do or do not mention this one. -/
theorem verdict_projectCounts {bytes : List UInt8} (hbytes : ws.readBytes path = .ok bytes) :
    Verdict ws path (projectCounts ws path) := by
  cases hdecode : Utf8.decode bytes with
  | error e =>
      rw [projectCounts, readMembers_of_notUtf8 hbytes hdecode]
      exact .notUtf8 hbytes hdecode
  | ok text =>
      have htext : HoldsText ws path text := ⟨hbytes, hdecode⟩
      have hread := htext.readMembers_eq
      match htoml : Toml.read text with
      | .error .malformed =>
          rw [projectCounts, hread, htoml]
          exact .malformed htext htoml
      | .error (.integerTooLong digits) =>
          rw [projectCounts, hread, htoml]
          exact .numberTooLong htext htoml
      | .error .nestingTooDeep =>
          rw [projectCounts, hread, htoml]
          exact .nestsTooDeep htext htoml
      | .ok members =>
          rw [htoml] at hread
          rw [projectCounts_of_members hread]
          cases hscalar : (toolsOf members).isScalar with
          | true =>
              rw [mentions_of_isScalar hscalar]
              exact .scalar hread hscalar
          | false =>
              obtain ⟨found, hfound, hiff⟩ := exists_mentions hscalar
              rw [hfound]
              cases found with
              | true => exact .mentioned hread (hiff.mp rfl)
              | false => exact .unmentioned hread hscalar fun h => Bool.false_ne_true (hiff.mpr h)

/-- There is one verdict on what a project file holds, and it is what the
check comes to. -/
theorem Verdict.projectCounts_eq {result : Except Fault Bool} (h : Verdict ws path result) :
    projectCounts ws path = result := by
  cases h with
  | notUtf8 hbytes hdecode => rw [projectCounts, readMembers_of_notUtf8 hbytes hdecode]
  | numberTooLong htext htoml =>
      rw [projectCounts, htext.readMembers_eq, htoml]
      rfl
  | nestsTooDeep htext htoml =>
      rw [projectCounts, htext.readMembers_eq, htoml]
      rfl
  | malformed htext htoml =>
      rw [projectCounts, htext.readMembers_eq, htoml]
      rfl
  | scalar hread hscalar => rw [projectCounts_of_members hread, mentions_of_isScalar hscalar]
  | @unmentioned members hread hscalar hnone =>
      obtain ⟨found, hfound, hiff⟩ := exists_mentions hscalar
      have hno : found = false := (Bool.not_eq_true _).mp fun h => hnone (hiff.mp h)
      rw [projectCounts_of_members hread, hfound, hno]
  | @mentioned members hread hmentions =>
      obtain ⟨found, hfound, hiff⟩ := exists_mentions hmentions.isScalar_eq
      rw [projectCounts_of_members hread, hfound, hiff.mpr hmentions]

/-! ### The search -/

/-- The file of settings beside the sources. -/
def ownPath (ws : Workspace) : Path := (⟨.root, ws.current⟩ : Path).join (Path.ofText fileName)

/-- The project file beside the sources. -/
def projectPath (ws : Workspace) : Path :=
  (⟨.root, ws.current⟩ : Path).join (Path.ofText projectFileName)

/-- The file of settings in a home. -/
def userPath (home : Path) : Path := home.join (Path.ofText ".config/apidocgen/config.toml")

/-- The file in the home of the user, which is looked for last. -/
def userFile (ws : Workspace) : Except Fault (Option Path) :=
  match ws.home with
  | .unset => .ok none
  | .unclear => .error .noHome
  | .folder home => (ws.isFile? (userPath home)).mapError .file >>= fun user =>
      .ok (if user then some (userPath home) else none)

/-- The places where a file of settings is looked for. -/
def places (ws : Workspace) : List Path :=
  [ownPath ws, projectPath ws] ++
    match ws.home with
    | .folder home => [userPath home]
    | _ => []

/-- The search, step by step: the own file, the project file if it counts,
and the file of the user. -/
theorem findFile_eq (ws : Workspace) :
    findFile ws = ((ws.isFile? (ownPath ws)).mapError .file >>= fun own =>
      if own then .ok (some (ownPath ws))
      else (ws.isFile? (projectPath ws)).mapError .file >>= fun project =>
        (if project then projectCounts ws (projectPath ws) else .ok false) >>= fun counts =>
          if counts then .ok (some (projectPath ws)) else userFile ws) := by
  rw [findFile]
  refine bind_congr fun own => ?_
  cases own with
  | true => rfl
  | false =>
      refine bind_congr fun project => ?_
      cases project <;> rfl

/-- A project file is asked if there is no other. If it does not count, the
search goes on in the home. -/
theorem findFile_of_project (hown : ws.isFile? (ownPath ws) = .ok false)
    (hproject : ws.isFile? (projectPath ws) = .ok true) :
    findFile ws = (projectCounts ws (projectPath ws) >>= fun counts =>
      if counts then .ok (some (projectPath ws)) else userFile ws) := by
  rw [findFile_eq, hown, hproject]
  rfl

/-- Where a file of settings is asked for, a name may be too long. All other
refusals count as there being no file. -/
theorem fault_of_isFile? (hplace : path ∈ places ws)
    (h : (ws.isFile? path).mapError .file = .error fault) :
    ∃ place ∈ places ws, fault = .file (.refused .nameTooLong place.toText)
      ∧ ws.find place = .error (.refused .nameTooLong place.toText) := by
  obtain ⟨e, hfile, rfl⟩ := Workspace.mapError_fault h
  obtain ⟨rfl, hfind⟩ := Workspace.isFile?_fault hfile
  exact ⟨path, hplace, rfl, hfind⟩

/-- The file of the user cannot be looked for only if a name on the way is
too long, or if there is no telling where the home of the user is. -/
theorem userFile_fault (h : userFile ws = .error fault) :
    (∃ place ∈ places ws, fault = .file (.refused .nameTooLong place.toText)
        ∧ ws.find place = .error (.refused .nameTooLong place.toText))
      ∨ fault = .noHome ∧ ws.home = .unclear := by
  rw [userFile] at h
  cases hhome : ws.home with
  | unset => exact nomatch hhome ▸ h
  | unclear =>
      rw [hhome] at h
      exact .inr ⟨(Except.error.inj h).symm, rfl⟩
  | folder home =>
      rw [hhome] at h
      rcases Workspace.bind_fault h with hfile | ⟨user, -, huser⟩
      · refine .inl (fault_of_isFile? ?_ hfile)
        rw [places, hhome]
        exact List.mem_append_right _ List.mem_cons_self
      · exact nomatch huser

/-- A search fails where a name is too long, where the home is unclear, or
where the project file is an error. -/
theorem findFile_fault (h : findFile ws = .error fault) :
    (∃ place ∈ places ws, fault = .file (.refused .nameTooLong place.toText)
        ∧ ws.find place = .error (.refused .nameTooLong place.toText))
      ∨ (fault = .noHome ∧ ws.home = .unclear)
      ∨ (ws.isFile? (ownPath ws) = .ok false ∧ ws.isFile? (projectPath ws) = .ok true
        ∧ Verdict ws (projectPath ws) (.error fault)) := by
  have hin : ownPath ws ∈ places ws ∧ projectPath ws ∈ places ws := by simp [places]
  rw [findFile_eq] at h
  rcases Workspace.bind_fault h with hfile | ⟨own, hown, hbehind⟩
  · exact .inl (fault_of_isFile? hin.1 hfile)
  cases own with
  | true => exact nomatch hbehind
  | false =>
      rcases Workspace.bind_fault hbehind with hfile | ⟨project, hproject, hjudged⟩
      · exact .inl (fault_of_isFile? hin.2 hfile)
      rcases Workspace.bind_fault hjudged with hcounts | ⟨counts, -, hlast⟩
      · cases project with
        | false => exact nomatch hcounts
        | true =>
            -- A project file that is there can be read, so its verdict decides.
            have hthere := Workspace.ok_of_mapError hproject
            obtain ⟨content, hfind⟩ := Workspace.exists_of_isFile? hthere
            refine .inr (.inr ⟨Workspace.ok_of_mapError hown, hthere, ?_⟩)
            rw [if_pos rfl] at hcounts
            exact hcounts ▸ verdict_projectCounts (Workspace.readBytes_of_find hfind)
      · cases counts with
        | true => exact nomatch hlast
        | false => exact (userFile_fault hlast).imp_right .inl

/-- What is found is a file: each of the three is looked for before it is
taken. -/
theorem isFile?_of_findFile (h : findFile ws = .ok (some path)) : ws.isFile? path = .ok true := by
  rw [findFile_eq] at h
  obtain ⟨own, hown, hbehind⟩ := Workspace.exists_of_bind h
  cases own with
  | true =>
      obtain rfl := Option.some.inj (Except.ok.inj hbehind)
      exact Workspace.ok_of_mapError hown
  | false =>
      obtain ⟨project, hproject, hjudged⟩ := Workspace.exists_of_bind hbehind
      obtain ⟨counts, hcounts, hlast⟩ := Workspace.exists_of_bind hjudged
      -- A project file that counts is there; behind it only the file of the user is left.
      cases counts with
      | true =>
          cases project with
          | false => exact nomatch hcounts
          | true =>
              obtain rfl := Option.some.inj (Except.ok.inj hlast)
              exact Workspace.ok_of_mapError hproject
      | false =>
          rw [if_neg Bool.false_ne_true, userFile] at hlast
          cases hhome : ws.home with
          | unset => exact nomatch hhome ▸ hlast
          | unclear => exact nomatch hhome ▸ hlast
          | folder home =>
              rw [hhome] at hlast
              obtain ⟨user, huser, hthere⟩ := Workspace.exists_of_bind hlast
              cases user with
              | false => exact nomatch hthere
              | true =>
                  obtain rfl := Option.some.inj (Except.ok.inj hthere)
                  exact Workspace.ok_of_mapError huser

end Settings

end DocScribe
