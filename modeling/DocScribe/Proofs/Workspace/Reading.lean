import DocScribe.Workspace.Basic

/-!
# `DocScribe.Proofs.Workspace.Reading`: why a file cannot be read

A path may be no path to anything (`pathFault_cases`). One that is can be
followed unless the file system refuses, and what it leads to can be read
unless it is a folder or no text (`readText_fault`).

Whether something is there is asked more leniently: all that is refused
counts as not there, but for names that are too long (`find?_eq_error_iff`).
-/

set_option autoImplicit false

namespace DocScribe.Workspace

variable {ws : Workspace} {path : Path} {fault : FileFault}

/-- A sequence of two steps fails at one of them: at the first, or at the
second with what the first has given. -/
theorem bind_fault {ε α β : Type} {fault : ε} {first : Except ε α} {next : α → Except ε β}
    (h : (first >>= next) = .error fault) :
    first = .error fault ∨ ∃ a, first = .ok a ∧ next a = .error fault := by
  cases first with
  | error fault' => exact .inl (congrArg Except.error (Except.error.inj h))
  | ok a => exact .inr ⟨a, rfl, h⟩

/-- Where errors are shown as others, an error is shown as another. -/
theorem mapError_error {ε ε' α : Type} (f : ε → ε') (e : ε) :
    (Except.error e : Except ε α).mapError f = .error (f e) := rfl

/-- Where errors are shown as others, a value is left alone. -/
theorem mapError_ok {ε ε' α : Type} (f : ε → ε') (a : α) :
    (Except.ok a : Except ε α).mapError f = .ok a := rfl

/-- A fault that is shown as another is one. So the faults of a step can be
told by those that it meets. -/
theorem mapError_fault {ε ε' α : Type} {f : ε → ε'} {result : Except ε α} {fault : ε'}
    (h : result.mapError f = .error fault) : ∃ e, result = .error e ∧ f e = fault := by
  cases result with
  | error e => exact ⟨e, rfl, Except.error.inj h⟩
  | ok a => exact nomatch h

/-- A sequence of two steps that comes to an end has taken both, the second
with what the first has given. -/
theorem exists_of_bind {ε α β : Type} {first : Except ε α} {next : α → Except ε β} {b : β}
    (h : (first >>= next) = .ok b) : ∃ a, first = .ok a ∧ next a = .ok b := by
  cases first with
  | error fault => exact nomatch h
  | ok a => exact ⟨a, rfl, h⟩

/-- Values are left alone when errors are shown as others. -/
theorem ok_of_mapError {ε ε' α : Type} {f : ε → ε'} {result : Except ε α} {a : α}
    (h : result.mapError f = .ok a) : result = .ok a := by
  cases result with
  | error e => exact nomatch h
  | ok a' => exact congrArg Except.ok (Except.ok.inj h)

/-! ### Following a path -/

/-- A text that is no path to anything cannot be read. -/
theorem readText_of_pathFault (h : pathFault? path.toText = some fault) :
    ws.readText path = .error fault := by
  have hfollow : ws.follow path = .error fault := by rw [follow, h]
  simp only [readText, readBytes, find, hfollow, bind, Except.bind]

/-- There are two reasons why a text is no path to anything: it holds a null
character, or it cannot be spelled in the bytes of the file system. -/
theorem pathFault_cases {t : Text} (h : pathFault? t = some fault) :
    fault = .nullCharacter ∨ ∃ e, fault = .unspellable e := by
  rw [pathFault?] at h
  split at h
  · next e _ => exact .inr ⟨e, (Option.some.inj h).symm⟩
  · split at h
    · exact .inl (Option.some.inj h).symm
    · exact nomatch h

/-- What is wrong with the text of a path is found before anything is looked
for, and it is no refusal. -/
theorem pathFault_ne_refused {t text : Text} {refusal : Refusal} :
    pathFault? t ≠ some (.refused refusal text) := by
  intro h
  rcases pathFault_cases h with hnull | ⟨e, hbytes⟩
  · exact nomatch hnull
  · exact nomatch hbytes

/-- A path that is one is followed unless the file system refuses it. The
other faults are those of texts that are no paths, and these are ruled
out. -/
theorem follow_refused (hpath : pathFault? path.toText = none)
    (h : ws.follow path = .error fault) : ∃ refusal, fault = .refused refusal path.toText := by
  rw [follow, hpath] at h
  dsimp only at h
  split at h
  · exact ⟨_, (Except.error.inj h).symm⟩
  · obtain ⟨refusal, -, heq⟩ := mapError_fault h
    exact ⟨refusal, heq.symm⟩

/-- A path that is one is looked for in vain only by a refusal: nothing may
be there. -/
theorem find_refused (hpath : pathFault? path.toText = none)
    (h : ws.find path = .error fault) : ∃ refusal, fault = .refused refusal path.toText := by
  rw [find] at h
  rcases bind_fault h with hfollow | ⟨place, -, hget⟩
  · exact follow_refused hpath hfollow
  · cases htree : ws.tree.get? place with
    | none =>
        rw [htree] at hget
        exact ⟨.missing, (Except.error.inj hget).symm⟩
    | some tree =>
        rw [htree] at hget
        exact nomatch hget

/-- What the file system refuses is the path as it was given, whatever part
of it was too long or not there. -/
theorem eq_toText_of_find {refusal : Refusal} {text : Text}
    (h : ws.find path = .error (.refused refusal text)) : text = path.toText := by
  cases hpath : pathFault? path.toText with
  | none =>
      obtain ⟨_, heq⟩ := find_refused hpath h
      exact (FileFault.refused.inj heq).2
  | some fault =>
      have hfind : ws.find path = .error fault := by
        have hfollow : ws.follow path = .error fault := by rw [follow, hpath]
        rw [find, hfollow]
        rfl
      obtain rfl := Except.error.inj (hfind.symm.trans h)
      exact absurd hpath pathFault_ne_refused

/-- What is too long on a way is a segment. Induction on the segments; a
folder, a parent and a missing entry are passed without such a fault. -/
theorem walk_tooLong {tree : Tree} {place segments : List Text}
    (h : walk tree place segments = .error .nameTooLong) :
    ∃ segment ∈ segments, nameLimit < FileName.size segment := by
  induction segments generalizing place with
  | nil => exact nomatch h
  | cons segment segments ih =>
      have hrest : ∀ place', walk tree place' segments = .error .nameTooLong →
          ∃ other ∈ segment :: segments, nameLimit < FileName.size other :=
        fun place' hwalk => (ih hwalk).imp fun _ hother =>
          ⟨List.mem_cons_of_mem _ hother.1, hother.2⟩
      rw [walk] at h
      split at h
      · exact nomatch h
      · exact nomatch h
      · split at h
        · exact hrest _ h
        · split at h
          · next hlong => exact ⟨segment, List.mem_cons_self, hlong⟩
          · split at h
            · exact hrest _ h
            · exact nomatch h

/-- What is too long on a way to something is the path or one of its names.
There are no other limits on length. -/
theorem tooLong_of_find {text : Text} (h : ws.find path = .error (.refused .nameTooLong text)) :
    pathLimit < FileName.size path.toText
      ∨ ∃ segment ∈ path.segments, nameLimit < FileName.size segment := by
  rw [find] at h
  rcases bind_fault h with hfollow | ⟨place, -, hget⟩
  · rw [follow] at hfollow
    split at hfollow
    · next fault hpath =>
      obtain rfl := Except.error.inj hfollow
      exact absurd hpath pathFault_ne_refused
    · split at hfollow
      · next hlong => exact .inl hlong
      · obtain ⟨refusal, hwalk, hrefusal⟩ := mapError_fault hfollow
        obtain rfl := (FileFault.refused.inj hrefusal).1
        exact .inr (walk_tooLong hwalk)
  · -- A way that was walked may lead nowhere, but that is another refusal.
    cases htree : ws.tree.get? place with
    | none =>
        rw [htree] at hget
        exact nomatch hget
    | some tree =>
        rw [htree] at hget
        exact nomatch hget

/-! ### Reading a file -/

/-- A path that is one is read in vain only by a refusal: what is there may
be a folder. -/
theorem readBytes_refused (hpath : pathFault? path.toText = none)
    (h : ws.readBytes path = .error fault) : ∃ refusal, fault = .refused refusal path.toText := by
  rw [readBytes] at h
  rcases bind_fault h with hfind | ⟨tree, -, htree⟩
  · exact find_refused hpath hfind
  · cases tree with
    | file content => exact nomatch htree
    | folder entries => exact ⟨.isFolder, (Except.error.inj htree).symm⟩

/-- A path that is one cannot be read where the file system refuses or
where the file is no text. -/
theorem readText_fault (hpath : pathFault? path.toText = none)
    (h : ws.readText path = .error fault) :
    fault.isRefusal = true ∨ ∃ e, fault = .unreadable e := by
  rw [readText] at h
  rcases bind_fault h with hbytes | ⟨bytes, -, hdecode⟩
  · obtain ⟨refusal, rfl⟩ := readBytes_refused hpath hbytes
    exact .inl rfl
  · rcases bind_fault hdecode with hdecode | ⟨text, -, htext⟩
    · obtain ⟨e, -, rfl⟩ := mapError_fault hdecode
      exact .inr ⟨e, rfl⟩
    · exact nomatch htext

/-- A file that is found is read. -/
theorem readBytes_of_find {content : List UInt8} (h : ws.find path = .ok (.file content)) :
    ws.readBytes path = .ok content := by
  rw [readBytes, h]
  rfl

/-- What is there can be read unless it is a folder. So the fault tells
which of the two it is, and nothing else can be meant by it. -/
theorem readBytes_fault_of_find {tree : Tree} (hfind : ws.find path = .ok tree)
    (h : ws.readBytes path = .error fault) :
    ws.isFolder? path = .ok true ∧ fault = .refused .isFolder path.toText := by
  cases tree with
  | file content => exact nomatch (readBytes_of_find hfind).symm.trans h
  | folder entries =>
      rw [readBytes, hfind] at h
      refine ⟨?_, (Except.error.inj h).symm⟩
      rw [isFolder?, find?, hfind]
      rfl

/-! ### Asking what is there -/

/-- A name that is too long is no answer to the question whether something
is there. All other refusals say that nothing is. -/
theorem find?_eq_error_iff :
    ws.find? path = .error fault
      ↔ fault = .refused .nameTooLong path.toText ∧ ws.find path = .error fault := by
  rw [find?]
  constructor
  · intro h
    split at h
    · exact nomatch h
    · next text hfind =>
        obtain rfl := Except.error.inj h
        exact ⟨by rw [eq_toText_of_find hfind], hfind⟩
    · exact nomatch h
  · rintro ⟨rfl, hfind⟩
    rw [hfind]

/-- So are the questions about what is there, which look no further than
what was found. -/
theorem fault_of_map_find? {f : Option Tree → Bool} (h : (ws.find? path).map f = .error fault) :
    fault = .refused .nameTooLong path.toText ∧ ws.find path = .error fault := by
  cases hfind : ws.find? path with
  | ok found => exact nomatch hfind ▸ h
  | error fault' =>
      rw [hfind] at h
      obtain rfl := Except.error.inj h
      exact find?_eq_error_iff.mp hfind

/-- To ask for a file does not fail where there is none: the only fault is a
name that is too long. -/
theorem isFile?_fault (h : ws.isFile? path = .error fault) :
    fault = .refused .nameTooLong path.toText ∧ ws.find path = .error fault :=
  fault_of_map_find? h

/-- The same of asking whether anything is there. -/
theorem exists?_fault (h : ws.exists? path = .error fault) :
    fault = .refused .nameTooLong path.toText ∧ ws.find path = .error fault :=
  fault_of_map_find? h

/-- What is found when asked for is found. To ask differs only in that
nothing may be there. -/
theorem find_of_find? {tree : Tree} (h : ws.find? path = .ok (some tree)) :
    ws.find path = .ok tree := by
  rw [find?] at h
  split at h
  · next found hfind => rw [hfind, Option.some.inj (Except.ok.inj h)]
  · exact nomatch h
  · exact nomatch h

/-- Where something is there, it can be found: to ask and to look follow the
same way. -/
theorem exists_of_exists? (h : ws.exists? path = .ok true) : ∃ tree, ws.find path = .ok tree := by
  rw [exists?] at h
  cases hfind : ws.find? path with
  | error fault => exact nomatch hfind ▸ h
  | ok found =>
      cases found with
      | none => exact nomatch hfind ▸ h
      | some tree => exact ⟨tree, find_of_find? hfind⟩

/-- Where a file is there, it has a content. A folder under that path, or
nothing, would have given another answer. -/
theorem exists_of_isFile? (h : ws.isFile? path = .ok true) :
    ∃ content, ws.find path = .ok (.file content) := by
  rw [isFile?] at h
  cases hfind : ws.find? path with
  | error fault => exact nomatch hfind ▸ h
  | ok found =>
      match found, hfind with
      | none, hfind => exact nomatch hfind ▸ h
      | some (.folder entries), hfind => exact nomatch hfind ▸ h
      | some (.file content), hfind => exact ⟨content, find_of_find? hfind⟩

end DocScribe.Workspace
