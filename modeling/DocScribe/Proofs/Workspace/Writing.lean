import DocScribe.Document.Publication

/-!
# `DocScribe.Proofs.Workspace.Writing`: what is written is there

A file that is put into a tree is found at its place, and whoever could
walk through the tree before can do so after it: folders stay folders
and keep their entries (`Tree.exists_get?_put`, `Workspace.walk_put`).
So a text that was written under a path is read back under that path,
byte for byte (`Workspace.readBytes_writeText`), and a document that was
published is the file that is named (`Document.readBytes_publish`).

The place of the file is the one that the path led to before. That the
path still leads there is what has to be said: it may pass the folder of
the file several times, up and down again.
-/

set_option autoImplicit false

namespace DocScribe

namespace Tree

/-! ### Entries -/

/-- An entry that was set is found. It takes the place of the entry with its
name, or the last place if there is none. -/
theorem lookup_setEntry_self (name : Text) (tree : Tree) (entries : List (Text × Tree)) :
    (setEntry name tree entries).lookup name = some tree := by
  induction entries with
  | nil => simp [setEntry]
  | cons entry entries ih =>
      rw [setEntry]
      split
      · simp
      · next hne =>
        have hother : (name == entry.1) = false := by simpa using Ne.symm hne
        rw [List.lookup_cons, hother]
        exact ih

/-- Entries under other names are as before. The one that is set takes a
place of its own name or the last one, so it hides none of them. -/
theorem lookup_setEntry_of_ne {name other : Text} (h : other ≠ name) (tree : Tree)
    (entries : List (Text × Tree)) :
    (setEntry name tree entries).lookup other = entries.lookup other := by
  induction entries with
  | nil => simp [setEntry, h]
  | cons entry entries ih =>
      rw [setEntry]
      split
      · next heq =>
        have hother : (other == name) = false := by simpa using h
        rw [List.lookup_cons, List.lookup_cons, heq, hother]
      · rw [List.lookup_cons, List.lookup_cons, ih]

/-- An entry that is there stays there. If it is the one that was set, it
has another content. -/
theorem isSome_lookup_setEntry {name other : Text} {tree : Tree} {entries : List (Text × Tree)}
    (h : (entries.lookup other).isSome = true) :
    ((setEntry name tree entries).lookup other).isSome = true := by
  by_cases heq : other = name
  · rw [heq, lookup_setEntry_self]
    rfl
  · rwa [lookup_setEntry_of_ne heq]

/-! ### Places -/

/-- A place below a place is found by looking for the one and then for the
other from there. -/
theorem get?_append (tree : Tree) (place rest : List Text) :
    tree.get? (place ++ rest) = (tree.get? place).bind fun below => below.get? rest := by
  induction place generalizing tree with
  | nil => rfl
  | cons name names ih =>
      cases tree with
      | file content => rfl
      | folder entries =>
          rw [List.cons_append, get?, get?]
          cases entries.lookup name with
          | none => rfl
          | some below => exact ih below

/-- What was put is found. The folders on the way are made if they are not
there yet. -/
theorem get?_put_self (tree new : Tree) (place : List Text) :
    (tree.put place new).get? place = some new := by
  induction place generalizing tree with
  | nil => rfl
  | cons name names ih =>
      rw [put, get?, lookup_setEntry_self]
      exact ih _

/-- A folder stays a folder and keeps its entries, unless something is put
in its own place. Induction on the place of the folder, beside that of
what is put. -/
theorem exists_get?_put {tree : Tree} {start place : List Text} {inside : List (Text × Tree)}
    (h : tree.get? start = some (.folder inside))
    (hplace : ∀ other, tree.get? place ≠ some (.folder other)) (new : Tree) :
    ∃ inside', (tree.put place new).get? start = some (.folder inside')
      ∧ ∀ name, (inside.lookup name).isSome = true → (inside'.lookup name).isSome = true := by
  induction start generalizing tree place with
  | nil =>
      obtain rfl := Option.some.inj h
      cases place with
      | nil => exact absurd rfl (hplace inside)
      | cons b names => exact ⟨_, rfl, fun name hname => isSome_lookup_setEntry hname⟩
  | cons a names ih =>
      cases tree with
      | file content => cases h
      | folder entries =>
          rw [get?] at h
          cases hentry : entries.lookup a with
          | none =>
              rw [hentry] at h
              cases h
          | some below =>
              rw [hentry] at h
              cases place with
              | nil => exact absurd rfl (hplace entries)
              | cons b names' =>
                  rw [put, get?]
                  by_cases hab : a = b
                  · -- Both lead into the same entry, and the folder lies below it.
                    subst hab
                    simp only [get?, hentry] at hplace
                    simp only [lookup_setEntry_self, Tree.entries, hentry, Option.getD_some]
                    exact ih h hplace
                  · -- The two ways part here.
                    simp only [lookup_setEntry_of_ne hab, Tree.entries, hentry]
                    exact ⟨inside, h, fun _ hname => hname⟩

end Tree

namespace Workspace

/-! ### Walking -/

/-- A way in two parts is walked part by part, the second from where the
first has led. -/
theorem walk_append (tree : Tree) (place first rest : List Text) :
    walk tree place (first ++ rest)
      = (walk tree place first).bind fun between => walk tree between rest := by
  induction first generalizing place with
  | nil => rfl
  | cons segment first ih =>
      rw [List.cons_append, walk, walk]
      split
      · rfl
      · rfl
      · split
        · exact ih _
        split
        · rfl
        split
        · exact ih _
        · rfl

/-- A way that could be walked can still be walked when a file is put
where there is no folder. -/
theorem walk_put {tree : Tree} {start place segments reached : List Text}
    (hplace : ∀ other, tree.get? place ≠ some (.folder other)) (content : List UInt8)
    (h : walk tree start segments = .ok reached) :
    walk (tree.put place (.file content)) start segments = .ok reached := by
  induction segments generalizing start with
  | nil => exact h
  | cons segment segments ih =>
      rw [walk] at h
      split at h
      · exact nomatch h
      · exact nomatch h
      next entries hfolder =>
      -- The folder that is walked through is still one, with the entries that it had.
      obtain ⟨entries', hfolder', hkept⟩ := Tree.exists_get?_put hfolder hplace (.file content)
      rw [walk, hfolder']
      dsimp only
      split at h
      · next hup =>
        rw [if_pos hup]
        exact ih h
      next hdown =>
      rw [if_neg hdown]
      split at h
      · exact nomatch h
      next hshort =>
      rw [if_neg hshort]
      split at h
      · next hthere =>
        rw [if_pos (hkept segment hthere)]
        exact ih h
      · exact nomatch h

/-! ### Texts in files -/

variable {ws ws' : Workspace} {path : Path} {place : List Text}

/-- The folder of a path: it can be followed up to there. -/
structure LeadsTo (ws : Workspace) (path : Path) (parent : List Text) : Prop where
  spelled : pathFault? path.toText = none
  short : ¬ pathLimit < FileName.size path.toText
  walked : walk ws.tree (ws.startOf path) path.segments.dropLast = .ok parent
  isFolder : ∃ entries, ws.tree.get? parent = some (.folder entries)

/-- To follow a path to its parent leads to the parent, and the last segment
is what is left. -/
theorem leadsTo_of_followParent {parent : List Text} {last : Option Text}
    (h : ws.followParent path = .ok (parent, last)) :
    ws.LeadsTo path parent ∧ last = path.segments.getLast? := by
  rw [followParent.eq_def] at h
  split at h
  · exact nomatch h
  next hspelled =>
  split at h
  · exact nomatch h
  next hshort =>
  split at h
  · exact nomatch h
  next place hwalk =>
  split at h
  · next entries hfolder =>
    obtain ⟨rfl, rfl⟩ := Prod.mk.inj (Except.ok.inj h)
    exact ⟨⟨hspelled, hshort, hwalk, entries, hfolder⟩, rfl⟩
  · exact nomatch h
  · exact nomatch h

/-- Where a path can be written, its last segment names a file in its
folder, or is free there. -/
theorem exists_of_writable (h : ws.writable path = .ok place) :
    ∃ parent name, ws.LeadsTo path parent ∧ path.segments.getLast? = some name
      ∧ place = parent ++ [name] ∧ name ≠ Text.ofString ".."
      ∧ ¬ nameLimit < FileName.size name
      ∧ ∀ entries, ws.tree.get? place ≠ some (.folder entries) := by
  rw [writable] at h
  cases hfollow : ws.followParent path with
  | error fault => exact nomatch hfollow ▸ h
  | ok found =>
      obtain ⟨parent, last⟩ := found
      obtain ⟨hleads, hlast⟩ := leadsTo_of_followParent hfollow
      simp only [hfollow, bind, Except.bind] at h
      cases last with
      | none => exact nomatch h
      | some name =>
          -- What is left once each refusal is ruled out.
          dsimp only at h
          split at h
          · exact nomatch h
          next hdown =>
          split at h
          · exact nomatch h
          next hshort =>
          split at h
          · exact nomatch h
          next hfree =>
          obtain rfl := Except.ok.inj h
          exact ⟨parent, name, hleads, hlast.symm, rfl, hdown, hshort, hfree⟩

/-- A path that can be written leads to the file that is put there. The
folders on the way stay what they are, and so does where the way leads. -/
theorem follow_putFile (h : ws.writable path = .ok place) (content : List UInt8) :
    (ws.putFile place content).follow path = .ok place := by
  obtain ⟨parent, name, ⟨hspelled, hshort, hwalk, hfolder⟩, hlast, rfl, hdown, hname, hfree⟩ :=
    exists_of_writable h
  obtain ⟨above, hsegments⟩ := List.getLast?_eq_some_iff.mp hlast
  rw [hsegments, List.dropLast_concat] at hwalk
  -- Up to the folder as before, and then to the entry that was put there.
  have habove := walk_put hfree content hwalk
  have hput : (ws.tree.put (parent ++ [name]) (.file content)).get? (parent ++ [name])
      = some (.file content) := Tree.get?_put_self _ _ _
  obtain ⟨entries, hentries⟩ := hfolder
  obtain ⟨entries', hfolder', -⟩ := Tree.exists_get?_put hentries hfree (.file content)
  have hentry : (entries'.lookup name).isSome = true := by
    rw [Tree.get?_append, hfolder', Option.bind_some, Tree.get?] at hput
    cases hlookup : entries'.lookup name with
    | none =>
        rw [hlookup] at hput
        cases hput
    | some below => rfl
  have hlastStep : walk (ws.tree.put (parent ++ [name]) (.file content)) parent [name]
      = .ok (parent ++ [name]) := by
    rw [walk, hfolder']
    simp only [hdown, if_false, hname, hentry, if_true, walk]
  rw [follow, hspelled]
  dsimp only
  rw [if_neg hshort]
  show (walk (ws.tree.put (parent ++ [name]) (.file content)) (ws.startOf path)
    path.segments).mapError _ = _
  rw [hsegments, walk_append, habove]
  show (walk _ parent [name]).mapError _ = _
  rw [hlastStep]
  rfl

/-- What is put into a file that can be written is read from it. The way to
it is the same for reading and for writing. -/
theorem readBytes_putFile (h : ws.writable path = .ok place) (content : List UInt8) :
    (ws.putFile place content).readBytes path = .ok content := by
  have hfound : (ws.putFile place content).tree.get? place = some (.file content) :=
    Tree.get?_put_self ws.tree (.file content) place
  simp only [readBytes, find, follow_putFile h, bind, Except.bind, hfound]
  rfl

/-- What was written is read back, byte for byte, if writing succeeds. If it
fails the file may still have changed, so nothing is said of that here. -/
theorem readBytes_writeText {content : Text} (h : ws.writeText path content = (ws', .ok ())) :
    ∃ bytes, Utf8.encode content = .ok bytes ∧ ws'.readBytes path = .ok bytes := by
  rw [writeText] at h
  split at h
  · exact nomatch (Prod.mk.inj h).2
  next place hplace =>
  split at h
  · next bytes hbytes =>
    obtain ⟨rfl, -⟩ := Prod.mk.inj h
    exact ⟨bytes, hbytes, readBytes_putFile hplace bytes⟩
  · exact nomatch (Prod.mk.inj h).2

end Workspace

namespace Document

/-- A document that was published is the file that is named: it holds the
bytes of the document, at the path that is reported. -/
theorem readBytes_publish {ws ws' : Workspace} {content formatName : Text} {folder path : Path}
    {logged : List Log.Entry}
    (h : publish ws content folder formatName false = (ws', logged, .ok path)) :
    path = target folder formatName
      ∧ ∃ bytes, Utf8.encode content = .ok bytes ∧ ws'.readBytes path = .ok bytes := by
  rw [publish, if_neg Bool.false_ne_true] at h
  split at h
  · exact nomatch (Prod.mk.inj (Prod.mk.inj h).2).2
  next written hwritten =>
  obtain ⟨rfl, hpath⟩ := Prod.mk.inj h
  obtain rfl := Except.ok.inj (Prod.mk.inj hpath).2
  rw [writeBelow] at hwritten
  split at hwritten
  · exact nomatch (Prod.mk.inj hwritten).2
  · exact ⟨rfl, Workspace.readBytes_writeText hwritten⟩

end Document

end DocScribe
