import DocScribe.Toml.Basic

/-!
# `DocScribe.Toml.Document`: tables built statement by statement

A document is built from headers and assignments. Keys may have parts,
which open tables on their way. What may be opened again and what may
not is kept in marks on key paths: a table that was declared cannot be
declared twice, one that was opened by the parts of a key cannot be
declared later, and what an assignment brought is closed with all that
is below it.
-/

set_option autoImplicit false

namespace DocScribe.Toml

/-- The parts of a key. -/
abbrev Key := List Text

/-- What a mark forbids: declaring a table, or any change below. -/
inductive MarkKind where
  | declared
  | closed
deriving DecidableEq, Repr

/-- A mark on a key path; a closed path closes all that is below. -/
structure Mark where
  kind : MarkKind
  path : Key
deriving DecidableEq

/-- The tables so far, the marks, the marks that count from the next
header on, and the table that assignments go to. -/
structure Document where
  members : Members
  marks : List Mark
  pending : List Mark
  header : Key

namespace Document

/-- A document without statements. -/
def empty : Document := ⟨[], [], [], []⟩

/-- Whether a mark of a kind lies on a path. -/
def isMarked (marks : List Mark) (kind : MarkKind) (path : Key) : Bool :=
  !path.isEmpty && marks.any fun mark =>
    mark.kind == kind && (mark.path == path || (kind == .closed && mark.path.isPrefixOf path))

/-- Change the table at a path, opening tables where there are none. A
list of tables stands for its last one, if lists are entered. -/
def change (entersLists : Bool) (f : Members → Option Members) : Key → Members → Option Members
  | [], members => f members
  | part :: path, members =>
    match members.get? part with
    -- A table that is missing is opened, empty but for what `f` brings.
    | none => (change entersLists f path []).map fun inner => members ++ [(part, .table inner)]
    | some (.table inner) =>
      (change entersLists f path inner).map fun inner => members.put part (.table inner)
    | some (.list items) =>
      if entersLists then
        match items.getLast? with
        | some (.table inner) =>
          (change entersLists f path inner).map fun inner =>
            members.put part (.list (items.dropLast ++ [.table inner]))
        | _ => none
      else none
    | some _ => none

/-- A new entry of a table. -/
def addEntry (part : Text) (value : Toml) (members : Members) : Option Members :=
  if members.has part then none else some (members ++ [(part, value)])

/-- One more table of a list of tables. -/
def addTable (part : Text) (members : Members) : Option Members :=
  match members.get? part with
  | none => some (members ++ [(part, .list [.table []])])
  | some (.list items) => some (members.put part (.list (items ++ [.table []])))
  | some _ => none

/-- The parts of a key but the last one. -/
def parent (key : Key) : Key := key.dropLast

/-- The last part of a key. -/
def stem (key : Key) : Text := key.getLastD []

/-- Whether a value closes what is below its key. -/
def isContainer : Toml → Bool
  | .list _ => true
  | .table _ => true
  | _ => false

/-- The proper beginnings of a key. -/
def beginnings (key : Key) : List Key :=
  (List.range key.length).tail.map fun n => key.take n

/-- The document before a header. -/
def settled (d : Document) : Document :=
  { d with marks := d.marks ++ d.pending, pending := [] }

/-- The header of a table. -/
def declare (d : Document) (key : Key) : Option Document :=
  let d := d.settled
  if isMarked d.marks .declared key || isMarked d.marks .closed key then none
  else
    (change true some key d.members).map fun members =>
      { d with members := members, marks := d.marks ++ [⟨.declared, key⟩], header := key }

/-- The header of one more table in a list of tables. What was marked
below it is free again. -/
def extend (d : Document) (key : Key) : Option Document :=
  let d := d.settled
  if isMarked d.marks .closed key then none
  else
    -- The table is a new one: what was declared in the one before can be declared in it again.
    let marks := d.marks.filter fun mark => !key.isPrefixOf mark.path
    (change true (addTable (stem key)) (parent key) d.members).map fun members =>
      { d with members := members, marks := marks ++ [⟨.declared, key⟩], header := key }

/-- An assignment. -/
def assign (d : Document) (key : Key) (value : Toml) : Option Document :=
  let whole := d.header ++ key
  let opened := (beginnings key).map fun path => d.header ++ path
  -- The parts of a key must not enter what a header declared. What they opened under this
  -- header is only pending, and may be entered again.
  if opened.any (isMarked d.marks .declared) then none
  else if isMarked d.marks .closed (parent whole) then none
  else
    (change true (addEntry (stem key) value) (parent whole) d.members).map fun members =>
      { d with
        members := members
        marks := if isContainer value then d.marks ++ [⟨.closed, whole⟩] else d.marks
        pending := d.pending ++ opened.map fun path => ⟨.declared, path⟩ }

end Document

/-- A table written in one line: its members and the marks on them. -/
structure InlineTable where
  members : Members
  marks : List Mark

namespace InlineTable

def empty : InlineTable := ⟨[], []⟩

/-- An assignment within a table of one line. -/
def assign (t : InlineTable) (key : Key) (value : Toml) : Option InlineTable :=
  if Document.isMarked t.marks .closed key then none
  else
    (Document.change false (Document.addEntry (Document.stem key) value) (Document.parent key)
      t.members).map fun members =>
        { members := members
          marks :=
            if Document.isContainer value then t.marks ++ [⟨.closed, key⟩] else t.marks }

end InlineTable

end DocScribe.Toml
