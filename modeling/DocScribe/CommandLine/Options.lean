import DocScribe.CommandLine.Usage

/-!
# `DocScribe.CommandLine.Options`: words of a command line

The words of a command line are options, values of options, and
operands. A long option starts with two dashes and may carry its value
behind an equals sign; short options of one letter may share a dash,
and the last of them may carry its value in the same word. An option
that takes a value and carries none takes the next word, whatever that
looks like. Behind a word of two dashes everything is an operand.

Some command lines end at their first operand, which names a command;
its words follow. In others options and operands may be mixed.
-/

set_option autoImplicit false

namespace DocScribe.CommandLine

/-- What is given to an option: a value, or the state of a flag. -/
inductive Given where
  | value (content : Text)
  | flag (state : Bool)
deriving DecidableEq

/-- What an option does with the words behind it: it takes a value, or
it sets a flag and takes none. -/
inductive Effect where
  | takesValue
  | sets (state : Bool)
deriving DecidableEq

/-- One way to write an option. -/
structure Spelling (κ : Type) where
  word : Text
  key : κ
  effect : Effect

/-- The ways to write all options of a command. -/
abbrev OptionTable (κ : Type) := List (Spelling κ)

/-- What a command line says: what is given to which option, word by
word, and the operands. -/
structure Words (κ : Type) where
  given : List (κ × Given)
  operands : List Text

namespace OptionTable

variable {κ : Type}

/-- The option that a word writes. -/
def find? (table : OptionTable κ) (word : Text) : Option (Spelling κ) :=
  List.find? (fun spelling => spelling.word == word) table

end OptionTable

/-- What the word of an option comes to: what it gives, and the option
that the next word is the value of, under the name it was written
with. -/
structure OptionWord (κ : Type) where
  given : List (κ × Given)
  open? : Option (κ × Text)

section Reading

variable {κ : Type}

/-- Short options that share a dash. -/
def readShort (table : OptionTable κ) : Text → Except UsageError (OptionWord κ)
  | [] => .ok ⟨[], none⟩
  | letter :: rest =>
    let name : Text := ['-', letter]
    match table.find? name with
    | none => .error (.noSuchOption name)
    -- The rest of the word is the value, even if it looks like further options.
    | some ⟨_, key, .takesValue⟩ =>
      .ok (if rest.isEmpty then ⟨[], some (key, name)⟩ else ⟨[(key, .value rest)], none⟩)
    | some ⟨_, key, .sets state⟩ =>
      (readShort table rest).map fun word => { word with given := (key, .flag state) :: word.given }

/-- A long option, with the value that it carries. -/
def readLong (table : OptionTable κ) (name : Text) (carried : Option Text) :
    Except UsageError (OptionWord κ) :=
  match table.find? name, carried with
  | none, _ => .error (.noSuchOption name)
  | some ⟨_, key, .takesValue⟩, some value => .ok ⟨[(key, .value value)], none⟩
  | some ⟨_, key, .takesValue⟩, none => .ok ⟨[], some (key, name)⟩
  | some ⟨_, _, .sets _⟩, some _ => .error (.takesNoValue name)
  | some ⟨_, key, .sets state⟩, none => .ok ⟨[(key, .flag state)], none⟩

/-- The word that makes operands of all words behind it. -/
def separator : Text := "--"

/-- Whether a word is an option: a dash and something behind it. -/
def looksLikeOption : Text → Bool
  | a :: _ :: _ => a == '-'
  | _ => false

/-- The word of an option. -/
def readOption (table : OptionTable κ) (word : Text) : Except UsageError (OptionWord κ) :=
  if separator.isPrefixOf word then
    let (name, carried) := Text.cutAt '=' word
    readLong table name carried
  else readShort table (word.drop 1)

/-- The words of a command line, from the first to the last. If
operands are not `mixed` with options the first of them ends the
options. -/
def readWords (table : OptionTable κ) (mixed : Bool) : List Text → Except UsageError (Words κ)
  | [] => .ok ⟨[], []⟩
  | word :: rest =>
    if word = separator then .ok ⟨[], rest⟩
    else if looksLikeOption word then
      match readOption table word with
      | .error e => .error e
      | .ok ⟨given, none⟩ =>
        (readWords table mixed rest).map fun ws => { ws with given := given ++ ws.given }
      -- The next word is taken as it is: it may be the separator or look like an option.
      | .ok ⟨given, some (key, name)⟩ =>
        match rest with
        | [] => .error (.needsValue name)
        | value :: rest' =>
          (readWords table mixed rest').map fun ws =>
            { ws with given := given ++ (key, .value value) :: ws.given }
    else if mixed then
      (readWords table mixed rest).map fun ws => { ws with operands := word :: ws.operands }
    else .ok ⟨[], word :: rest⟩

end Reading

namespace Words

variable {κ : Type} [DecidableEq κ]

/-- What is given last counts, and stands where the option was first
written. -/
def put (key : κ) (given : Given) : List (κ × Given) → List (κ × Given)
  | [] => [(key, given)]
  | entry :: entries =>
    if entry.1 = key then (key, given) :: entries else entry :: put key given entries

/-- Every option once, in the order in which they were first
written, with what it was given last. -/
def settled (ws : Words κ) : List (κ × Given) :=
  ws.given.foldl (fun entries entry => put entry.1 entry.2 entries) []

end Words

end DocScribe.CommandLine
