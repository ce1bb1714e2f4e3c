import DocScribe.Settings.Words.Manner
import DocScribe.Text.LetterCase
import DocScribe.Text.Quoted

/-!
# `DocScribe.Settings.Words.Reading`: what words say

Words are read from the first one on. One that begins with a sign is a
choice if a form has it, if a form has what stands in front of an equals
sign, or if a form has its first two letters; then the value, or another
choice of one letter, stands behind. What begins with a sign and is no
choice is no value either, unless it is a number or holds a space. Two
hyphens alone end all choices.

What is read is a list of settings in the order of the words, and the
words that say nothing.
-/

set_option autoImplicit false

namespace DocScribe.Settings.Words

/-- The word that ends all choices. -/
def endWord : Text := "--"

/-- What a setting is given in words. -/
inductive Given where
  | word (t : Text)
  | flag (b : Bool)
deriving DecidableEq, Repr

/-- What is found in words. -/
structure Found where
  /-- settings and what they are given, in their order -/
  given : List (Text × Given)
  /-- the words that say nothing -/
  unknown : List Text
deriving DecidableEq, Repr

/-- A choice that has been made: its form, how it is written, and its
value if it takes one. -/
structure Choice where
  form : Form
  written : Text
  value : Text
deriving DecidableEq, Repr

/-- What a word says by itself. -/
inductive Outcome where
  /-- choices, and a word made of what is left, if it says nothing -/
  | made (choices : List Choice) (left : Option Text)
  /-- choices, and one more that takes the next word -/
  | wanting (choices : List Choice) (form : Form) (written : Text)
deriving DecidableEq, Repr

/-- An outcome with one more choice in front. -/
def Outcome.behind (choice : Choice) : Outcome → Outcome
  | .made choices left => .made (choice :: choices) left
  | .wanting choices form written => .wanting (choice :: choices) form written

/-- What a word is in its place. -/
inductive Part where
  /-- a value, if one is wanted -/
  | plain
  /-- something like a choice that is none -/
  | unknown
  /-- a choice as it is written, and what stands behind it in the word,
  which may be behind an equals sign -/
  | choice (form : Form) (written : Text) (isJoined : Bool) (behind? : Option Text)

/-! ### One word -/

/-- A word in small letters, up to an equals sign or a blank, if it
begins with the signs. Of such a word only the first line counts. -/
def smallened (signs word : Text) : Text :=
  match Text.after? signs word with
  | none => word
  | some rest =>
    let isInside (c : CodePoint) : Bool := !c.isBlank && c != '='
    match rest.takeWhile isInside with
    | [] => word
    | name => (signs ++ name).toSmall
        ++ (rest.dropWhile isInside).takeWhile fun (c : CodePoint) => c != '\n'

/-- Whether a word is a negative number: a hyphen and digits of any
script, with a point in front of some of them or not. -/
def isNegativeNumber (word : Text) : Bool :=
  let areDigits (t : Text) : Bool := t.all fun c => c.decimal?.isSome
  match Text.after? "-" word with
  | none => false
  | some rest =>
    match Text.cutAt '.' rest with
    | (whole, none) => !whole.isEmpty && areDigits whole
    | (whole, some places) => areDigits whole && !places.isEmpty && areDigits places

/-- The choice in front of an equals sign. -/
def joinedPart? (manner : Manner) (word : Text) : Option Part :=
  match Text.cutAt '=' word with
  | (written, some value) =>
    (manner.formFor? written).map fun form => .choice form written true (some value)
  | _ => none

/-- The choice of one letter that a word begins with. -/
def letterPart? (manner : Manner) : Text → Option Part
  | sign :: letter :: behind =>
    if manner.signs.contains letter then none
    else
      (manner.formFor? [sign, letter]).map fun form =>
        .choice form [sign, letter] false (some behind)
  | _ => none

/-- What a word is in its place. -/
def partOf (manner : Manner) (word : Text) : Part :=
  if !(word.head?.any manner.signs.contains) then .plain
  else
    match manner.formFor? word with
    | some form => .choice form word false none
    | none =>
      if word.length = 1 then .plain
      else
        -- An equals sign comes first: behind a single letter it would be part of the value.
        match (joinedPart? manner word).or (letterPart? manner word) with
        | some part => part
        | none => if isNegativeNumber word || word.contains ' ' then .plain else .unknown

/-- Whether a word may be a value. -/
def isPlain (manner : Manner) (word : Text) : Bool :=
  match partOf manner word with
  | .plain => word != endWord
  | _ => false

/-! ### Choices -/

/-- A choice without anything behind it. -/
def alone (form : Form) (written : Text) : Outcome :=
  if form.takesValue then .wanting [] form written else .made [⟨form, written, []⟩] none

/-- A choice with something behind it in the same word: its value, or
choices of one letter each. -/
def followed (manner : Manner) (form : Form) (written : Text) (isJoined : Bool) :
    Text → Except Flaw Outcome
  | [] =>
    if form.takesValue then .ok (.made [⟨form, written, []⟩] none)
    else .error (.unreadable (ignored form []))
  | c :: rest =>
    if form.takesValue then .ok (.made [⟨form, written, c :: rest⟩] none)
    else if isJoined || manner.signs.contains c || (written.drop 1).head?.any manner.signs.contains
    then .error (.unreadable (ignored form (c :: rest)))
    else
      let word := written.take 1 ++ [c]
      match manner.formFor? word with
      -- The letters that are left say nothing, and are told of as a word of their own.
      | none => .ok (.made [⟨form, written, []⟩] (some (written.take 1 ++ c :: rest)))
      | some next =>
        match rest with
        | [] => .ok ((alone next word).behind ⟨form, written, []⟩)
        | d :: others =>
          (if d = '=' then followed manner next word true others
            else followed manner next word false (d :: others)).map
            (Outcome.behind ⟨form, written, []⟩)
where
  /-- What is said of a value that is not wanted. -/
  ignored (form : Form) (value : Text) : Text :=
    "argument " ++ form.listed ++ ": ignored explicit argument " ++ value.quoted

/-- The outcome of a choice. -/
def outcome (manner : Manner) (form : Form) (written : Text) (isJoined : Bool) :
    Option Text → Except Flaw Outcome
  | none => .ok (alone form written)
  | some behind => followed manner form written isJoined behind

/-- What choices give settings. One that asks for help ends the
run. -/
def givenBy : List Choice → Except Flaw (List (Text × Given))
  | [] => .ok []
  | choice :: choices =>
    match choice.form.use with
    | .help => .error (.stopped 0)
    | .value name => (givenBy choices).map ((name, .word choice.value) :: ·)
    | .flag name =>
      (givenBy choices).map
        ((name, .flag (Text.after? denial choice.written).isNone) :: ·)
    | .turn name value => (givenBy choices).map ((name, .flag value) :: ·)

/-- What is found with more in front. -/
def Found.behind (given : List (Text × Given)) (unknown : List Text) (found : Found) : Found :=
  ⟨given ++ found.given, unknown ++ found.unknown⟩

/-- What words say. -/
def read (manner : Manner) : List Text → Except Flaw Found
  | [] => .ok ⟨[], []⟩
  | word :: words =>
    -- No setting is read from a word that is no choice, so none is found behind the end.
    if word = endWord then .ok ⟨[], word :: words⟩
    else
      match partOf manner word with
      | .plain => (read manner words).map (Found.behind [] [word])
      | .unknown => (read manner words).map (Found.behind [] [word])
      | .choice form written isJoined behind? => do
        match ← outcome manner form written isJoined behind? with
        | .made choices left =>
          let given ← givenBy choices
          (read manner words).map (Found.behind given left.toList)
        | .wanting choices form written =>
          let missing := Flaw.unreadable ("argument " ++ form.listed ++ ": expected one argument")
          match words with
          | [] => throw missing
          | value :: others =>
            if isPlain manner value then do
              let given ← givenBy (choices ++ [⟨form, written, value⟩])
              (read manner others).map (Found.behind given [])
            else throw missing

/-- What words say where no word may say nothing. -/
def readAll (manner : Manner) (words : List Text) : Except Flaw Found := do
  let found ← read manner words
  if found.unknown.isEmpty then pure found
  else throw (.unreadable ("unrecognized arguments: " ++ Text.joinWith " " found.unknown))

example : smallened "-" "--MODEL=Big" = Text.ofString "--model=Big" := by decide +kernel
example : isNegativeNumber "-.5" = true := by decide +kernel
example : isNegativeNumber "-5." = false := by decide +kernel

end DocScribe.Settings.Words
