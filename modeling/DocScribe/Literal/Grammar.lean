import DocScribe.Literal.Tree

/-!
# `DocScribe.Literal.Grammar`: the order of tokens

The grammar of expressions, as data: every rule is a list of forms, of
which the first that fits counts, and a form is a sequence of parts.
Operators of one rank are a first operand and tails behind it.

Rules that end in `Mistake` find common mistakes. They never yield an
expression; where one fits it says what is wrong. A form that is such a
rule alone is looked at only when the text is read a second time, after
it has been refused.
-/

set_option autoImplicit false

namespace DocScribe.Literal

/-! ### Rules -/

inductive Rule where
  | whole | field | lineEnd
  | list | listTail | starredList | starredListTail | starredItem
  | namedItems | namedItem | assignment | named
  | value | unmarkedValue | valueMistake | statementMistake | nameBefore | namedMistake
  | displayBefore
  | either | eitherTail | both | bothTail | inverse | comparison | comparisonTail
  | bitOr | bitOrTail | bitXor | bitXorTail | bitAnd | bitAndTail | shift | shiftTail
  | sum | sumTail | product | productTail | factor | power | awaited | primary | primaryTail
  | atom | inParentheses | inBraces
  | tuple | tupleBody | group | groupBody | groupMistake | generator | generatorBody
  | table | entries | tableEntry | entry | entriesMistake | entryMistake
  | set | setCollection | tableCollection | collectionMistake | tableCollectionMistake
  | opening | openBrace
  | clauses | clause | clauseTest | clauseMistake
  | targets | targetTail | target | plainTarget | targetAtom | targetList | targetBase
  | targetBaseTail | targetGoesOn | unstarredTarget
  | arguments | argumentList | argument | plainArgument | laterNamed | namedArguments
  | starredOrNamed | namedOrDoubleStarred | starred | namedArgument
  | argumentsMistake | generatorOrList | nameEquals | namedArgumentMistake | fixedName
  | lambda | parameters | parameterList | slashRequired | slashDefaulted | starParameters
  | starParametersMistake | tableParameter | tableParameterMistake | requiredParameter
  | defaultedParameter | anyParameter | parameter | default | defaultMistake
  | parametersMistake | defaultsBefore | slashBefore | commaOrRequired | starOrSlash
  | yielded
deriving DecidableEq, Repr, Hashable

/-- A part of a form. -/
inductive Part where
  | rule (r : Rule)
  /-- a sign or a reserved word -/
  | sign (t : Text)
  | name
  | number
  /-- quotations side by side -/
  | quotations
  /-- a quotation, whatever it holds -/
  | anyQuotation
  /-- a name that is a reserved word in other places -/
  | softWord
  | lineEnd
  | endMark
  | optional (r : Rule)
  | optionalSign (t : Text)
  | many (r : Rule)
  | some (r : Rule)
  /-- one or more, with commas between them -/
  | listed (r : Rule)
  | ahead (r : Rule)
  | notAhead (r : Rule)
  | signAhead (t : Text)
  | noSignAhead (signs : List Text)
  /-- behind this no other form is tried -/
  | cut

/-- What a form amounts to. -/
inductive Outcome where
  | found (t : Tree)
  /-- the rule does not fit after all -/
  | refused
  | mistaken (d : Disorder)

/-- A form: its parts, and what they amount to, given how many brackets
are open behind them and their trees. -/
structure Form where
  parts : List Part
  outcome : Nat → List Tree → Outcome

namespace Form

/-- The parts amount to a tree. -/
def build (parts : List Part) (tree : List Tree → Tree) : Form :=
  ⟨parts, fun _ trees => .found (tree trees)⟩

/-- The parts amount to the first of them. -/
def first (parts : List Part) : Form :=
  build parts fun trees => trees.headD .nothing

/-- The parts amount to a fixed tree. -/
def as (parts : List Part) (tree : Tree) : Form :=
  build parts fun _ => tree

/-- The parts are a mistake. -/
def mistake (parts : List Part) (d : Disorder) : Form :=
  ⟨parts, fun _ _ => .mistaken d⟩

/-- The parts may be a mistake. -/
def check (parts : List Part) (disorder? : Nat → List Tree → Option Disorder) : Form :=
  ⟨parts, fun depth trees =>
    match disorder? depth trees with
    | .some d => .mistaken d
    | .none => .refused⟩

/-- The rule alone. -/
def only (r : Rule) : Form := first [.rule r]

end Form

open Form

/-! ### Trees -/

/-- The trees of all parts in a row. -/
def row (trees : List Tree) : Tree :=
  .several (trees.flatMap Tree.items)

/-- A first operand and its tails make an operation, if there are
tails. -/
def operation (trees : List Tree) : Tree :=
  match trees with
  | [first] => first
  | [first, .several []] => first
  | _ => .other .operation

/-- A first summand and the later ones. -/
def sumOf (trees : List Tree) : Tree :=
  match trees with
  | first :: tails =>
    (row tails).items.foldl (fun left tail =>
      match tail with
      | .signed isMinus right => .sum isMinus left right
      | _ => left) first
  | [] => .nothing

/-- A first value and what is done with it. -/
def primaryOf (trees : List Tree) : Tree :=
  match trees with
  | first :: tails =>
    (row tails).items.foldl (fun before tail =>
      match tail with
      | .call _ arguments => .call before arguments
      | tail => tail) first
  | [] => .nothing

/-- A comparison with its first tail. -/
def comparisonOf (trees : List Tree) : Tree :=
  match trees with
  | left :: tails =>
    match (row tails).items with
    | .comparison isMembership _ :: _ => .comparison isMembership left
    | _ => .comparison false left
  | [] => .nothing

/-! ### Mistakes -/

/-- Two values side by side, within brackets. -/
def besides (depth : Nat) (trees : List Tree) : Option Disorder :=
  if (trees.headD .nothing).statement?.isSome || depth == 0 then .none else .some .missingComma

/-- A statement of old. -/
def oldStatement (_ : Nat) (trees : List Tree) : Option Disorder :=
  ((trees.headD .nothing).statement?).map .statement

/-- The word of the first tree, in a report. -/
def about (d : Text → Disorder) (_ : Nat) (trees : List Tree) : Option Disorder :=
  .some (d (trees.headD .nothing).word)

def unassignable (_ : Nat) (trees : List Tree) : Option Disorder :=
  ((trees.headD .nothing).firstUnassignable?).map fun t => .notAssignable t.word

/-- Arguments in front of a generator; a single one is its element. -/
def bareGenerator (_ : Nat) (trees : List Tree) : Option Disorder :=
  let isPlain : Tree → Bool
    | .named => false
    | .doubleStarred => false
    | _ => true
  if (((trees.headD .nothing).items).filter isPlain).length ≤ 1 then .none
  else .some .bareGenerator

/-- Arguments behind named ones. -/
def plainBehind (_ : Nat) (trees : List Tree) : Option Disorder :=
  let isTable : Tree → Bool
    | .doubleStarred => true
    | _ => false
  .some (if ((trees.headD .nothing).items).any isTable then .plainBehindTable
    else .plainBehindNamed)

/-! ### The forms of every rule -/

/-- Operands of one rank with tails. -/
def ranked (operand tail : Rule) : List Form :=
  [build [.rule operand, .many tail] operation]

/-- Tails: a sign and an operand. -/
def tails (signs : List Text) (operand : Rule) : List Form :=
  signs.map fun sign => first [.sign sign, .rule operand]

/-- Expressions from the outside to the ranks of operators. -/
def outerRules : Rule → List Form
  | .whole => [first [.rule .list, .many .lineEnd, .endMark]]
  | .field => [only .starredList]
  | .lineEnd => [as [.lineEnd] .nothing]
  | .list =>
    [build [.rule .value, .some .listTail, .optionalSign ","] fun trees => .tuple (row trees).items,
      build [.rule .value, .sign ","] .tuple, only .value]
  | .listTail => [first [.sign ",", .rule .value]]
  | .starredList =>
    [build [.rule .starredItem, .some .starredListTail, .optionalSign ","] fun trees =>
        .tuple (row trees).items,
      build [.rule .starredItem, .sign ","] .tuple, only .starredItem]
  | .starredListTail => [first [.sign ",", .rule .starredItem]]
  | .starredItem =>
    [build [.sign "*", .rule .bitOr] fun trees => .starred (trees.headD .nothing), only .value]
  | .namedItems => [build [.listed .namedItem, .optionalSign ","] row]
  | .namedItem =>
    [build [.sign "*", .rule .bitOr] fun trees => .starred (trees.headD .nothing), only .named]
  | .assignment => [as [.name, .sign ":=", .cut, .rule .value] (.other .assignment)]
  | .named => [only .assignment, only .namedMistake, first [.rule .value, .noSignAhead [":="]]]
  | .value =>
    [only .valueMistake, only .statementMistake,
      as [.rule .either, .sign "if", .rule .either, .sign "else", .rule .value]
        (.other .conditional),
      only .either, only .lambda]
  | .unmarkedValue =>
    [as [.rule .either, .sign "if", .rule .either, .sign "else", .rule .value]
        (.other .conditional),
      only .either, only .lambda]
  | .valueMistake =>
    [check [.notAhead .nameBefore, .rule .either, .rule .unmarkedValue] besides,
      mistake [.rule .either, .sign "if", .rule .either, .noSignAhead ["else", ":"]] .missingElse]
  | .nameBefore => [as [.name, .anyQuotation] .nothing, as [.softWord] .nothing]
  | .statementMistake => [check [.name, .noSignAhead ["("], .rule .starredList] oldStatement]
  | .namedMistake =>
    [check [.rule .value, .sign ":=", .rule .value] (about .notNameable),
      mistake [.name, .sign "=", .rule .bitOr, .noSignAhead ["=", ":="]] .singleEquals,
      check [.notAhead .displayBefore, .rule .bitOr, .sign "=", .rule .bitOr,
        .noSignAhead ["=", ":="]] (about .notAssignableHere)]
  | .displayBefore =>
    [only .tuple, only .generator, as [.sign "True"] .nothing, as [.sign "None"] .nothing,
      as [.sign "False"] .nothing]
  | .yielded =>
    [as [.sign "yield", .sign "from", .rule .value] (.other .yielding),
      as [.sign "yield", .optional .starredList] (.other .yielding)]
  | _ => []

/-- The ranks of operators. -/
def operatorRules : Rule → List Form
  | .either =>
    [as [.rule .both, .some .eitherTail] (.other .operation), only .both]
  | .eitherTail => tails ["or"] .both
  | .both => [as [.rule .inverse, .some .bothTail] (.other .operation), only .inverse]
  | .bothTail => tails ["and"] .inverse
  | .inverse => [as [.sign "not", .rule .inverse] (.other .operation), only .comparison]
  | .comparison => [build [.rule .bitOr, .some .comparisonTail] comparisonOf, only .bitOr]
  | .comparisonTail =>
    let tail (isMembership : Bool) (signs : List Text) :=
      as (signs.map Part.sign ++ [.rule .bitOr]) (.comparison isMembership .nothing)
    [tail false ["=="], tail false ["!="], tail false ["<="], tail false ["<"],
      tail false [">="], tail false [">"], tail false ["not", "in"], tail true ["in"],
      tail false ["is", "not"], tail false ["is"]]
  | .bitOr => ranked .bitXor .bitOrTail
  | .bitOrTail => tails ["|"] .bitXor
  | .bitXor => ranked .bitAnd .bitXorTail
  | .bitXorTail => tails ["^"] .bitAnd
  | .bitAnd => ranked .shift .bitAndTail
  | .bitAndTail => tails ["&"] .shift
  | .shift => ranked .sum .shiftTail
  | .shiftTail => tails ["<<", ">>"] .sum
  | .sum => [build [.rule .product, .many .sumTail] sumOf]
  | .sumTail =>
    [build [.sign "+", .rule .product] fun trees => .signed false (trees.headD .nothing),
      build [.sign "-", .rule .product] fun trees => .signed true (trees.headD .nothing)]
  | .product => ranked .factor .productTail
  | .productTail => tails ["*", "/", "//", "%", "@"] .factor
  | .factor =>
    [build [.sign "+", .rule .factor] fun trees => .signed false (trees.headD .nothing),
      build [.sign "-", .rule .factor] fun trees => .signed true (trees.headD .nothing),
      as [.sign "~", .rule .factor] (.other .operation), only .power]
  | .power => [as [.rule .awaited, .sign "**", .rule .factor] (.other .operation), only .awaited]
  | .awaited => [as [.sign "await", .rule .primary] (.other .waiting), only .primary]
  | .primary => [build [.rule .atom, .many .primaryTail] primaryOf]
  | .primaryTail =>
    [as [.sign ".", .name] (.other .attribute), build [.rule .generator] (.call .nothing),
      build [.sign "(", .optional .arguments, .sign ")"] fun trees =>
        .call .nothing (row trees).items]
  | _ => []

/-- Values that hold others in brackets, and what may repeat in them. -/
def displayRules : Rule → List Form
  | .atom =>
    [first [.name], as [.sign "True"] (.atom .true), as [.sign "False"] (.atom .false),
      as [.sign "None"] (.atom .none), first [.quotations], first [.number],
      first [.signAhead "(", .rule .inParentheses], first [.signAhead "\x7b", .rule .inBraces],
      as [.sign "..."] (.atom .ellipsis)]
  | .inParentheses => [only .tuple, only .group, only .generator]
  | .inBraces => [only .table, only .set, only .tableCollection, only .setCollection]
  | .tuple =>
    [build [.sign "(", .optional .tupleBody, .sign ")"] fun trees => .tuple (row trees).items]
  | .tupleBody => [build [.rule .namedItem, .sign ",", .optional .namedItems] row]
  | .group => [first [.sign "(", .rule .groupBody, .sign ")"], only .groupMistake]
  | .groupBody => [only .yielded, only .named]
  | .groupMistake =>
    [mistake [.sign "(", .rule .starred, .sign ")"] .starred,
      mistake [.sign "(", .sign "**", .rule .value, .sign ")"] .doubleStarred]
  | .generator =>
    [as [.sign "(", .rule .generatorBody, .rule .clauses, .sign ")"] (.other .generator),
      only .collectionMistake]
  | .generatorBody => [only .assignment, first [.rule .value, .noSignAhead [":="]]]
  | .table =>
    [build [.sign "\x7b", .optional .entries, .sign "\x7d"] fun trees => .table (row trees).items,
      as [.sign "\x7b", .rule .entriesMistake, .sign "\x7d"] .nothing]
  | .entries => [build [.listed .tableEntry, .optionalSign ","] row]
  | .tableEntry => [as [.sign "**", .rule .bitOr] .doubleStarred, only .entry]
  | .entry =>
    [build [.rule .value, .sign ":", .rule .value] fun trees =>
      .entry (trees.headD .nothing) ((trees.drop 1).headD .nothing)]
  | .entriesMistake =>
    [as [.listed .tableEntry, .sign ",", .rule .entryMistake] .nothing,
      mistake [.rule .value, .sign ":", .sign "*", .rule .bitOr] .starredValue,
      mistake [.rule .value, .sign ":", .signAhead "\x7d"] .missingValue,
      mistake [.rule .value, .sign ":", .signAhead ","] .missingValue]
  | .entryMistake =>
    [mistake [.rule .value, .noSignAhead [":"]] .missingColon,
      mistake [.rule .value, .sign ":", .sign "*", .rule .bitOr] .starredValue,
      mistake [.rule .value, .sign ":", .signAhead "\x7d"] .missingValue,
      mistake [.rule .value, .sign ":", .signAhead ","] .missingValue]
  | .set =>
    [build [.sign "\x7b", .rule .namedItems, .sign "\x7d"] fun trees => .set (row trees).items]
  | .setCollection =>
    [as [.sign "\x7b", .rule .named, .rule .clauses, .sign "\x7d"] (.other .setCollection),
      only .collectionMistake]
  | .tableCollection =>
    [as [.sign "\x7b", .rule .entry, .rule .clauses, .sign "\x7d"] (.other .tableCollection),
      only .tableCollectionMistake]
  | .opening => [as [.sign "("] .nothing, as [.sign "\x7b"] .nothing]
  | .openBrace => [as [.sign "\x7b"] .nothing]
  | .collectionMistake =>
    [mistake [.rule .opening, .rule .starred, .rule .clauses] .starredElement,
      mistake [.rule .openBrace, .rule .namedItem, .sign ",", .rule .namedItems, .rule .clauses]
        .bareTargets,
      mistake [.rule .openBrace, .rule .namedItem, .sign ",", .rule .clauses] .bareTargets]
  | .tableCollectionMistake =>
    [mistake [.sign "\x7b", .sign "**", .rule .bitOr, .rule .clauses, .sign "\x7d"]
      .doubleStarredElement]
  | _ => []

/-- Clauses that begin with `for`, and what they assign to. -/
def clauseRules : Rule → List Form
  | .clauses => [as [.some .clause] .nothing]
  | .clause =>
    [as [.sign "async", .sign "for", .rule .targets, .sign "in", .cut, .rule .either,
        .many .clauseTest] .nothing,
      as [.sign "for", .rule .targets, .sign "in", .cut, .rule .either, .many .clauseTest] .nothing,
      only .clauseMistake]
  | .clauseTest => [as [.sign "if", .rule .either] .nothing]
  | .clauseMistake =>
    [check [.optionalSign "async", .sign "for", .rule .starredList] unassignable]
  | .targets =>
    [as [.rule .target, .noSignAhead [","]] .nothing,
      as [.rule .target, .many .targetTail, .optionalSign ","] .nothing]
  | .targetTail => [as [.sign ",", .rule .target] .nothing]
  | .target => [as [.sign "*", .rule .unstarredTarget] .nothing, only .plainTarget]
  | .unstarredTarget => [first [.noSignAhead ["*"], .rule .target]]
  | .plainTarget =>
    [as [.rule .targetBase, .sign ".", .name, .notAhead .targetGoesOn] .nothing, only .targetAtom]
  | .targetAtom =>
    [as [.name] .nothing, as [.sign "(", .rule .plainTarget, .sign ")"] .nothing,
      as [.sign "(", .optional .targetList, .sign ")"] .nothing]
  | .targetList =>
    [as [.rule .target, .some .targetTail, .optionalSign ","] .nothing,
      as [.rule .target, .sign ","] .nothing]
  | .targetBase =>
    [as [.rule .atom, .ahead .targetGoesOn, .many .targetBaseTail] .nothing]
  | .targetBaseTail =>
    [as [.sign ".", .name, .ahead .targetGoesOn] .nothing,
      as [.rule .generator, .ahead .targetGoesOn] .nothing,
      as [.sign "(", .optional .arguments, .sign ")", .ahead .targetGoesOn] .nothing]
  | .targetGoesOn =>
    [as [.sign "("] .nothing, as [.sign "["] .nothing, as [.sign "."] .nothing]
  | _ => []

/-- Arguments of a call. -/
def argumentRules : Rule → List Form
  | .arguments =>
    [first [.rule .argumentList, .optionalSign ",", .signAhead ")"], only .argumentsMistake]
  | .argumentList =>
    [build [.listed .argument, .optional .laterNamed] row, only .namedArguments]
  | .argument => [only .starred, first [.rule .plainArgument, .noSignAhead ["="]]]
  | .plainArgument => [only .assignment, first [.rule .value, .noSignAhead [":="]]]
  | .laterNamed => [first [.sign ",", .rule .namedArguments]]
  | .namedArguments =>
    [build [.listed .starredOrNamed, .sign ",", .listed .namedOrDoubleStarred] row,
      build [.listed .starredOrNamed] row, build [.listed .namedOrDoubleStarred] row]
  | .starredOrNamed => [only .namedArgumentMistake, only .namedArgument, only .starred]
  | .namedOrDoubleStarred =>
    [only .namedArgumentMistake, only .namedArgument, as [.sign "**", .rule .value] .doubleStarred]
  | .namedArgument => [as [.name, .sign "=", .rule .value] .named]
  | .starred =>
    [build [.sign "*", .rule .value] fun trees => .starred (trees.headD .nothing),
      mistake [.sign "*"] .bareStar]
  | .argumentsMistake =>
    [mistake [.rule .argumentList, .sign ",", .sign "*"] .starredBehindTable,
      mistake [.rule .value, .rule .clauses, .sign ",", .optional .generatorOrList] .bareGenerator,
      mistake [.name, .sign "=", .rule .value, .rule .clauses] .singleEquals,
      check [.rule .argumentList, .rule .clauses] bareGenerator,
      mistake [.rule .argumentList, .sign ",", .rule .value, .rule .clauses] .bareGenerator,
      check [.rule .argumentList, .sign ",", .rule .argumentList] plainBehind]
  | .generatorOrList => [only .argumentList, as [.rule .value, .rule .clauses] .nothing]
  | .namedArgumentMistake =>
    [check [.rule .fixedName, .sign "="] (about .notAssignable),
      mistake [.name, .sign "=", .rule .value, .rule .clauses] .singleEquals,
      mistake [.notAhead .nameEquals, .rule .value, .sign "="] .assignedArgument]
  | .nameEquals => [as [.name, .sign "="] .nothing]
  | .fixedName => [as [.sign "True"] (.atom .true), as [.sign "False"] (.atom .false),
      as [.sign "None"] (.atom .none)]
  | _ => []

/-- Functions without a name. -/
def lambdaRules : Rule → List Form
  | .lambda =>
    [as [.sign "lambda", .optional .parameters, .sign ":", .rule .value] (.other .lambda)]
  | .parameters => [only .parametersMistake, only .parameterList]
  | .parameterList =>
    [as [.rule .slashRequired, .many .requiredParameter, .many .defaultedParameter,
        .optional .starParameters] .nothing,
      as [.rule .slashDefaulted, .many .defaultedParameter, .optional .starParameters] .nothing,
      as [.some .requiredParameter, .many .defaultedParameter, .optional .starParameters] .nothing,
      as [.some .defaultedParameter, .optional .starParameters] .nothing, only .starParameters]
  | .slashRequired =>
    [as [.some .requiredParameter, .sign "/", .sign ","] .nothing,
      as [.some .requiredParameter, .sign "/", .signAhead ":"] .nothing]
  | .slashDefaulted =>
    [as [.many .requiredParameter, .some .defaultedParameter, .sign "/", .sign ","] .nothing,
      as [.many .requiredParameter, .some .defaultedParameter, .sign "/", .signAhead ":"] .nothing]
  | .starParameters =>
    [only .starParametersMistake,
      as [.sign "*", .rule .requiredParameter, .many .anyParameter, .optional .tableParameter]
        .nothing,
      as [.sign "*", .sign ",", .some .anyParameter, .optional .tableParameter] .nothing,
      only .tableParameter]
  | .tableParameter =>
    [only .tableParameterMistake, as [.sign "**", .rule .requiredParameter] .nothing]
  | .requiredParameter =>
    [as [.rule .parameter, .sign ","] .nothing, as [.rule .parameter, .signAhead ":"] .nothing]
  | .defaultedParameter =>
    [as [.rule .parameter, .rule .default, .sign ","] .nothing,
      as [.rule .parameter, .rule .default, .signAhead ":"] .nothing]
  | .anyParameter =>
    [as [.rule .parameter, .optional .default, .sign ","] .nothing,
      as [.rule .parameter, .optional .default, .signAhead ":"] .nothing]
  | .parameter => [as [.name] .nothing]
  | .default => [as [.sign "=", .rule .value] .nothing, only .defaultMistake]
  | .defaultMistake =>
    [mistake [.sign "=", .signAhead ")"] .missingDefault,
      mistake [.sign "=", .signAhead ","] .missingDefault]
  | .parametersMistake =>
    [mistake [.many .requiredParameter, .rule .defaultsBefore, .rule .requiredParameter]
        .requiredBehindDefault,
      mistake [.many .requiredParameter, .sign "(", .listed .parameter, .optionalSign ",",
        .sign ")"] .parenthesizedParameters,
      mistake [.sign "/", .sign ","] .nothingBeforeSlash,
      mistake [.rule .slashBefore, .many .anyParameter, .sign "/"] .secondSlash,
      mistake [.optional .slashBefore, .many .anyParameter, .sign "*", .rule .commaOrRequired,
        .many .anyParameter, .sign "/"] .slashBehindStar,
      mistake [.some .anyParameter, .sign "/", .sign "*"] .slashBeforeStar]
  | .defaultsBefore => [only .slashDefaulted, as [.some .defaultedParameter] .nothing]
  | .slashBefore => [only .slashRequired, only .slashDefaulted]
  | .commaOrRequired => [as [.sign ","] .nothing, only .requiredParameter]
  | .starParametersMistake =>
    [mistake [.sign "*", .sign ":"] .bareStarParameter,
      mistake [.sign "*", .sign ",", .sign ":"] .bareStarParameter,
      mistake [.sign "*", .sign ",", .sign "**"] .bareStarParameter,
      mistake [.sign "*", .rule .parameter, .sign "="] .defaultOfStar,
      mistake [.sign "*", .rule .commaOrRequired, .many .anyParameter, .sign "*",
        .rule .commaOrRequired] .secondStar]
  | .tableParameterMistake =>
    [mistake [.sign "**", .rule .parameter, .sign "="] .defaultOfTable,
      mistake [.sign "**", .rule .parameter, .sign ",", .rule .parameter] .behindTable,
      mistake [.sign "**", .rule .parameter, .sign ",", .rule .starOrSlash] .behindTable]
  | .starOrSlash => [as [.sign "*"] .nothing, as [.sign "**"] .nothing, as [.sign "/"] .nothing]
  | _ => []

/-- The forms of a rule, which one of the groups has. -/
def forms (r : Rule) : List Form :=
  outerRules r ++ operatorRules r ++ displayRules r ++ clauseRules r ++ argumentRules r
    ++ lambdaRules r

/-- The rules that find mistakes and nothing else. -/
def findsMistakes : Rule → Bool
  | .valueMistake | .statementMistake | .namedMistake | .groupMistake | .collectionMistake
  | .tableCollectionMistake | .clauseMistake | .argumentsMistake | .namedArgumentMistake
  | .parametersMistake | .starParametersMistake | .tableParameterMistake
  | .defaultMistake => true
  | _ => false

/-- The rules that what they have come to is remembered for. Every
bracket leads back to them, so that no text is read too often. -/
def isRemembered : Rule → Bool
  | .value | .starredItem | .namedMistake | .either | .both | .inverse | .bitOr | .bitXor
  | .bitAnd | .shift | .sum | .product | .factor | .awaited | .primary | .arguments | .target
  | .plainTarget | .targetBase => true
  | _ => false

/-- Whether a form is looked at only the second time. -/
def Form.isForMistakes (f : Form) : Bool :=
  match f.parts with
  | [.rule r] => findsMistakes r
  | _ => false

end DocScribe.Literal
