import DocScribe.Proofs.Document.Delimiters
import DocScribe.Proofs.Text.Joining
import DocScribe.Proofs.Text.Trimming

/-!
# `DocScribe.Proofs.Document.ReadingCode`: code is read back from Markdown

A reader of Markdown finds code by its delimiters alone: a block ends at
the first line that closes its fence (`readFenced`), code within a line at
the first run of backticks that is as long as the opening one
(`readSpan`). Whatever the code is, and whatever the document goes on
with, such a reader finds the end where the document has put it, and the
code in front of it (`code_read_back`).

Both readers are stated without the renderer. They are liberal about what
ends the code: a closing line may be indented and have blanks behind the
fence, and its fence may be longer than the opening one.
-/

set_option autoImplicit false

namespace DocScribe.Markdown

/-! ### Reading a fenced block -/

/-- Whether a line closes a fence of `n` backticks: nothing but a run that
is as long or longer, up to blanks. -/
def closes (n : Nat) (line : Text) : Bool :=
  line.trim.all (· == backtick) && n ≤ line.trim.length

/-- A fenced block at the front of a text: the label on its first line, the
lines up to the closing one, and the lines behind that. -/
structure Fenced where
  label : Text
  body : Text
  rest : Text
deriving DecidableEq

/-- The lines of a block up to the one that closes it. -/
def upToClosing (n : Nat) (label : Text) (lines : List Text) : Option Fenced :=
  match lines.dropWhile fun line => !closes n line with
  | [] => none
  | _ :: rest =>
    some ⟨label, Text.joinWith [.lineFeed] (lines.takeWhile fun line => !closes n line),
      Text.joinWith [.lineFeed] rest⟩

/-- The fenced block that a text begins with. The opening run has three
backticks or more, and none is in the label. -/
def readFenced (t : Text) : Option Fenced :=
  let run := t.takeWhile (· == backtick)
  match Text.splitOn .lineFeed (t.dropWhile (· == backtick)) with
  | [] => none
  | label :: lines =>
    if 3 ≤ run.length ∧ backtick ∉ label then upToClosing run.length label lines else none

/-! ### Reading code within a line -/

/-- The text in front of the first run of exactly `n` backticks, and the
text behind it; `run` is the length of the run that reaches up to the
front. -/
def cutAtRun (n : Nat) (run : Nat) : Text → Option (Text × Text)
  | [] => if run = n then some ([], []) else none
  | c :: rest =>
    if c = backtick then cutAtRun n (run + 1) rest
    else if run = n then some ([], c :: rest)
    else (cutAtRun n 0 rest).map fun cut => (backticks run ++ c :: cut.1, cut.2)

/-- The code that a text begins with, with its padding, and the text behind
it. -/
def readSpan (t : Text) : Option (Text × Text) :=
  let run := t.takeWhile (· == backtick)
  if run = [] then none else cutAtRun run.length 0 (t.dropWhile (· == backtick))

/-- The padding around code within a line. -/
def padding (t : Text) : Text :=
  if backtick ∈ t then " " else []

/-! ### A run at the front -/

/-- A run of backticks has nothing else in it. -/
theorem all_backticks (n : Nat) : ∀ c ∈ backticks n, (c == backtick) = true := by
  intro c hc
  rw [List.eq_of_mem_replicate hc]
  exact beq_self_eq_true backtick

/-- The run at the front of a text ends where something else begins, so its
length can be counted. -/
theorem takeWhile_backticks (n : Nat) {t : Text} (ht : t.head? ≠ some backtick) :
    (backticks n ++ t).takeWhile (· == backtick) = backticks n := by
  rw [List.takeWhile_append_of_pos (all_backticks n)]
  cases t with
  | nil => rw [List.takeWhile_nil, List.append_nil]
  | cons c t =>
      have hc : (c == backtick) = false := beq_false_of_ne fun h => ht (congrArg some h)
      rw [List.takeWhile_cons, hc, if_neg Bool.false_ne_true, List.append_nil]

/-- A reader that drops backticks drops all of a run, and goes no further
than the text behind it. -/
theorem dropWhile_backticks (n : Nat) {t : Text} (ht : t.head? ≠ some backtick) :
    (backticks n ++ t).dropWhile (· == backtick) = t := by
  rw [List.dropWhile_append_of_pos (all_backticks n)]
  cases t with
  | nil => rfl
  | cons c t =>
      have hc : (c == backtick) = false := beq_false_of_ne fun h => ht (congrArg some h)
      rw [List.dropWhile_cons, hc, if_neg Bool.false_ne_true]

/-! ### Lines of a block -/

/-- A line that closes a fence has a run of its length, and so it is none of
code that the fence is sized to. -/
theorem backticks_infix_of_closes {n : Nat} {line : Text} (h : closes n line = true) :
    backticks n <:+: line := by
  obtain ⟨hall, hlong⟩ := Bool.and_eq_true_iff.mp h
  have hrun : line.trim = backticks line.trim.length :=
    List.eq_replicate_of_mem fun c hc => eq_of_beq (List.all_eq_true.mp hall c hc)
  have hinside : backticks n <:+: line.trim := by
    rw [hrun, backticks_infix_backticks]
    exact of_decide_eq_true hlong
  exact hinside.trans (Text.trim_infix line)

/-- No line of code closes a fence that is sized to it. Dropping blanks at
the end of the code makes no difference: a line of what is left is a part of
the code. -/
theorem closes_eq_false {least n : Nat} {code line : Text} (hsized : SizedTo least code n)
    (hline : line ∈ Text.splitOn .lineFeed code.trimEnd) : closes n line = false := by
  cases hcloses : closes n line with
  | false => rfl
  | true =>
      have hcode : backticks n <:+: code :=
        (backticks_infix_of_closes hcloses).trans
          ((Text.infix_of_mem_splitOn hline).1.trans
            (Text.dropEndWhile_isPrefix CodePoint.isBlank code).isInfix)
      exact absurd hcode ((hsized n).mp (Nat.le_refl n)).2

/-- A fence closes itself: a run of the same length, with nothing behind
it. -/
theorem closes_backticks (n : Nat) : closes n (backticks n) = true := by
  have hplain : ∀ c ∈ backticks n, c.isBlank = false := by
    intro c hc
    rw [List.eq_of_mem_replicate hc]
    rfl
  have hlength : (backticks n).length = n := List.length_replicate
  rw [closes, Text.trim_eq_self hplain, hlength,
    List.all_eq_true.mpr (all_backticks n), decide_eq_true (Nat.le_refl n), Bool.and_self]

/-- The first line that closes a fence ends the block, and the lines before
it are the code. Induction on these lines. -/
theorem upToClosing_eq {n : Nat} {label line : Text} {lines rest : List Text}
    (hopen : ∀ l ∈ lines, closes n l = false) (hclose : closes n line = true) :
    upToClosing n label (lines ++ line :: rest)
      = some ⟨label, Text.joinWith [.lineFeed] lines, Text.joinWith [.lineFeed] rest⟩ := by
  have hstay : ∀ l ∈ lines, (!closes n l) = true := by
    intro l hl
    rw [hopen l hl, Bool.not_false]
  have hleave : (!closes n line) = false := by
    rw [hclose, Bool.not_true]
  rw [upToClosing, List.dropWhile_append_of_pos hstay, List.takeWhile_append_of_pos hstay,
    List.dropWhile_cons, List.takeWhile_cons, hleave, if_neg Bool.false_ne_true,
    if_neg Bool.false_ne_true, List.append_nil]

/-- No label of a language has a backtick or a line feed, so the label of a
fence is read as it was written. -/
theorem plain_exampleLanguage (doc : FileDoc) :
    backtick ∉ Block.exampleLanguage doc
      ∧ CodePoint.lineFeed ∉ Block.exampleLanguage doc := by
  have hknown : ∀ entry ∈ Language.table,
      backtick ∉ entry.2 ∧ CodePoint.lineFeed ∉ entry.2 := by decide
  have hpath : ∀ path : Path, backtick ∉ Language.ofPath path
      ∧ CodePoint.lineFeed ∉ Language.ofPath path := by
    intro path
    rw [Language.ofPath, Language.ofSuffix?]
    cases hfind : Language.table.find? fun entry => entry.1 == path.suffix.toSmall with
    | none => exact (by decide : backtick ∉ Language.fallback
        ∧ CodePoint.lineFeed ∉ Language.fallback)
    | some entry => exact hknown entry (List.mem_of_find?_eq_some hfind)
  rw [Block.exampleLanguage]
  split
  · exact hpath _
  · exact hpath _
  · decide

/-- A text behind a text without backticks does not begin with one, if
something else stands between. -/
theorem head?_ne_backtick {t u : Text} {c : CodePoint} (ht : backtick ∉ t) (hc : c ≠ backtick) :
    (t ++ c :: u).head? ≠ some backtick := by
  intro h
  cases t with
  | nil => exact hc (Option.some.inj h)
  | cons d t =>
      have hd : d = backtick := Option.some.inj h
      exact ht (hd ▸ List.mem_cons_self)

/-- A fenced block is read back with its label, its code and what stands
behind the fence. -/
theorem readFenced_codeBlock (code language after : Text) (hrun : backtick ∉ language)
    (hline : CodePoint.lineFeed ∉ language) :
    readFenced (codeBlock code language ++ after)
      = some ⟨language, code.trimEnd, CodePoint.lineFeed :: after⟩ := by
  obtain ⟨n, hn⟩ : ∃ n, n = max 3 (longestRun code + 1) := ⟨_, rfl⟩
  have hsized : SizedTo 3 code n := hn ▸ sizedTo_of_longestRun 3 code
  have hlong : 3 ≤ n := ((hsized n).mp (Nat.le_refl n)).1
  have hbreak : ("\n" : Text) = [CodePoint.lineFeed] := rfl
  have hgap : ("\n\n" : Text) = [CodePoint.lineFeed, CodePoint.lineFeed] := rfl
  have hparts : codeBlock code language ++ after
      = backticks n ++ (language ++ CodePoint.lineFeed :: (code.trimEnd ++ CodePoint.lineFeed ::
          (backticks n ++ CodePoint.lineFeed :: (CodePoint.lineFeed :: after)))) := by
    rw [codeBlock, fence, ← hn, hbreak, hgap]
    simp only [List.append_assoc, List.cons_append, List.nil_append]
  have hfence : CodePoint.lineFeed ∉ backticks n := by
    intro h
    exact absurd (List.eq_of_mem_replicate h) (by decide)
  -- The label ends the opening run, so the first line is the label.
  have hfront : (language ++ CodePoint.lineFeed :: (code.trimEnd ++ CodePoint.lineFeed ::
      (backticks n ++ CodePoint.lineFeed :: (CodePoint.lineFeed :: after)))).head?
        ≠ some backtick := head?_ne_backtick hrun (by decide)
  have hlines : upToClosing n language (Text.splitOn .lineFeed code.trimEnd ++ backticks n
      :: Text.splitOn .lineFeed (CodePoint.lineFeed :: after))
        = some ⟨language, code.trimEnd, CodePoint.lineFeed :: after⟩ := by
    rw [upToClosing_eq (fun l hl => closes_eq_false hsized hl) (closes_backticks n),
      Text.joinWith_splitOn, Text.joinWith_splitOn]
  rw [readFenced, hparts, takeWhile_backticks n hfront, dropWhile_backticks n hfront,
    Text.splitOn_append_cons, Text.splitOn_append_cons, Text.splitOn_append_cons,
    Text.splitOn_of_not_mem hline, Text.splitOn_of_not_mem hfence, List.singleton_append,
    List.singleton_append]
  have hlength : (backticks n).length = n := List.length_replicate
  show (if 3 ≤ (backticks n).length ∧ backtick ∉ language then _ else none) = _
  rw [hlength, if_pos ⟨hlong, hrun⟩, hlines]

/-! ### Code within a line -/

/-- A reader that looks for a run of a certain length counts the backticks
that it passes. -/
theorem cutAtRun_backticks (n run m : Nat) (t : Text) :
    cutAtRun n run (backticks m ++ t) = cutAtRun n (run + m) t := by
  induction m generalizing run with
  | zero => rfl
  | succ m ih =>
      show cutAtRun n run (backtick :: (backticks m ++ t)) = cutAtRun n (run + (m + 1)) t
      rw [cutAtRun, if_pos rfl, ih, Nat.add_assoc, Nat.add_comm 1 m]

/-- A run of `n` backticks that nothing makes longer is the end. If another
backtick followed, the run would be a longer one and end nothing. -/
theorem cutAtRun_self (n : Nat) {after : Text} (hafter : after.head? ≠ some backtick) :
    cutAtRun n n after = some ([], after) := by
  cases after with
  | nil => rw [cutAtRun, if_pos rfl]
  | cons c after =>
      have hc : c ≠ backtick := fun h => hafter (congrArg some h)
      rw [cutAtRun, if_neg hc, if_pos rfl]

/-- The search for a run of `n` backticks passes over shorter ones.
Induction on the text in front, for all lengths of the run before it. -/
theorem cutAtRun_append {n run : Nat} {t after : Text} {c : CodePoint} (hc : c ≠ backtick)
    (hshort : longestRunFrom run (t ++ [c]) < n) (hafter : after.head? ≠ some backtick) :
    cutAtRun n run (t ++ c :: (backticks n ++ after))
      = some (backticks run ++ t ++ [c], after) := by
  induction t generalizing run with
  | nil =>
      rw [List.nil_append, longestRunFrom, if_neg hc] at hshort
      have hrun : run ≠ n := by omega
      rw [List.nil_append, cutAtRun, if_neg hc, if_neg hrun, cutAtRun_backticks, Nat.zero_add,
        cutAtRun_self n hafter, List.append_nil]
      rfl
  | cons d t ih =>
      rw [List.cons_append, longestRunFrom] at hshort
      rw [List.cons_append, cutAtRun]
      by_cases hd : d = backtick
      · -- The run grows, and what was read of it goes in front of the rest.
        rw [if_pos hd] at hshort ⊢
        have hgrown : backticks (run + 1) = backticks run ++ [d] := by
          rw [hd, backticks, backticks, List.replicate_succ']
        rw [ih hshort, hgrown, List.append_assoc (backticks run) [d] t, List.singleton_append]
      · rw [if_neg hd] at hshort ⊢
        have hrun : run ≠ n := by omega
        have hrest : longestRunFrom 0 (t ++ [c]) < n := by omega
        rw [if_neg hrun, ih hrest, Option.map_some]
        simp [backticks]

/-- A text has no run exactly if it has no backtick. Only then code is
written between single ones. -/
theorem longestRun_eq_zero_iff (t : Text) : longestRun t = 0 ↔ backtick ∉ t := by
  have hone : backticks 1 <:+: t ↔ 1 ≤ longestRun t := backticks_infix_iff 0 1 t
  have hmem : backticks 1 <:+: t ↔ backtick ∈ t := by
    constructor
    · intro h
      exact h.subset List.mem_cons_self
    · intro h
      obtain ⟨a, b, rfl⟩ := List.append_of_mem h
      exact ⟨a, b, by simp [backticks]⟩
  rw [← hmem, hone]
  omega

/-- Something that is no backtick adds no run at the end, whatever run was
being counted. -/
theorem longestRunFrom_concat (run : Nat) (t : Text) {c : CodePoint} (hc : c ≠ backtick) :
    longestRunFrom run (t ++ [c]) = longestRunFrom run t := by
  induction t generalizing run with
  | nil =>
      show (if c = backtick then _ else max run 0) = run
      rw [if_neg hc, Nat.max_zero]
  | cons d t ih =>
      rw [List.cons_append, longestRunFrom, longestRunFrom, ih, ih]

/-- Two equal runs delimit what has only shorter runs and no backtick at
its ends. -/
theorem readSpan_delimited {n : Nat} {t after : Text} {c : CodePoint} (hn : 0 < n)
    (hfront : (t ++ [c]).head? ≠ some backtick) (hc : c ≠ backtick)
    (hshort : longestRun (t ++ [c]) < n) (hafter : after.head? ≠ some backtick) :
    readSpan (backticks n ++ (t ++ c :: (backticks n ++ after))) = some (t ++ [c], after) := by
  have hbehind : (t ++ c :: (backticks n ++ after)).head? ≠ some backtick := by
    cases t with
    | nil => exact hfront
    | cons d t => exact hfront
  have hlength : (backticks n).length = n := List.length_replicate
  have hsome : backticks n ≠ [] := fun h => Nat.ne_of_gt hn (hlength.symm.trans (congrArg _ h))
  rw [readSpan, takeWhile_backticks n hbehind, dropWhile_backticks n hbehind]
  show (if backticks n = [] then none else cutAtRun (backticks n).length 0 _) = _
  rw [if_neg hsome, hlength, cutAtRun_append hc hshort hafter]
  rfl

/-- Code within a line is read back with its padding, and what stands behind
it is left. -/
theorem readSpan_code {t after : Text} (ht : t ≠ []) (hafter : after.head? ≠ some backtick) :
    readSpan (code t ++ after) = some (padding t ++ t ++ padding t, after) := by
  rw [code]
  split
  · next hzero =>
    -- No backtick in the code, so none is at its ends.
    have hnone : backtick ∉ t := (longestRun_eq_zero_iff t).mp hzero
    obtain ⟨u, c, rfl⟩ : ∃ u c, t = u ++ [c] :=
      ⟨t.dropLast, t.getLast ht, (List.dropLast_concat_getLast ht).symm⟩
    have hc : c ≠ backtick := fun h => hnone (h ▸ List.mem_append_right u List.mem_cons_self)
    have hfront : (u ++ [c]).head? ≠ some backtick := fun h => hnone (List.mem_of_head? h)
    have hread := readSpan_delimited (n := 1) Nat.one_pos hfront hc (by omega) hafter
    rw [padding, if_neg hnone, List.append_nil, List.nil_append, ← hread]
    simp [backticks]
  · next hsome =>
    -- The padding keeps the runs at the ends of the code from growing.
    have hmem : backtick ∈ t :=
      Decidable.byContradiction fun hnone => hsome ((longestRun_eq_zero_iff t).mpr hnone)
    let space : CodePoint := CodePoint.ofChar ' '
    have hspace : space ≠ backtick := by decide
    have hrun : longestRun (space :: t ++ [space]) = longestRun t := by
      show longestRunFrom 0 (space :: t ++ [space]) = longestRunFrom 0 t
      rw [longestRunFrom_concat 0 _ hspace, longestRunFrom, if_neg hspace, Nat.zero_max]
    have hfront : (space :: t ++ [space]).head? ≠ some backtick :=
      fun h => hspace (Option.some.inj h)
    have hread := readSpan_delimited (n := longestRun t + 1) (Nat.succ_pos _) hfront hspace
      (by omega) hafter
    have hpad : (" " : Text) = [space] := rfl
    rw [padding, if_pos hmem, hpad]
    simpa only [List.append_assoc, List.cons_append, List.nil_append, List.singleton_append]
      using hread

/-! ### Code read back -/

/-- Whatever a document goes on with: a fenced block is read as its label and
its code without the blanks at the end, and ends at its second fence; code
within a line is read as itself between its padding, and ends at its second
delimiter. -/
theorem code_read_back :
    (∀ (doc : FileDoc) (code after : Text),
      readFenced (codeBlock code (Block.exampleLanguage doc) ++ after)
        = some ⟨Block.exampleLanguage doc, code.trimEnd, CodePoint.lineFeed :: after⟩)
    ∧ ∀ t after : Text, t ≠ [] → after.head? ≠ some backtick →
      readSpan (code t ++ after) = some (padding t ++ t ++ padding t, after) := by
  constructor
  · intro doc code after
    obtain ⟨hrun, hline⟩ := plain_exampleLanguage doc
    exact readFenced_codeBlock code _ after hrun hline
  · intro t after ht hafter
    exact readSpan_code ht hafter

/-- Two backticks inside code take delimiters of three. -/
theorem ticks_read_back : ("a``" : Text) ≠ [] ∧ ("." : Text).head? ≠ some backtick
    ∧ readSpan (code "a``" ++ ".") = some ((" a`` " : Text), ("." : Text)) := by
  refine ⟨by decide, by decide, ?_⟩
  exact code_read_back.2 "a``" "." (by decide) (by decide)

end DocScribe.Markdown
