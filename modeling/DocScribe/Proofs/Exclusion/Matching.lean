import DocScribe.Exclusion.Pattern
import DocScribe.Proofs.Text.Joining
import DocScribe.Proofs.Text.Trimming
import Mathlib.Data.List.Induction

/-!
# `DocScribe.Proofs.Exclusion.Matching`: what patterns match

Each item of a pattern takes a part of the path and leaves the rest to
the items behind it (`Glob.afterRun_iff`, `Glob.afterSlash_iff`). Where
names are joined by slashes and hold none themselves, a cut at a slash
is a cut between names (`Text.joinWith_eq_append_cons_iff`), so a
pattern that begins with any folders matches what it would match below
some of the leading names (`Glob.matches_maybeFolders_iff`). A line feed
ends the reach of such a pattern: the names that are passed must not
hold one.

Of several patterns the last one that matches decides
(`Pattern.isExcluded_append`), and it takes back in what it matches just in
case its line begins with an exclamation mark
(`Pattern.excludes_eq_false_iff`).
-/

set_option autoImplicit false

namespace DocScribe

/-- What the name of a file or a folder looks like. -/
structure IsName (name : Text) : Prop where
  proper : name ≠ []
  whole : CodePoint.ofChar '/' ∉ name

namespace Text

/-! ### Joined names -/

/-- Joining names by slashes adds nothing but slashes, so any other code
point is one of a name. -/
theorem mem_joinWith_slash {c : CodePoint} (hc : c ≠ CodePoint.ofChar '/') (names : List Text) :
    c ∈ joinWith "/" names ↔ ∃ name ∈ names, c ∈ name := by
  cases names with
  | nil => simp [joinWith]
  | cons name names =>
      have hsep : c ∉ ofString "/" := by
        rw [show ofString "/" = [CodePoint.ofChar '/'] from rfl]
        exact fun h => hc (List.mem_singleton.mp h)
      simp only [joinWith_cons, separated, List.mem_append, List.mem_flatMap, hsep, false_or,
        List.mem_cons, exists_eq_or_imp]

/-- Between two names stands one slash. This unfolds the joining by one
step, where there are at least two names. -/
theorem joinWith_slash_cons_cons (name next : Text) (names : List Text) :
    joinWith "/" (name :: next :: names)
      = name ++ CodePoint.ofChar '/' :: joinWith "/" (next :: names) := by
  rw [joinWith, List.append_assoc]
  rfl

/-- A slash in joined names stands between two of them: wherever such a text
is cut at a slash, the names are cut in two. The names are the pieces of the
text, since there is no slash in them, and the pieces on the two sides of a
slash are cut apart independently. -/
theorem joinWith_eq_append_cons_iff {names : List Text}
    (hnames : ∀ name ∈ names, CodePoint.ofChar '/' ∉ name) {before after : Text} :
    joinWith "/" names = before ++ CodePoint.ofChar '/' :: after
      ↔ ∃ front back, names = front ++ back ∧ front ≠ [] ∧ back ≠ []
        ∧ before = joinWith "/" front ∧ after = joinWith "/" back := by
  constructor
  · intro h
    cases names with
    | nil => exact absurd (congrArg List.length h) (by simp [joinWith])
    | cons name names =>
        have hpieces : name :: names = splitOn (CodePoint.ofChar '/') before
            ++ splitOn (CodePoint.ofChar '/') after := by
          rw [← splitOn_append_cons, ← h]
          exact (splitOn_joinWith hnames).symm
        exact ⟨_, _, hpieces, splitOn_ne_nil _ before, splitOn_ne_nil _ after,
          (joinWith_splitOn _ before).symm, (joinWith_splitOn _ after).symm⟩
  · rintro ⟨front, back, rfl, hfront, hback, rfl, rfl⟩
    exact joinWith_append "/" hfront hback

/-- The first slash stands behind the first name, so what comes before it is
that name and what comes behind are the others. -/
theorem joinWith_eq_whole_append_cons_iff {names : List Text}
    (hnames : ∀ name ∈ names, CodePoint.ofChar '/' ∉ name) {first after : Text}
    (hfirst : CodePoint.ofChar '/' ∉ first) :
    joinWith "/" names = first ++ CodePoint.ofChar '/' :: after
      ↔ ∃ back, names = first :: back ∧ back ≠ [] ∧ after = joinWith "/" back := by
  rw [joinWith_eq_append_cons_iff hnames]
  constructor
  · rintro ⟨front, back, rfl, hfront, hback, rfl, rfl⟩
    cases front with
    | nil => exact absurd rfl hfront
    | cons name front =>
        cases front with
        | nil => exact ⟨back, rfl, hback, rfl⟩
        | cons next front =>
            rw [joinWith_slash_cons_cons] at hfirst
            exact absurd (List.mem_append_right _ List.mem_cons_self) hfirst
  · rintro ⟨back, rfl, hback, rfl⟩
    exact ⟨[first], back, rfl, List.cons_ne_nil _ _, hback, rfl, rfl⟩

end Text

namespace Glob

/-! ### Items -/

/-- A star takes any part of a name, and the items behind it decide how
much: what matters is that there is some cut that they go on from. Induction
on the text, a run being empty or longer by the first code point. -/
theorem afterRun_iff (next : Text → Bool) (t : Text) :
    afterRun next t = true
      ↔ ∃ run rest, t = run ++ rest ∧ CodePoint.ofChar '/' ∉ run ∧ next rest = true := by
  induction t with
  | nil =>
      rw [afterRun]
      constructor
      · intro h
        exact ⟨[], [], rfl, List.not_mem_nil, h⟩
      · rintro ⟨run, rest, h, -, hnext⟩
        rwa [(List.append_eq_nil_iff.mp h.symm).2] at hnext
  | cons c t ih =>
      simp only [afterRun, Bool.or_eq_true, Bool.and_eq_true, bne_iff_ne, ih]
      constructor
      · rintro (h | ⟨hc, run, rest, rfl, hrun, hnext⟩)
        · exact ⟨[], c :: t, rfl, List.not_mem_nil, h⟩
        · refine ⟨c :: run, rest, rfl, ?_, hnext⟩
          exact fun hmem => (List.mem_cons.mp hmem).elim (fun h => hc h.symm) hrun
      · rintro ⟨run, rest, h, hrun, hnext⟩
        -- Either the run is over here, or the first code point is one of it.
        cases run with
        | nil =>
            obtain rfl : c :: t = rest := h
            exact .inl hnext
        | cons d run =>
            obtain ⟨rfl, rfl⟩ := List.cons.inj h
            refine .inr ⟨?_, run, rest, rfl, fun hmem => hrun (List.mem_cons_of_mem _ hmem), hnext⟩
            rintro rfl
            exact hrun List.mem_cons_self

/-- Behind any folders the rest of a pattern goes on after some slash. What
is passed on the way holds no line feed, since that is where the wildcard
ends. -/
theorem afterSlash_iff (next : Text → Bool) (t : Text) :
    afterSlash next t = true
      ↔ ∃ passed rest, t = passed ++ CodePoint.ofChar '/' :: rest
        ∧ CodePoint.lineFeed ∉ passed ∧ next rest = true := by
  induction t with
  | nil =>
      rw [afterSlash]
      constructor
      · exact fun h => nomatch h
      · rintro ⟨passed, rest, h, -⟩
        exact absurd (congrArg List.length h) (by simp)
  | cons c t ih =>
      simp only [afterSlash, isWithin, Bool.or_eq_true, Bool.and_eq_true, beq_iff_eq, bne_iff_ne,
        ih]
      constructor
      · rintro (⟨rfl, hnext⟩ | ⟨hc, passed, rest, rfl, hpassed, hnext⟩)
        · exact ⟨[], t, rfl, List.not_mem_nil, hnext⟩
        · refine ⟨c :: passed, rest, rfl, ?_, hnext⟩
          exact fun hmem => (List.mem_cons.mp hmem).elim (fun h => hc h.symm) hpassed
      · rintro ⟨passed, rest, h, hpassed, hnext⟩
        cases passed with
        | nil =>
            obtain ⟨rfl, rfl⟩ := List.cons.inj h
            exact .inl ⟨rfl, hnext⟩
        | cons d passed =>
            obtain ⟨rfl, rfl⟩ := List.cons.inj h
            refine .inr ⟨?_, passed, rest, rfl,
              fun hmem => hpassed (List.mem_cons_of_mem _ hmem), hnext⟩
            rintro rfl
            exact hpassed List.mem_cons_self

/-- The same where at least one folder has to be passed: the first code
point belongs to it, and from there on it is `afterSlash_iff`. -/
theorem afterFolders_iff (next : Text → Bool) (t : Text) :
    afterFolders next t = true
      ↔ ∃ passed rest, t = passed ++ CodePoint.ofChar '/' :: rest ∧ passed ≠ []
        ∧ CodePoint.lineFeed ∉ passed ∧ next rest = true := by
  cases t with
  | nil =>
      constructor
      · exact fun h => nomatch h
      · rintro ⟨passed, rest, h, -⟩
        exact absurd (congrArg List.length h) (by simp)
  | cons c t =>
      simp only [afterFolders, isWithin, Bool.and_eq_true, bne_iff_ne, afterSlash_iff]
      constructor
      · rintro ⟨hc, passed, rest, rfl, hpassed, hnext⟩
        refine ⟨c :: passed, rest, rfl, List.cons_ne_nil _ _, ?_, hnext⟩
        exact fun hmem => (List.mem_cons.mp hmem).elim (fun h => hc h.symm) hpassed
      · rintro ⟨passed, rest, h, hne, hpassed, hnext⟩
        cases passed with
        | nil => exact absurd rfl hne
        | cons d passed =>
            obtain ⟨rfl, rfl⟩ := List.cons.inj h
            refine ⟨?_, passed, rest, rfl, fun hmem => hpassed (List.mem_cons_of_mem _ hmem), hnext⟩
            rintro rfl
            exact hpassed List.mem_cons_self

/-- A text spelled out in a pattern is matched by itself, and the items
behind it go on from there. Induction on the text. -/
theorem matches_spelled_iff (spelled : Text) (items : List GlobItem) (t : Text) :
    matches? (spelled.map .one ++ items) t = true
      ↔ ∃ rest, t = spelled ++ rest ∧ matches? items rest = true := by
  induction spelled generalizing t with
  | nil =>
      show matches? items t = true ↔ ∃ rest, t = rest ∧ matches? items rest = true
      simp
  | cons c spelled ih =>
      cases t with
      | nil => simp [matches?]
      | cons d t =>
          show (d == c && matches? (spelled.map .one ++ items) t) = true ↔ _
          simp only [Bool.and_eq_true, beq_iff_eq, ih, List.cons_append, List.cons.injEq]
          constructor
          · rintro ⟨rfl, rest, rfl, hrest⟩
            exact ⟨rest, ⟨rfl, rfl⟩, hrest⟩
          · rintro ⟨rest, ⟨rfl, rfl⟩, hrest⟩
            exact ⟨rfl, rest, rfl, hrest⟩

/-- A pattern that begins with any folders matches a place if it matches
what is left of it below some of its folders, none of which has a line
feed in its name. -/
theorem matches_maybeFolders_iff {place : List Text} (hnames : ∀ name ∈ place, IsName name)
    (hplace : place ≠ []) (items : List GlobItem) :
    matches? (.maybeFolders :: items) (Text.joinWith "/" place) = true
      ↔ ∃ front back, place = front ++ back ∧ back ≠ []
        ∧ (∀ name ∈ front, CodePoint.lineFeed ∉ name)
        ∧ matches? items (Text.joinWith "/" back) = true := by
  have hfeed : CodePoint.lineFeed ≠ CodePoint.ofChar '/' := by decide
  rw [matches?, Bool.or_eq_true, afterFolders_iff]
  constructor
  · rintro (h | ⟨passed, rest, h, -, hpassed, hrest⟩)
    · exact ⟨[], place, rfl, hplace, fun _ hmem => absurd hmem List.not_mem_nil, h⟩
    · -- The slash that ends the folders is one that joins two names.
      obtain ⟨front, back, rfl, -, hback, rfl, rfl⟩ :=
        (Text.joinWith_eq_append_cons_iff fun name hmem => (hnames name hmem).whole).mp h
      refine ⟨front, back, rfl, hback, fun name hmem hbad => ?_, hrest⟩
      exact hpassed ((Text.mem_joinWith_slash hfeed front).mpr ⟨name, hmem, hbad⟩)
  · rintro ⟨front, back, rfl, hback, hfront, hitems⟩
    cases front with
    | nil => exact .inl hitems
    | cons first front =>
        refine .inr ⟨Text.joinWith "/" (first :: front), Text.joinWith "/" back, ?_, ?_, ?_, hitems⟩
        · exact (Text.joinWith_eq_append_cons_iff fun name hmem => (hnames name hmem).whole).mpr
            ⟨first :: front, back, rfl, List.cons_ne_nil _ _, hback, rfl, rfl⟩
        · rw [Text.joinWith_cons]
          have hfirst := (hnames first (List.mem_append_left _ List.mem_cons_self)).proper
          exact fun hnil => hfirst (List.append_eq_nil_iff.mp hnil).1
        · rw [Text.mem_joinWith_slash hfeed]
          rintro ⟨name, hmem, hbad⟩
          exact hfront name hmem hbad

end Glob

namespace Pattern

/-! ### The last pattern that matches -/

/-- The last of some patterns that match a path. -/
def lastMatch? (patterns : List Pattern) (path : Text) : Option Pattern :=
  (patterns.filter fun pattern => Glob.matches? pattern.items path).getLast?

/-- A pattern that comes last decides if it matches. Otherwise those before
it do. -/
theorem lastMatch?_concat (patterns : List Pattern) (pattern : Pattern) (path : Text) :
    lastMatch? (patterns ++ [pattern]) path
      = if Glob.matches? pattern.items path then some pattern else lastMatch? patterns path := by
  rw [lastMatch?, List.filter_append, List.filter_cons, List.filter_nil]
  split
  · exact List.getLast?_concat
  · rw [List.append_nil]
    rfl

/-- Whatever was said before, the last pattern that matches decides.
Induction on the patterns from the last one on. -/
theorem foldl_verdict_eq (patterns : List Pattern) (path : Text) (excluded : Bool) :
    patterns.foldl (verdict path) excluded
      = ((lastMatch? patterns path).map Pattern.excludes).getD excluded := by
  induction patterns using List.reverseRecOn with
  | nil => rfl
  | append_singleton patterns pattern ih =>
      rw [List.foldl_append, ih, lastMatch?_concat]
      show verdict path _ pattern = _
      rw [verdict]
      split
      · rfl
      · rfl

/-- Behind patterns that speak for themselves others have the last word on
what they match. -/
theorem isExcluded_append (first later : List Pattern) (path : Text) :
    isExcluded (first ++ later) path
      = ((lastMatch? later path).map Pattern.excludes).getD (isExcluded first path) := by
  rw [isExcluded, List.foldl_append, foldl_verdict_eq later]
  rfl

/-- Patterns that all exclude exclude what one of them matches, whichever
matches last. -/
theorem isExcluded_iff_of_all {patterns : List Pattern}
    (h : ∀ pattern ∈ patterns, pattern.excludes = true) (path : Text) :
    isExcluded patterns path = true
      ↔ ∃ pattern ∈ patterns, Glob.matches? pattern.items path = true := by
  rw [isExcluded, foldl_verdict_eq]
  cases hlast : lastMatch? patterns path with
  | none =>
      have hnone := List.filter_eq_nil_iff.mp (List.getLast?_eq_none_iff.mp hlast)
      constructor
      · exact fun hfalse => nomatch hfalse
      · rintro ⟨pattern, hmem, hmatch⟩
        exact absurd hmatch (hnone pattern hmem)
  | some pattern =>
      obtain ⟨hmem, hmatch⟩ := List.mem_filter.mp (List.mem_of_getLast? hlast)
      exact ⟨fun _ => ⟨pattern, hmem, hmatch⟩, fun _ => h pattern hmem⟩

/-! ### Lines -/

/-- Lines are read one by one, so more lines give more patterns. A line that
is wrong makes all of them wrong. -/
theorem ofLines_append (first later : List Text) :
    ofLines (first ++ later)
      = (ofLines first).bind fun patterns => (ofLines later).map (patterns ++ ·) := by
  induction first with
  | nil =>
      show ofLines later = (ofLines later).map fun patterns => patterns
      cases ofLines later <;> rfl
  | cons line first ih =>
      rw [List.cons_append, ofLines, ofLines, ih]
      cases ofLine line with
      | error e => rfl
      | ok pattern =>
          cases ofLines first with
          | error e => rfl
          | ok patterns =>
              cases ofLines later with
              | error e => rfl
              | ok others => exact congrArg Except.ok (List.append_assoc _ _ _).symm

/-- Every pattern is that of a line. Blank lines and comments have none, so
the lines are at least as many as the patterns. -/
theorem exists_line_of_mem {lines : List Text} {patterns : List Pattern} {pattern : Pattern}
    (h : ofLines lines = .ok patterns) (hmem : pattern ∈ patterns) :
    ∃ line ∈ lines, ofLine line = .ok (some pattern) := by
  induction lines generalizing patterns with
  | nil =>
      obtain rfl := Except.ok.inj h
      exact absurd hmem List.not_mem_nil
  | cons line lines ih =>
      rw [ofLines] at h
      cases hline : ofLine line with
      | error e => exact nomatch hline ▸ h
      | ok first =>
          cases hlines : ofLines lines with
          | error e => rw [hline, hlines] at h; exact nomatch h
          | ok others =>
              rw [hline, hlines] at h
              obtain rfl := Except.ok.inj h
              rcases List.mem_append.mp hmem with hfirst | hothers
              · obtain rfl := Option.mem_toList.mp hfirst
                exact ⟨line, List.mem_cons_self, hline⟩
              · obtain ⟨other, hother, hpattern⟩ := ih hlines hothers
                exact ⟨other, List.mem_cons_of_mem _ hother, hpattern⟩

/-- What stands behind the exclamation mark does not change the verdict of a
line. -/
theorem excludes_of_ofBody {line body : Text} {excludes : Bool} {pattern : Pattern}
    (h : ofBody line excludes body = .ok (some pattern)) : pattern.excludes = excludes := by
  rw [ofBody] at h
  split at h
  · rw [← Option.some.inj (Except.ok.inj h)]
  · exact nomatch Except.ok.inj h
  · exact nomatch h
  · exact nomatch h

/-- What a line leaves when it is trimmed begins like the line, because
nothing is taken away but blanks at its end. -/
theorem trimmed_isPrefix (line : Text) : trimmed line <+: line := by
  rw [trimmed]
  split
  · exact List.prefix_refl line
  · exact Text.dropEndWhile_isPrefix _ line

/-- A pattern takes back in what it matches just in case its line begins
with an exclamation mark. -/
theorem excludes_eq_false_iff {line : Text} {pattern : Pattern}
    (h : ofLine line = .ok (some pattern)) :
    pattern.excludes = false ↔ line.head? = some (CodePoint.ofChar '!') := by
  have hprefix := trimmed_isPrefix line
  rw [ofLine] at h
  cases htrimmed : trimmed line with
  | nil => exact nomatch htrimmed ▸ h
  | cons c rest =>
      rw [htrimmed] at h hprefix
      -- Trimming takes away blanks at the end only.
      have hhead : line.head? = some c := by
        obtain ⟨others, rfl⟩ := hprefix
        rfl
      dsimp only at h
      split at h
      · exact nomatch Except.ok.inj h
      split at h
      · exact nomatch Except.ok.inj h
      split at h
      · next hmark => simp [excludes_of_ofBody h, hhead, hmark]
      · next hmark => simp [excludes_of_ofBody h, hhead, hmark]

end Pattern

end DocScribe
