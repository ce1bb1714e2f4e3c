import DocScribe.Language
import DocScribe.Proofs.Exclusion.Matching
import Mathlib.Data.List.Lex

/-!
# `DocScribe.Proofs.Paths`: paths, their texts, their suffixes and their order

A path is told by its text: reading the text of a path that was read gives
the path again (`Path.ofText_toText_ofText`). The suffix of a name is what
stands from its last dot on, and a known language takes a suffix behind a
name of its own (`Language.isSupported_iff`). The order of paths is the
lexicographic one on segments, over the lexicographic one on code points
(`Path.segmentsLt_iff`).
-/

set_option autoImplicit false

namespace DocScribe

/-! ### Texts of paths -/

namespace Path

/-- The segments of a path that was read are names, and proper ones: they
are not empty and not a single dot, and hold no slash. -/
theorem isName_of_mem_ofText {t segment : Text} (h : segment ∈ (ofText t).segments) :
    IsName segment ∧ isProper segment = true := by
  obtain ⟨hpiece, hproper⟩ := List.mem_filter.mp h
  refine ⟨⟨?_, (Text.infix_of_mem_splitOn hpiece).2⟩, hproper⟩
  rintro rfl
  exact absurd hproper (by decide)

/-- One slash or two in front of a path make it one from a root, and two are
a root of their own. -/
theorem rootOf_of_head? {t : Text} (h : t.head? ≠ some (CodePoint.ofChar '/')) :
    rootOf t = .relative ∧ rootOf (CodePoint.ofChar '/' :: t) = .root
      ∧ rootOf (CodePoint.ofChar '/' :: CodePoint.ofChar '/' :: t) = .doubleRoot := by
  cases t with
  | nil => decide
  | cons c t =>
      have hc : c ≠ CodePoint.ofChar '/' := fun hsame => h (congrArg some hsame)
      refine ⟨?_, ?_, ?_⟩
      · cases t with
        | nil => simp [rootOf, hc]
        | cons d t => cases t <;> simp [rootOf, hc]
      · cases t <;> simp [rootOf, hc]
      · simp [rootOf, hc]

/-- Joined names do not begin with a slash: a name has none in it and is not
empty. -/
theorem head?_joinWith_ne {names : List Text} (h : ∀ name ∈ names, IsName name) :
    (Text.joinWith "/" names).head? ≠ some (CodePoint.ofChar '/') := by
  cases names with
  | nil => exact Option.some_ne_none _ |>.symm
  | cons name names =>
      have hname := h name List.mem_cons_self
      rw [Text.joinWith_cons]
      cases name with
      | nil => exact absurd rfl hname.proper
      | cons c name =>
          intro hc
          exact hname.whole (Option.some.inj hc ▸ List.mem_cons_self)

/-- The segments of joined names are the names, as long as none of them is a
single dot, which is left out. -/
theorem filter_splitOn_joinWith {names : List Text}
    (h : ∀ name ∈ names, IsName name ∧ isProper name = true) :
    (Text.splitOn '/' (Text.joinWith "/" names)).filter isProper = names := by
  cases names with
  | nil => rfl
  | cons name names =>
      rw [show ("/" : Text) = [CodePoint.ofChar '/'] from rfl,
        Text.splitOn_joinWith fun name hmem => (h name hmem).1.whole]
      exact List.filter_eq_self.mpr fun name hmem => (h name hmem).2

/-- A path of proper segments is told by its text: the slashes in front tell
its root, and those inside cut it into its segments. -/
theorem ofText_toText {p : Path} (h : ∀ name ∈ p.segments, IsName name ∧ isProper name = true) :
    ofText p.toText = p := by
  obtain ⟨start, segments⟩ := p
  obtain ⟨hrelative, hroot, hdouble⟩ := rootOf_of_head? (head?_joinWith_ne fun name hmem =>
    (h name hmem).1)
  have hsegments := filter_splitOn_joinWith h
  -- A slash in front gives an empty segment, and that is dropped.
  have hslash : ∀ t : Text, (Text.splitOn '/' (CodePoint.ofChar '/' :: t)).filter isProper
      = (Text.splitOn '/' t).filter isProper := by
    intro t
    rw [Text.splitOn, if_pos rfl]
    rfl
  rw [toText]
  split
  · next hdot =>
    obtain ⟨hstart, hnone⟩ := hdot
    dsimp only at hstart hnone
    subst hstart hnone
    decide
  · cases start with
    | relative =>
        show Path.mk (rootOf (Text.joinWith "/" segments)) _ = _
        rw [hrelative]
        exact congrArg (Path.mk .relative) hsegments
    | root =>
        show Path.mk (rootOf (CodePoint.ofChar '/' :: Text.joinWith "/" segments)) _ = _
        rw [hroot]
        exact congrArg (Path.mk .root) ((hslash _).trans hsegments)
    | doubleRoot =>
        show Path.mk (rootOf (CodePoint.ofChar '/' :: CodePoint.ofChar '/'
          :: Text.joinWith "/" segments)) _ = _
        rw [hdouble]
        exact congrArg (Path.mk .doubleRoot) ((hslash _).trans ((hslash _).trans hsegments))

/-- Reading the text of a path that was read gives the path again. -/
theorem ofText_toText_ofText (t : Text) : ofText (ofText t).toText = ofText t :=
  ofText_toText fun _ hmem => isName_of_mem_ofText hmem

/-- The text of a path that was read is not empty: nothing is the path to
where one is, and its text is a dot. -/
theorem toText_ofText_ne_nil (t : Text) : (ofText t).toText ≠ [] := by
  intro hnil
  have hpath := ofText_toText_ofText t
  rw [hnil] at hpath
  rw [← hpath] at hnil
  exact absurd hnil (by decide)

/-! ### Suffixes -/

/-- Without a dot there is nothing from the last dot on, so that a name
without one has no ending. -/
theorem fromLastDot_of_not_mem {name : Text} (h : CodePoint.ofChar '.' ∉ name) :
    fromLastDot name = none := by
  induction name with
  | nil => rfl
  | cons c name ih =>
      obtain ⟨hc, hname⟩ := not_or.mp fun hmem => h (List.mem_cons.mpr hmem)
      rw [fromLastDot, ih hname]
      exact if_neg fun hdot => hc hdot.symm

/-- What stands from the last dot on begins at the dot that no other
follows. Induction on what stands in front, which may hold further dots. -/
theorem fromLastDot_append (stem : Text) {letters : Text} (h : CodePoint.ofChar '.' ∉ letters) :
    fromLastDot (stem ++ CodePoint.ofChar '.' :: letters)
      = some (CodePoint.ofChar '.' :: letters) := by
  induction stem with
  | nil =>
      rw [List.nil_append, fromLastDot, fromLastDot_of_not_mem h]
      exact if_pos rfl
  | cons c stem ih => rw [List.cons_append, fromLastDot, ih]

/-- A name with a dot has a last one. Induction on the name: if the rest has
a dot, the last one is there, and otherwise it is the first code point. -/
theorem exists_last_dot {name : Text} (h : CodePoint.ofChar '.' ∈ name) :
    ∃ stem letters, name = stem ++ CodePoint.ofChar '.' :: letters
      ∧ CodePoint.ofChar '.' ∉ letters := by
  induction name with
  | nil => exact absurd h List.not_mem_nil
  | cons c name ih =>
      by_cases hname : CodePoint.ofChar '.' ∈ name
      · obtain ⟨stem, letters, rfl, hletters⟩ := ih hname
        exact ⟨c :: stem, letters, rfl, hletters⟩
      · obtain rfl := (List.mem_cons.mp h).resolve_right hname
        exact ⟨[], name, rfl, hname⟩

/-- A name has a suffix if it goes on behind its last dot, and before it. So
neither a hidden file without a dot further on nor a dot at the end makes
one. -/
theorem suffixOf_append {stem letters : Text} (hstem : stem ≠ [])
    (hsome : letters ≠ []) (hletters : CodePoint.ofChar '.' ∉ letters) :
    suffixOf (stem ++ CodePoint.ofChar '.' :: letters) = CodePoint.ofChar '.' :: letters := by
  have hfront := List.length_pos_iff.mpr hstem
  have hbehind := List.length_pos_iff.mpr hsome
  rw [suffixOf, fromLastDot_append stem hletters]
  refine if_neg ?_
  rw [List.length_append, List.length_cons]
  omega

/-- What counts as the suffix of a name begins with its last dot, which does
not stand in front of the name. -/
theorem exists_of_suffixOf {name : Text} (h : suffixOf name ≠ []) :
    ∃ stem letters, name = stem ++ CodePoint.ofChar '.' :: letters ∧ stem ≠ []
      ∧ CodePoint.ofChar '.' ∉ letters ∧ suffixOf name = CodePoint.ofChar '.' :: letters := by
  by_cases hdot : CodePoint.ofChar '.' ∈ name
  · obtain ⟨stem, letters, rfl, hletters⟩ := exists_last_dot hdot
    rw [suffixOf, fromLastDot_append stem hletters] at h ⊢
    dsimp only at h ⊢
    split at h
    · exact absurd rfl h
    · next hlong =>
      refine ⟨stem, letters, rfl, ?_, hletters, if_neg hlong⟩
      rintro rfl
      exact hlong (.inl rfl)
  · rw [suffixOf, fromLastDot_of_not_mem hdot] at h
    exact absurd rfl h

end Path

namespace Language

/-- A name with a known suffix: from its last dot on, in small letters, it
is in the table, and something stands before that dot. -/
def HasKnownSuffix (name : Text) : Prop :=
  ∃ stem letters, name = stem ++ CodePoint.ofChar '.' :: letters ∧ stem ≠ []
    ∧ CodePoint.ofChar '.' ∉ letters
    ∧ Text.toSmall (CodePoint.ofChar '.' :: letters) ∈ table.map Prod.fst

/-- The suffixes that tell a language are those of the table, in small or
capital letters. -/
theorem isSome_ofSuffix?_iff (suffix : Text) :
    (ofSuffix? suffix).isSome = true ↔ suffix.toSmall ∈ table.map Prod.fst := by
  rw [ofSuffix?, Option.isSome_map, List.find?_isSome, List.mem_map]
  simp only [beq_iff_eq]

/-- A path has a known suffix if its name has, in small or capital letters.
The folders on the way do not count. -/
theorem isSupported_iff (p : Path) : isSupported p = true ↔ HasKnownSuffix p.name := by
  have hnone : Text.toSmall [] ∉ table.map Prod.fst := by decide
  have hdot : Text.toSmall [CodePoint.ofChar '.'] ∉ table.map Prod.fst := by decide
  rw [isSupported, isSome_ofSuffix?_iff, Path.suffix]
  constructor
  · intro hknown
    have hsome : Path.suffixOf p.name ≠ [] := fun h => hnone (h ▸ hknown)
    obtain ⟨stem, letters, hname, hstem, hletters, hsuffix⟩ := Path.exists_of_suffixOf hsome
    exact ⟨stem, letters, hname, hstem, hletters, hsuffix ▸ hknown⟩
  · rintro ⟨stem, letters, hname, hstem, hletters, hknown⟩
    have hsome : letters ≠ [] := by
      rintro rfl
      exact hdot hknown
    rwa [hname, Path.suffixOf_append hstem hsome hletters]

end Language

/-! ### Order -/

/-- Code points by their numbers. -/
abbrev CodePoint.Before (c d : CodePoint) : Prop := c.val < d.val

/-- Texts by their code points, the shorter first when one begins the
other. -/
abbrev Text.Before : Text → Text → Prop := List.Lex CodePoint.Before

/-- Lists of segments by their segments. -/
abbrev Path.Before : List Text → List Text → Prop := List.Lex Text.Before

instance : Std.Asymm CodePoint.Before :=
  ⟨fun _ _ h h' => Nat.lt_asymm h h'⟩

instance : Std.Trichotomous CodePoint.Before where
  trichotomous c d hcd hdc := by
    obtain ⟨m, hm⟩ := c
    obtain ⟨n, hn⟩ := d
    obtain rfl : m = n := Nat.le_antisymm (Nat.le_of_not_lt hdc) (Nat.le_of_not_lt hcd)
    rfl

instance : IsOrderConnected CodePoint CodePoint.Before where
  conn a b c h := by
    have hac : a.val < c.val := h
    show a.val < b.val ∨ b.val < c.val
    omega

/-- The test for the order of texts decides it. The order is by code points,
the first that differ. -/
theorem Text.lt_iff (s t : Text) : Text.lt s t = true ↔ Text.Before s t := by
  induction s generalizing t with
  | nil =>
      cases t with
      | nil => exact ⟨(nomatch ·), (nomatch ·)⟩
      | cons b t => exact ⟨fun _ => .nil, fun _ => rfl⟩
  | cons a s ih =>
      cases t with
      | nil => exact ⟨(nomatch ·), (nomatch ·)⟩
      | cons b t =>
          have hsame : a.val = b.val ↔ a = b :=
            ⟨fun h => by cases a; cases b; subst h; rfl, congrArg CodePoint.val⟩
          refine Iff.trans ?_ List.cons_lex_cons_iff.symm
          rw [Text.lt, Bool.or_eq_true, Bool.and_eq_true, ih, decide_eq_true_iff, beq_iff_eq, hsame]

/-- The test for the order of paths decides it. They are ordered by the
first segments that differ, and a path comes before all that go on from it.
Induction on the segments. -/
theorem Path.segmentsLt_iff (s t : List Text) :
    Path.segmentsLt s t = true ↔ Path.Before s t := by
  induction s generalizing t with
  | nil =>
      cases t with
      | nil => exact ⟨(nomatch ·), (nomatch ·)⟩
      | cons b t => exact ⟨fun _ => .nil, fun _ => rfl⟩
  | cons a s ih =>
      cases t with
      | nil => exact ⟨(nomatch ·), (nomatch ·)⟩
      | cons b t =>
          refine Iff.trans ?_ List.cons_lex_cons_iff.symm
          rw [Path.segmentsLt, Bool.or_eq_true, Bool.and_eq_true, ih, Text.lt_iff, beq_iff_eq]

end DocScribe
