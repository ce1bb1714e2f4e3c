import DocScribe.Document.Markdown

/-!
# `DocScribe.Proofs.Document.Delimiters`: delimiters that fit their code

Code in Markdown stands between two runs of backticks. So that nothing
in the code is taken for the second one, it is as long as no run in the
code is, and no longer than it has to be (`sizedTo_of_longestRun`).
-/

set_option autoImplicit false

namespace DocScribe.Markdown

/-- A text without `c` stands in a text with `c` in the middle, if in a
part of it. -/
theorem infix_append_cons_iff {w a b : Text} {c : CodePoint} (hc : c ∉ w) :
    w <:+: a ++ c :: b ↔ w <:+: a ∨ w <:+: b := by
  constructor
  · rintro ⟨s, t, hst⟩
    rw [List.append_assoc] at hst
    rcases List.append_eq_append_iff.mp hst with ⟨x, hx, hw⟩ | ⟨x, rfl, hx⟩
    · -- It begins in `a`, and cannot reach over `c`.
      rcases List.append_eq_append_iff.mp hw with ⟨y, rfl, -⟩ | ⟨y, rfl, hy⟩
      · exact .inl ⟨s, y, by rw [hx, List.append_assoc]⟩
      · cases y with
        | nil => exact .inl ⟨s, [], by rw [hx, List.append_nil, List.append_nil]⟩
        | cons d y =>
            obtain ⟨rfl, -⟩ := List.cons.inj hy
            exact absurd (List.mem_append_right x List.mem_cons_self) hc
    · -- It begins at `c` or behind it.
      cases x with
      | nil =>
          cases w with
          | nil => exact .inl (List.nil_infix)
          | cons d w =>
              obtain ⟨rfl, -⟩ := List.cons.inj hx
              exact absurd List.mem_cons_self hc
      | cons d x =>
          obtain ⟨-, rfl⟩ := List.cons.inj hx
          exact .inr ⟨x, t, List.append_assoc x w t⟩
  · rintro (h | h)
    · exact h.trans (List.prefix_append a (c :: b)).isInfix
    · exact h.trans ((List.suffix_cons c b).trans (List.suffix_append a (c :: b))).isInfix

/-- A run stands in every run that is as long or longer, and in no other. So
a fence that is longer than all runs in a code occurs nowhere in it. -/
theorem backticks_infix_backticks (m n : Nat) : backticks m <:+: backticks n ↔ m ≤ n := by
  constructor
  · intro h
    simpa [backticks] using h.length_le
  · intro h
    refine ⟨[], backticks (n - m), ?_⟩
    rw [List.nil_append, backticks, backticks, List.replicate_append_replicate,
      Nat.add_sub_cancel' h, backticks]

/-- The runs in a text that follows on a run. Induction on the text, for
all lengths of that run. -/
theorem backticks_infix_iff (run m : Nat) (t : Text) :
    backticks m <:+: backticks run ++ t ↔ m ≤ longestRunFrom run t := by
  induction t generalizing run with
  | nil => rw [List.append_nil, longestRunFrom, backticks_infix_backticks]
  | cons c t ih =>
      rw [longestRunFrom]
      split
      · next hc =>
        -- The run goes on.
        have hrun : backticks run ++ c :: t = backticks (run + 1) ++ t := by
          rw [hc, backticks, backticks, List.replicate_succ', List.append_assoc]
          rfl
        rw [hrun, ih]
      · next hc =>
        have hmem : c ∉ backticks m := fun h => hc (List.eq_of_mem_replicate h)
        have hbehind : backticks m <:+: t ↔ m ≤ longestRunFrom 0 t := ih 0
        rw [infix_append_cons_iff hmem, backticks_infix_backticks, hbehind]
        omega

/-- Runs of `n` backticks are sized to code if they are the shortest, of
those that are `least` long or longer, that do not stand in the code. -/
def SizedTo (least : Nat) (code : Text) (n : Nat) : Prop :=
  ∀ m, n ≤ m ↔ least ≤ m ∧ ¬ backticks m <:+: code

/-- A run of backticks that is longer than the longest one inside, and as
long as it has to be at least, is sized to the code: none of the runs inside
is as long. -/
theorem sizedTo_of_longestRun (least : Nat) (code : Text) :
    SizedTo least code (max least (longestRun code + 1)) := by
  intro m
  have hruns : backticks m <:+: code ↔ m ≤ longestRun code := backticks_infix_iff 0 m code
  rw [hruns]
  omega

/-- Code within a line stands between runs that are sized to it, with a
blank on both sides or on none. Without a backtick in the code a single one
is enough. -/
theorem exists_code_eq (t : Text) : ∃ n pad, SizedTo 1 t n ∧ (pad = [] ∨ pad = " ")
    ∧ code t = backticks n ++ pad ++ t ++ pad ++ backticks n := by
  have hsized := sizedTo_of_longestRun 1 t
  rw [code]
  split
  · next hzero =>
    rw [hzero] at hsized
    refine ⟨1, [], hsized, .inl rfl, ?_⟩
    simp [backticks]
  · next hsome =>
    rw [Nat.max_eq_right (by omega)] at hsized
    exact ⟨longestRun t + 1, " ", hsized, .inr rfl, rfl⟩

end DocScribe.Markdown
