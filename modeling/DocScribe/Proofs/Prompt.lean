import DocScribe.Prompt
import DocScribe.Proofs.Text.Joining
import Mathlib.Data.List.Basic

/-!
# `DocScribe.Proofs.Prompt`: what a prompt tells about its inputs

A source is put into a prompt as it is, and it may hold fences, the
closing lines of a prompt or a whole prompt. The fixed text around it
still tells where it begins and where it ends: the language stands on
the first line, which is the text up to the first line feed, and all
that is behind the source has one of two forms, which differ a fixed
distance from the end.

`build_eq_iff` is the main statement: a prompt determines the source,
the language and the choice about examples, and that choice shows in
one line.
-/

set_option autoImplicit false

namespace DocScribe.Prompt

open Text (separated)

/-- Two texts with the same lines up to one, which is not the same. -/
def DifferInOneLine (s t : Text) : Prop :=
  ∃ before line line' after,
    Text.splitOn CodePoint.lineFeed s = before ++ line :: after ∧
      Text.splitOn CodePoint.lineFeed t = before ++ line' :: after ∧ line ≠ line'

/-! ### A prompt in parts -/

/-- The first line, which names the language in a sentence. -/
def firstLine (language : Text) : Text :=
  "You are a professional API documentation generator. Analyze the following " ++ language
    ++ " code and generate comprehensive API documentation."

/-- The lines from the first one to the source. -/
def fenceLines (language : Text) : List Text := ["", "Code to analyze:", "```" ++ language]

/-- The lines from the source to the one about examples. -/
def requestLines : List Text :=
  ["```", "", "Please provide a JSON response with the following structure:", Schema.text, "",
    "Requirements:", "- Be thorough and professional",
    "- Include clear descriptions for all elements"]

/-- The lines behind the one about examples. -/
def closingLines : List Text :=
  ["- Focus on public APIs and interfaces", "- Use proper technical terminology",
    "- Explain complex concepts clearly", "- Use empty lists for categories with no entries", "",
    "Respond only with valid JSON."]

/-- Everything behind the source. -/
def tail (includeExamples : Bool) : Text :=
  separated "\n" requestLines ++ CodePoint.lineFeed ::
    (examplesLine includeExamples ++ separated "\n" closingLines)

/-- The first separator of a text tells what is before it and what is
behind it. -/
theorem append_lineFeed_inj {a a' b b' : Text} (ha : CodePoint.lineFeed ∉ a)
    (ha' : CodePoint.lineFeed ∉ a')
    (h : a ++ CodePoint.lineFeed :: b = a' ++ CodePoint.lineFeed :: b') : a = a' ∧ b = b' := by
  induction a generalizing a' with
  | nil =>
      cases a' with
      | nil => exact ⟨rfl, (List.cons_eq_cons.mp h).2⟩
      | cons c a' => exact absurd ((List.cons_eq_cons.mp h).1 ▸ List.mem_cons_self) ha'
  | cons c a ih =>
      cases a' with
      | nil => exact absurd ((List.cons_eq_cons.mp h).1 ▸ List.mem_cons_self) ha
      | cons c' a' =>
          obtain ⟨rfl, hrest⟩ := List.cons_eq_cons.mp h
          obtain ⟨rfl, rfl⟩ := ih (fun hmem => ha (List.mem_cons_of_mem _ hmem))
            (fun hmem => ha' (List.mem_cons_of_mem _ hmem)) hrest
          exact ⟨rfl, rfl⟩

/-- Lines behind a first one are behind a line feed. -/
theorem separated_lineFeed (line : Text) (lines : List Text) :
    separated "\n" (line :: lines) = CodePoint.lineFeed :: Text.joinWith "\n" (line :: lines) := by
  rw [Text.joinWith_cons]
  rfl

/-- A prompt is cut at its line feeds into the line with the language, the
lines around the code, the code, and a tail that depends on whether examples
are asked for. Everything else in it is the same for all prompts. -/
theorem build_eq (code language : Text) (options : PromptOptions) :
    build code language options =
      firstLine language ++ CodePoint.lineFeed ::
        (Text.joinWith "\n" (fenceLines language) ++ CodePoint.lineFeed ::
          (code ++ tail options.includeExamples)) := by
  show Text.joinWith "\n" (firstLine language :: (fenceLines language ++ code ::
    (requestLines ++ examplesLine options.includeExamples :: closingLines))) = _
  have hfence : separated "\n" (fenceLines language) =
      CodePoint.lineFeed :: Text.joinWith "\n" (fenceLines language) := separated_lineFeed _ _
  rw [Text.joinWith_cons, separated, List.flatMap_append, ← separated, hfence, tail]
  simp only [separated, List.flatMap_append, List.flatMap_cons, List.append_assoc, List.cons_append]
  rfl

/-! ### The first line -/

/-- If the language is one line, so is the first line of the prompt: the
words around the language hold no line feed. -/
theorem lineFeed_notMem_firstLine {language : Text} (h : CodePoint.lineFeed ∉ language) :
    CodePoint.lineFeed ∉ firstLine language := by
  intro hmem
  rcases List.mem_append.mp hmem with hmem | hmem
  · rcases List.mem_append.mp hmem with hmem | hmem
    · exact absurd hmem (by decide +kernel)
    · exact h hmem
  · exact absurd hmem (by decide +kernel)

/-- The first line tells the language, as the words around it are always the
same. -/
theorem firstLine_injective : Function.Injective firstLine := by
  intro language language' h
  exact List.append_cancel_left (List.append_cancel_right h)

/-! ### The text behind the source -/

/-- The last letter before the words that both forms of the line about
examples end in. -/
def examplesLetter (includeExamples : Bool) : CodePoint := if includeExamples then 'l' else 'p'

/-- The line about examples differs in one letter, behind the same start.
The rest of it is the same again. -/
theorem examplesLine_eq (includeExamples : Bool) :
    ∃ start : Text, examplesLine includeExamples =
      start ++ examplesLetter includeExamples :: (" code examples" : Text) := by
  cases includeExamples with
  | true => exact ⟨"- Include practica", rfl⟩
  | false => exact ⟨"- Ski", rfl⟩

/-- Two sources with the same text in all are the same, and so is what
is asked about examples. Neither the sources nor the texts behind them
are as long as each other at first; both ends are counted from the
back. -/
theorem append_tail_inj {code code' : Text} {b b' : Bool} (h : code ++ tail b = code' ++ tail b') :
    code = code' ∧ b = b' := by
  -- Behind the letter that tells the lines about examples apart, both texts are the same.
  have hflag : b = b' := by
    obtain ⟨start, hline⟩ := examplesLine_eq b
    obtain ⟨start', hline'⟩ := examplesLine_eq b'
    rw [tail, tail, hline, hline'] at h
    have hfront : (code ++ separated "\n" requestLines ++ CodePoint.lineFeed :: start) ++
          examplesLetter b ::
            ((" code examples" : Text) ++ separated "\n" closingLines) =
        (code' ++ separated "\n" requestLines ++ CodePoint.lineFeed :: start') ++
          examplesLetter b' ::
            ((" code examples" : Text) ++ separated "\n" closingLines) := by
      simpa only [List.append_assoc, List.cons_append] using h
    have hletter : examplesLetter b = examplesLetter b' :=
      (List.cons_eq_cons.mp (List.append_inj_right' hfront rfl)).1
    revert hletter
    cases b <;> cases b' <;> decide
  subst hflag
  exact ⟨List.append_cancel_right h, rfl⟩

/-! ### Lines -/

/-- The line about examples is one line, whether they are asked for or
not. -/
theorem lineFeed_notMem_examplesLine (b : Bool) : CodePoint.lineFeed ∉ examplesLine b := by
  cases b <;> decide +kernel

/-- The line about examples tells whether they are asked for. -/
theorem examplesLine_injective : Function.Injective examplesLine := by
  intro b b'
  cases b <;> cases b' <;> decide

/-- The lines of a prompt around the one about examples are the same for
both ways of asking. Cutting at line feeds, the code may bring in any number
of lines in front of that one. -/
theorem splitOn_build (code language : Text) :
    ∃ before after, ∀ options : PromptOptions,
      Text.splitOn CodePoint.lineFeed (build code language options) =
        before ++ examplesLine options.includeExamples :: after := by
  refine ⟨Text.splitOn CodePoint.lineFeed (firstLine language ++ CodePoint.lineFeed ::
      (Text.joinWith "\n" (fenceLines language) ++ CodePoint.lineFeed ::
        (code ++ separated "\n" requestLines))),
    Text.splitOn CodePoint.lineFeed (Text.joinWith "\n" closingLines), fun options => ?_⟩
  have hclosing : separated "\n" closingLines =
      CodePoint.lineFeed :: Text.joinWith "\n" closingLines := separated_lineFeed _ _
  have hparts : build code language options =
      (firstLine language ++ CodePoint.lineFeed ::
        (Text.joinWith "\n" (fenceLines language) ++ CodePoint.lineFeed ::
          (code ++ separated "\n" requestLines))) ++ CodePoint.lineFeed ::
        (examplesLine options.includeExamples ++
          CodePoint.lineFeed :: Text.joinWith "\n" closingLines) := by
    rw [build_eq, tail, hclosing]
    simp only [List.append_assoc, List.cons_append]
  rw [hparts, Text.splitOn_append_cons _ _ (examplesLine _ ++ _), Text.splitOn_append_cons _
    (examplesLine _), Text.splitOn_of_not_mem (lineFeed_notMem_examplesLine _),
    List.singleton_append]

/-! ### The inputs of a prompt -/

/-- Two prompts are the same exactly if the source, the language and
the choice about examples are, whatever the sources hold and whatever
paths the options name. The language is a label on one line. For one
source and one language the two choices give prompts that differ in
one line. -/
theorem build_eq_iff (code code' language language' : Text) (options options' : PromptOptions) :
    (CodePoint.lineFeed ∉ language → CodePoint.lineFeed ∉ language' →
      (build code language options = build code' language' options' ↔
        code = code' ∧ language = language' ∧
          options.includeExamples = options'.includeExamples)) ∧
      (options.includeExamples ≠ options'.includeExamples →
        DifferInOneLine (build code language options) (build code language options')) := by
  refine ⟨fun hlanguage hlanguage' => ⟨fun h => ?_, ?_⟩, fun hflag => ?_⟩
  · rw [build_eq, build_eq] at h
    -- The language is read off the first line, which is cut off then.
    obtain ⟨hfirst, hrest⟩ := append_lineFeed_inj (lineFeed_notMem_firstLine hlanguage)
      (lineFeed_notMem_firstLine hlanguage') h
    obtain rfl : language = language' := firstLine_injective hfirst
    have hcode : code ++ tail options.includeExamples = code' ++ tail options'.includeExamples :=
      (List.cons_eq_cons.mp (List.append_cancel_left hrest)).2
    obtain ⟨rfl, hexamples⟩ := append_tail_inj hcode
    exact ⟨rfl, rfl, hexamples⟩
  · rintro ⟨rfl, rfl, hexamples⟩
    rw [build_eq, build_eq, hexamples]
  · obtain ⟨before, after, hlines⟩ := splitOn_build code language
    exact ⟨before, _, _, after, hlines options, hlines options',
      fun h => hflag (examplesLine_injective h)⟩

/-- A source that closes its fence and goes on as a prompt does, next
to the one that ends where it closes the fence. -/
theorem build_ne_build_closing :
    (CodePoint.lineFeed ∉ ("python" : Text) ∧
      build "x = 1\n```\n\nRespond only with valid JSON." "python" ⟨true, "a.py"⟩ ≠
        build "x = 1" "python" ⟨true, "a.py"⟩) ∧
      true ≠ false ∧
        DifferInOneLine (build "x = 1\n```" "python" ⟨true, "a.py"⟩)
          (build "x = 1\n```" "python" ⟨false, "b.py"⟩) := by
  have hlabel : CodePoint.lineFeed ∉ ("python" : Text) := by decide
  have hpair := (build_eq_iff "x = 1\n```\n\nRespond only with valid JSON." "x = 1" "python"
    "python" ⟨true, "a.py"⟩ ⟨true, "a.py"⟩).1 hlabel hlabel
  have hline := (build_eq_iff "x = 1\n```" "x = 1\n```" "python" "python"
    ⟨true, "a.py"⟩ ⟨false, "b.py"⟩).2
  exact ⟨⟨hlabel, fun h => absurd (hpair.mp h).1 (by decide)⟩, by decide, hline (by decide)⟩

end DocScribe.Prompt
