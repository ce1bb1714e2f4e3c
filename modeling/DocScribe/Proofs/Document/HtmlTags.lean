import DocScribe.Document.Html
import DocScribe.Proofs.Document.Nesting
import DocScribe.Proofs.Document.Outline
import DocScribe.Proofs.Document.Tags
import DocScribe.Proofs.Text.Digits
import Mathlib.Data.List.Forall2

/-!
# `DocScribe.Proofs.Document.HtmlTags`: no text of a page is taken for markup

The tags of a page are the tags of its blocks, and those can be listed
without a look at any text (`blockTags`): escaped text starts no tag.
From the list two facts are read off. Pages of files of the same shape
have the same tags, whatever their texts are. And the tags of every
page are well nested, since the blocks of a file nest.
-/

set_option autoImplicit false

namespace DocScribe.Html

open Block

/-! ### Text -/

/-- Escaped text holds neither the start nor the end of a tag: both are
among the marks that are replaced, and nothing that they are replaced by
holds one. -/
theorem not_mem_escape (t : Text) : tagStart ∉ escape t ∧ tagEnd ∉ escape t := by
  have hchar : ∀ c, ∀ x ∈ escapeChar c, x ≠ tagStart ∧ x ≠ tagEnd := by
    intro c
    rw [escapeChar]
    split
    · decide
    split
    · decide
    split
    · decide
    split
    · decide
    split
    · decide
    · -- Behind the marks that are escaped, a code point stands for itself.
      next hstart hend _ _ =>
      intro x hx
      rw [List.mem_singleton.mp hx]
      exact ⟨hstart, hend⟩
  refine ⟨fun h => ?_, fun h => ?_⟩
  · obtain ⟨c, _, hc⟩ := List.mem_flatMap.mp h
    exact (hchar c _ hc).1 rfl
  · obtain ⟨c, _, hc⟩ := List.mem_flatMap.mp h
    exact (hchar c _ hc).2 rfl

/-- So escaped text has no tags. -/
theorem hasTags_escape (t : Text) : HasTags (escape t) [] :=
  hasTags_plain (not_mem_escape t).1

/-- Fixed words start no tag. -/
theorem plain_of_mem_vocabulary : ∀ t ∈ vocabulary, Plain t := by decide

/-- The digits of a level neither start nor end a tag. -/
theorem not_mem_ofNat (n : Nat) : tagStart ∉ Text.ofNat n ∧ tagEnd ∉ Text.ofNat n := by
  refine ⟨fun h => ?_, fun h => ?_⟩
  · exact absurd (Text.isDigit_of_mem_ofNat n _ h) (by decide)
  · exact absurd (Text.isDigit_of_mem_ofNat n _ h) (by decide)

/-! ### The tags of blocks -/

def openTag (name : Text) : Text := tagStart :: (name ++ [tagEnd])

def closeTag (name : Text) : Text := tagStart :: CodePoint.ofChar '/' :: (name ++ [tagEnd])

/-- The tags of an element with tags inside it. -/
def element (name : Text) (inside : List Text) : List Text :=
  openTag name :: inside ++ [closeTag name]

def spanTags : Span → List Text
  | .words _ => []
  | .text _ => []
  | .code _ => element "code" []

def inlineTags (content : Inline) : List Text := content.flatMap spanTags

def headingName (level : Nat) : Text := CodePoint.ofChar 'h' :: Text.ofNat level

/-- What is in the tag in front of a block of code. -/
def languageName (language : Text) : Text := "code class=\"language-" ++ escape language ++ "\""

/-- What is in the tag in front of an entry. -/
def entryName (kind : EntryKind) : Text := "div class=\"" ++ kind.word ++ "\""

/-- The tags of a block. -/
def blockTags : Block → List Text
  | .fileStart => [openTag "section class=\"file\""]
  | .fileEnd => [closeTag "section"]
  | .entryStart kind => [openTag (entryName kind)]
  | .entryEnd => [closeTag "div"]
  | .heading level content => element (headingName level) (inlineTags content)
  | .paragraph content => element "p" (inlineTags content)
  | .label _ => element "p" (element "strong" [])
  | .field _ content => element "p" (element "strong" [] ++ inlineTags content)
  | .bullets items => element "ul" (items.flatMap fun item => element "li" (inlineTags item))
  | .codeBlock _ language => element "pre" [openTag (languageName language), closeTag "code"]
  | .separator => []

/-- A name of a tag, with its attributes. -/
theorem hasTags_openTag {name : Text} (hstart : tagStart ∉ name) (hend : tagEnd ∉ name) :
    HasTags (openTag name) [openTag name] :=
  hasTags_tag hstart hend

/-- The end of an element is one tag if its name has no angle brackets in
it. -/
theorem hasTags_closeTag {name : Text} (hstart : tagStart ∉ name) (hend : tagEnd ∉ name) :
    HasTags (closeTag name) [closeTag name] := by
  have hstart' : tagStart ∉ CodePoint.ofChar '/' :: name := by
    rw [List.mem_cons, not_or]
    exact ⟨by decide, hstart⟩
  have hend' : tagEnd ∉ CodePoint.ofChar '/' :: name := by
    rw [List.mem_cons, not_or]
    exact ⟨by decide, hend⟩
  exact hasTags_tag hstart' hend'

/-- A piece between the tags of an element and a line break. Its tags are
those of the piece with one in front and one behind. -/
theorem hasTags_element {name inside : Text} {ts : List Text} (hstart : tagStart ∉ name)
    (hend : tagEnd ∉ name) (h : HasTags inside ts) {gap : Text} (hgap : Plain gap) :
    HasTags (openTag name ++ inside ++ (closeTag name ++ gap)) (element name ts) := by
  have hclose := (hasTags_closeTag hstart hend).append (hasTags_plain hgap)
  have hall := ((hasTags_openTag hstart hend).append h).append hclose
  simpa [element] using hall

/-- A stretch of a line has tags around it if it is code, and none
otherwise: its text is escaped, and fixed words are plain. -/
theorem hasTags_span {s : Span} (h : IsKnownSpan s) : HasTags (span s) (spanTags s) := by
  cases s with
  | words t => exact hasTags_plain (plain_of_mem_vocabulary t h)
  | text t => exact hasTags_escape t
  | code t =>
      have hcode : HasTags (openTag "code" ++ escape t ++ (closeTag "code" ++ [])) _ :=
        hasTags_element (by decide) (by decide) (hasTags_escape t) (by decide)
      rwa [List.append_nil] at hcode

/-- The tags of a line are those of its stretches, one after the other. -/
theorem hasTags_inline {content : Inline} (h : IsKnown content) :
    HasTags (inline content) (inlineTags content) :=
  .flatMap fun s hs => hasTags_span (h s hs)

/-- A heading has its content between the tags of its level, which are named
for the digits of it. -/
theorem hasTags_heading (level : Nat) {content : Inline} (h : IsKnown content) :
    HasTags (block (.heading level content)) (blockTags (.heading level content)) := by
  obtain ⟨hstart, hend⟩ := not_mem_ofNat level
  have hstart' : tagStart ∉ headingName level := by
    rw [headingName, List.mem_cons, not_or]
    exact ⟨by decide, hstart⟩
  have hend' : tagEnd ∉ headingName level := by
    rw [headingName, List.mem_cons, not_or]
    exact ⟨by decide, hend⟩
  have hline : Plain "\n" := by decide
  have hpiece := hasTags_element hstart' hend' (hasTags_inline h) hline
  have heq : block (.heading level content) = openTag (headingName level) ++ inline content
      ++ (closeTag (headingName level) ++ "\n") := by
    simp only [block, openTag, closeTag, headingName, List.append_assoc, List.cons_append]
    rfl
  rw [heq]
  exact hpiece

/-- A block of code has two tags in front and two behind, and none in
between, whatever the code is. The language stands in an attribute, escaped
like everything else. -/
theorem hasTags_codeBlock (code language : Text) :
    HasTags (codeBlock code language) (blockTags (.codeBlock code language)) := by
  obtain ⟨hstart, hend⟩ := not_mem_escape language
  have hstart' : tagStart ∉ languageName language := by
    rw [languageName, List.mem_append, List.mem_append, not_or, not_or]
    exact ⟨⟨by decide, hstart⟩, by decide⟩
  have hend' : tagEnd ∉ languageName language := by
    rw [languageName, List.mem_append, List.mem_append, not_or, not_or]
    exact ⟨⟨by decide, hend⟩, by decide⟩
  have hpre : HasTags "<pre>" [openTag "pre"] := ⟨by decide, by decide⟩
  have hclose : HasTags "</code></pre>\n" [closeTag "code", closeTag "pre"] :=
    ⟨by decide, by decide⟩
  have hpiece := ((hpre.append (hasTags_openTag hstart' hend')).append
    (hasTags_escape code.trimEnd)).append hclose
  -- The language stands inside a tag: escaped, it cannot end the tag.
  have heq : codeBlock code language = "<pre>" ++ openTag (languageName language)
      ++ escape code.trimEnd ++ "</code></pre>\n" := by
    simp only [codeBlock, openTag, languageName, List.append_assoc, List.cons_append]
    rfl
  rw [heq]
  exact hpiece

/-- The text of a leaf has the tags of the leaf. One case for each kind of
block: fixed words and escaped text are plain, so the tags are those that
the markup writes around them. -/
theorem hasTags_leaf {b : Block} (h : b.IsLeaf) : HasTags (block b) (blockTags b) := by
  cases b with
  | heading level content => exact hasTags_heading level h
  | paragraph content =>
      have hopen : HasTags "<p>" [openTag "p"] := ⟨by decide, by decide⟩
      have hclose : HasTags "</p>\n" [closeTag "p"] := ⟨by decide, by decide⟩
      exact (hopen.append (hasTags_inline h)).append hclose
  | label name =>
      have hopen : HasTags "<p><strong>" [openTag "p", openTag "strong"] :=
        ⟨by decide, by decide⟩
      have hclose : HasTags ":</strong></p>\n" [closeTag "strong", closeTag "p"] :=
        ⟨by decide, by decide⟩
      exact (hopen.append (hasTags_escape name)).append hclose
  | field name content =>
      have hopen : HasTags "<p><strong>" [openTag "p", openTag "strong"] :=
        ⟨by decide, by decide⟩
      have hcolon : HasTags ":</strong> " [closeTag "strong"] := ⟨by decide, by decide⟩
      have hclose : HasTags "</p>\n" [closeTag "p"] := ⟨by decide, by decide⟩
      exact (((hopen.append (hasTags_escape name)).append hcolon).append
        (hasTags_inline h)).append hclose
  | bullets items =>
      -- The list is one element, and each of its items is one in it.
      have hopen : HasTags "<ul>\n" [openTag "ul"] := ⟨by decide, by decide⟩
      have hclose : HasTags "</ul>\n" [closeTag "ul"] := ⟨by decide, by decide⟩
      have hitem : ∀ item ∈ items, HasTags (bullet item) (element "li" (inlineTags item)) := by
        intro item hitem
        have hli : HasTags "    <li>" [openTag "li"] := ⟨by decide, by decide⟩
        have hli' : HasTags "</li>\n" [closeTag "li"] := ⟨by decide, by decide⟩
        exact (hli.append (hasTags_inline (h item hitem))).append hli'
      exact (hopen.append (.flatMap hitem)).append hclose
  | codeBlock code language => exact hasTags_codeBlock code language
  | separator => exact hasTags_plain (by decide)
  | fileStart => exact h.elim
  | fileEnd => exact h.elim
  | entryStart kind => exact h.elim
  | entryEnd => exact h.elim

/-- The text of nested blocks has the tags of the blocks. Induction on how
they nest; an entry has its tags around those of its content. -/
theorem hasTags_nested {bs : List Block} (h : Nested bs) :
    HasTags (bs.flatMap block) (bs.flatMap blockTags) := by
  induction h with
  | nil => exact ⟨rfl, rfl⟩
  | leaf h => simpa using hasTags_leaf h
  | append _ _ ihb ihc =>
      rw [List.flatMap_append, List.flatMap_append]
      exact ihb.append ihc
  | entry kind _ ih =>
      have hopen : HasTags (block (.entryStart kind)) [openTag (entryName kind)] := by
        cases kind <;> exact ⟨by decide, by decide⟩
      have hclose : HasTags (block .entryEnd) (blockTags .entryEnd) := ⟨by decide, by decide⟩
      rw [List.flatMap_append, List.flatMap_append, List.flatMap_singleton,
        List.flatMap_singleton, List.flatMap_cons, List.flatMap_cons]
      exact (hopen.append ih).append hclose
  | file _ ih =>
      have hopen : HasTags "<section class=\"file\">\n" [openTag "section class=\"file\""] :=
        ⟨by decide, by decide⟩
      have hclose : HasTags (block .fileEnd) (blockTags .fileEnd) := ⟨by decide, by decide⟩
      rw [List.flatMap_append, List.flatMap_append, List.flatMap_singleton,
        List.flatMap_singleton, List.flatMap_cons, List.flatMap_cons]
      exact (hopen.append ih).append hclose

/-! ### Tags without texts -/

/-- The tags of a line do not depend on the texts in it: there are two for
each stretch of code, and none for the rest. -/
theorem inlineTags_outlineLine (content : Inline) :
    inlineTags (outlineLine content) = inlineTags content := by
  induction content with
  | nil => rfl
  | cons s content ih =>
      show spanTags s.outline ++ inlineTags (outlineLine content) = _
      rw [ih]
      cases s <;> rfl

/-- The tags of a block do not depend on its texts. A block of code brings
in its language, but inside of an attribute, where no tag is told from
it. -/
theorem blockTags_outline (b : Block) : blockTags b.outline = blockTags b := by
  cases b with
  | heading level content => simp only [outline, blockTags, inlineTags_outlineLine]
  | paragraph content => simp only [outline, blockTags, inlineTags_outlineLine]
  | field name content => simp only [outline, blockTags, inlineTags_outlineLine]
  | bullets items =>
      simp only [outline, blockTags, List.flatMap_map, inlineTags_outlineLine]
  | _ => rfl

/-- The tags of a file. -/
def fileTags (doc : FileDoc) : List Text := (ofFile doc).flatMap blockTags

/-- Files of the same shape have the same tags: the tags of a block can be
read off its outline, and the outlines are the same. -/
theorem fileTags_of_sameShape {d e : FileDoc} (h : d.SameShape e) : fileTags d = fileTags e := by
  have htags : ∀ bs : List Block, bs.flatMap blockTags = (outlines bs).flatMap blockTags := by
    intro bs
    simp only [outlines, List.flatMap_map, blockTags_outline]
  -- Tags depend on the outlines alone, and those agree.
  rw [fileTags, fileTags, htags, outlines_ofFile h, ← htags]

/-! ### Nesting -/

/-- An element is balanced if its content is and its name is no more
than a name. -/
theorem balanced_element {name : Text} {ts : List Text}
    (hopen : tagRole (openTag name) = .opening name)
    (hclose : tagRole (closeTag name) = .closing name) (h : Balanced ts) :
    Balanced (element name ts) :=
  .wrap hopen hclose h

/-- The tags of a line are balanced, since each stretch of code closes what
it opens. -/
theorem balanced_inlineTags (content : Inline) : Balanced (inlineTags content) := by
  refine .flatMap fun s _ => ?_
  cases s with
  | words t => exact balanced_nil
  | text t => exact balanced_nil
  | code t => exact balanced_element (by decide) (by decide) balanced_nil

/-- The name in a tag ends where the tag does. A tag with attributes ends
its name sooner, at the blank. -/
theorem leadingName_append {name : Text} (h : ∀ c ∈ name, c ≠ CodePoint.ofChar ' ' ∧ c ≠ tagEnd) :
    leadingName (name ++ [tagEnd]) = name := by
  have hall : ∀ c ∈ name, (c != CodePoint.ofChar ' ' && c != tagEnd) = true := by
    intro c hc
    simp [h c hc]
  rw [leadingName, List.takeWhile_append_of_pos hall]
  simp

/-- The tags of a heading open and close an element that is named for the
level. -/
theorem tagRole_headingName (level : Nat) :
    tagRole (openTag (headingName level)) = .opening (headingName level)
      ∧ tagRole (closeTag (headingName level)) = .closing (headingName level) := by
  have hname : leadingName (headingName level ++ [tagEnd]) = headingName level := by
    refine leadingName_append fun c hc => ?_
    rcases List.mem_cons.mp hc with rfl | hc
    · decide
    · have hdigit := Text.isDigit_of_mem_ofNat level c hc
      refine ⟨?_, ?_⟩ <;> rintro rfl <;> exact absurd hdigit (by decide)
  -- A heading has an `h` in front, and no element without content has.
  have hknown : loneNames.contains (headingName level) = false := rfl
  have hrole : tagRole (openTag (headingName level))
      = if loneNames.contains (leadingName (headingName level ++ [tagEnd])) then TagRole.lone
        else .opening (leadingName (headingName level ++ [tagEnd])) := rfl
  -- The role is read off the name, whatever the digits of the level are.
  rw [hrole, hname, hknown]
  exact ⟨rfl, congrArg TagRole.closing hname⟩

/-- A language stands in an attribute, so it is no part of the name. -/
theorem tagRole_languageName (language : Text) :
    tagRole (openTag (languageName language)) = .opening "code" := rfl

/-- The tags of a leaf are balanced: what a block opens it closes, and lines
in between are balanced themselves. -/
theorem balanced_leaf {b : Block} (h : b.IsLeaf) : Balanced (blockTags b) := by
  cases b with
  | heading level content =>
      obtain ⟨hopen, hclose⟩ := tagRole_headingName level
      exact balanced_element hopen hclose (balanced_inlineTags content)
  | paragraph content =>
      exact balanced_element (by decide) (by decide) (balanced_inlineTags content)
  | label name =>
      exact balanced_element (by decide) (by decide)
        (balanced_element (by decide) (by decide) balanced_nil)
  | field name content =>
      have hstrong : Balanced (element "strong" []) :=
        balanced_element (by decide) (by decide) balanced_nil
      exact balanced_element (by decide) (by decide)
        (hstrong.append (balanced_inlineTags content))
  | bullets items =>
      refine balanced_element (by decide) (by decide) (.flatMap fun item _ => ?_)
      exact balanced_element (by decide) (by decide) (balanced_inlineTags item)
  | codeBlock code language =>
      have hcode : Balanced (openTag (languageName language) :: [] ++ [closeTag "code"]) :=
        .wrap (tagRole_languageName language) (by decide) balanced_nil
      exact balanced_element (by decide) (by decide) hcode
  | separator => exact balanced_nil
  | fileStart => exact h.elim
  | fileEnd => exact h.elim
  | entryStart kind => exact h.elim
  | entryEnd => exact h.elim

/-- The tags of nested blocks are balanced. Induction on how they nest:
entries and files put a pair of tags around what is balanced already, and
leaves are settled one by one. -/
theorem balanced_nested {bs : List Block} (h : Nested bs) : Balanced (bs.flatMap blockTags) := by
  induction h with
  | nil => exact balanced_nil
  | leaf h => simpa using balanced_leaf h
  | append _ _ ihb ihc =>
      rw [List.flatMap_append]
      exact ihb.append ihc
  | entry kind _ ih =>
      rw [List.flatMap_append, List.flatMap_singleton, List.flatMap_cons]
      have hopen : tagRole (openTag (entryName kind)) = .opening "div" := by
        cases kind <;> decide
      exact .wrap hopen (by decide) ih
  | file _ ih =>
      rw [List.flatMap_append, List.flatMap_singleton, List.flatMap_cons]
      have hopen : tagRole (openTag "section class=\"file\"") = .opening "section" := by decide
      exact .wrap hopen (by decide) ih

/-! ### Pages -/

/-- The tags in front of the files of a page. -/
def openingTags : List Text :=
  ["<!DOCTYPE html>", "<html>", "<head>", "<meta charset=\"utf-8\">", "<title>", "</title>",
    "<style>", "</style>", "</head>", "<body>", "<h1>", "</h1>", "<p>", "<em>", "</em>", "</p>"]

/-- The tags behind the files of a page. -/
def closingTags : List Text := ["</body>", "</html>"]

/-- A rule of a style sheet starts no tag if what it is made of starts
none. -/
theorem plain_styleRule {selector declarations : Text} (hselector : Plain selector)
    (hdeclarations : Plain declarations) : Plain (styleRule selector declarations) := by
  simp only [Plain, styleRule, List.mem_append, not_or]
  exact ⟨⟨⟨⟨by decide, hselector⟩, by decide⟩, hdeclarations⟩, by decide⟩

/-- No rule of the style sheet starts a tag. The rules are fixed texts, put
together of a selector and declarations. -/
theorem plain_of_mem_styleSheet : ∀ rule ∈ styleSheet, Plain rule := by
  simp only [styleSheet, List.forall_mem_cons]
  -- Taking a long string apart is slow, so each part is given by its characters.
  refine ⟨?_, ?_, ?_, ?_, ?_, ?_, ?_, ?_, ?_, ?_, by simp⟩ <;>
  · refine plain_styleRule ?_ ?_ <;>
    · rw [Text.ofString_ofList]
      decide +kernel

/-- The front of a page has the tags of the head and of the title, and no
others for any title, timestamp or style sheet. -/
theorem hasTags_opening (title timestamp : Text) :
    HasTags (opening title timestamp) openingTags := by
  have hfront : HasTags
      "<!DOCTYPE html>\n<html>\n<head>\n    <meta charset=\"utf-8\">\n    <title>"
      ["<!DOCTYPE html>", "<html>", "<head>", "<meta charset=\"utf-8\">", "<title>"] := by
    repeat rw [Text.ofString_ofList]
    exact ⟨by decide +kernel, by decide +kernel⟩
  have hstyle : HasTags "</title>\n    <style>\n" ["</title>", "<style>"] :=
    ⟨by decide +kernel, by decide +kernel⟩
  have hbody : HasTags "\n    </style>\n</head>\n<body>\n<h1>"
      ["</style>", "</head>", "<body>", "<h1>"] := by
    repeat rw [Text.ofString_ofList]
    exact ⟨by decide +kernel, by decide +kernel⟩
  have htime : HasTags "</h1>\n<p><em>Generated on: " ["</h1>", "<p>", "<em>"] :=
    ⟨by decide +kernel, by decide +kernel⟩
  have hend : HasTags "</em></p>\n" ["</em>", "</p>"] := ⟨by decide, by decide⟩
  have hsheet : HasTags (Text.joinWith "\n" styleSheet) [] :=
    hasTags_plain (plain_joinWith (by decide) plain_of_mem_styleSheet)
  have hhead := ((hfront.append (hasTags_escape title)).append hstyle).append hsheet
  have htop := (hhead.append hbody).append (hasTags_escape title)
  exact ((htop.append htime).append (hasTags_escape timestamp)).append hend

/-- The tags of a page: those in front of the files, those of each file, and
those behind. The title and the timestamp bring in none, since they are
escaped. -/
theorem tags_document (title timestamp : Text) (docs : List FileDoc) :
    tags (document title timestamp docs) = openingTags ++ docs.flatMap fileTags ++ closingTags := by
  have hfiles : HasTags (docs.flatMap fun doc => (ofFile doc).flatMap block)
      (docs.flatMap fileTags) :=
    .flatMap fun doc _ => hasTags_nested (nested_ofFile doc)
  have hclosing : HasTags closing closingTags := ⟨by decide, by decide⟩
  exact (((hasTags_opening title timestamp).append hfiles).append hclosing).eq

/-- The tags of a page are well nested: those of its front, with the
elements that stay open; those of its files, which are balanced; and those
that close the page. -/
theorem wellNested_tags (title timestamp : Text) (docs : List FileDoc) :
    WellNested (tags (document title timestamp docs)) := by
  have hfiles : Balanced (docs.flatMap fileTags) :=
    .flatMap fun doc _ => balanced_nested (nested_ofFile doc)
  -- In front of the files two elements are left open, and both are closed behind them.
  have hopening : walk [] openingTags = some [Text.ofString "body", "html"] := by
    rw [openingTags]
    repeat rw [Text.ofString_ofList]
    decide +kernel
  have hclosing : walk [Text.ofString "body", "html"] closingTags = some [] := by decide
  rw [WellNested, tags_document, walk_append, walk_append, hopening, Option.bind_some, hfiles,
    Option.bind_some, hclosing]

/-- Pages of files of the same shapes have the same tags, whatever the texts
of the files, the titles and the timestamps are. -/
theorem tags_document_of_sameShape {docs docs' : List FileDoc}
    (h : List.Forall₂ FileDoc.SameShape docs docs') (title title' timestamp timestamp' : Text) :
    tags (document title timestamp docs) = tags (document title' timestamp' docs') := by
  have hfiles : docs.flatMap fileTags = docs'.flatMap fileTags := by
    induction h with
    | nil => rfl
    | cons hshape _ ih =>
        rw [List.flatMap_cons, List.flatMap_cons, fileTags_of_sameShape hshape, ih]
  rw [tags_document, tags_document, hfiles]

/-- **No text becomes markup.** Pages of files of the same shapes have
the same tags, whatever stands in the texts of the files, in the
titles and in the times. And the tags of every page are well
nested. -/
theorem no_markup_injected :
    (∀ docs docs' : List FileDoc, List.Forall₂ FileDoc.SameShape docs docs' →
      ∀ title title' timestamp timestamp' : Text,
        tags (document title timestamp docs) = tags (document title' timestamp' docs'))
      ∧ ∀ (title timestamp : Text) (docs : List FileDoc),
        WellNested (tags (document title timestamp docs)) := by
  refine ⟨fun docs docs' h title title' timestamp timestamp' => ?_, wellNested_tags⟩
  exact tags_document_of_sameShape h title title' timestamp timestamp'

/-- A file whose overview tries to end its paragraph, and one that
does not. -/
def hostile (overview : Text) : FileDoc := ⟨overview, [], [], [], [], [], none, some "a.py"⟩

/-- Both pages have the same tags. -/
theorem tags_hostile :
    tags (document "T" "now" [hostile "</p><script>run()</script>"])
      = tags (document "T" "then" [hostile "plain"]) := by
  have hshape : (hostile "</p><script>run()</script>").SameShape (hostile "plain") :=
    ⟨rfl, rfl⟩
  exact no_markup_injected.1 _ _ (.cons hshape .nil) "T" "T" "now" "then"

end DocScribe.Html
