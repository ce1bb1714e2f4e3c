import DocScribe.Document.Rendering
import DocScribe.Proofs.Document.Content
import DocScribe.Proofs.Document.Delimiters
import DocScribe.Proofs.Document.Outline

/-!
# `DocScribe.Proofs.Document.Interleaving`: documents are content in templates

A template is a text with gaps. What is written in Markdown or in HTML of
a list of files is a template that depends on the shapes of the files
alone, with the content of the files in its gaps, one string after the
other (`Document.content_in_template`). The content is the same list for
both; each markup has its own frames and its own way of writing a string.

A markup is a record of these (`Markup`). What it writes, its templates,
and that the one is content in the other, is said once for any of them:
templates do not look at the texts in a block
(`Markup.blockTemplate_outline`), and with the content of a block in its
gaps a template is what is written of the block
(`Markup.interleaves_block`). The files are put together from the content
of their blocks (`Block.contents_ofFile`) and from the outlines of these
(`Block.outlines_ofFileIn`). Of Markdown and of HTML it remains to say that
they are markups of this kind (`blockText_markup`).
-/

set_option autoImplicit false

namespace DocScribe

/-! ### Templates -/

/-- A piece of a template: a fixed text, or a gap for a string. -/
inductive Piece where
  | fixed (t : Text)
  | gap
deriving DecidableEq

abbrev Template := List Piece

namespace Template

/-- A template with its gaps filled in order. -/
def fill : Template → List Text → Text
  | [], _ => []
  | .fixed t :: pieces, strings => t ++ fill pieces strings
  | .gap :: pieces, [] => fill pieces []
  | .gap :: pieces, s :: strings => s ++ fill pieces strings

/-- How many gaps there are. -/
def gaps : Template → Nat
  | [] => 0
  | .fixed _ :: pieces => gaps pieces
  | .gap :: pieces => gaps pieces + 1

end Template

/-- A text is a template with strings in its gaps, one for each. -/
structure Interleaves (template : Template) (strings : List Text) (t : Text) : Prop where
  filled : template.fill strings = t
  gaps : template.gaps = strings.length

namespace Interleaves

/-- The empty text is the empty template. -/
theorem nil : Interleaves [] [] [] := ⟨rfl, rfl⟩

/-- A fixed text is a template without gaps. -/
theorem fixed (t : Text) : Interleaves [.fixed t] [] t := ⟨List.append_nil t, rfl⟩

/-- A string is a gap that is filled with it. -/
theorem gap (s : Text) : Interleaves [.gap] [s] s := ⟨List.append_nil s, rfl⟩

/-- Texts one behind the other are their templates one behind the other,
with the strings of the first in front of those of the second. The induction
is on the first template: the strings given to it run out exactly where its
gaps do, and so none of them slips into the second. -/
theorem append {template more : Template} {strings others : List Text} {t u : Text}
    (h : Interleaves template strings t) (hmore : Interleaves more others u) :
    Interleaves (template ++ more) (strings ++ others) (t ++ u) := by
  obtain ⟨rfl, hgaps⟩ := h
  obtain ⟨rfl, hothers⟩ := hmore
  induction template generalizing strings with
  | nil =>
      obtain rfl := List.length_eq_zero_iff.mp hgaps.symm
      exact ⟨rfl, hothers⟩
  | cons piece template ih =>
      cases piece with
      | fixed t =>
          obtain ⟨hfilled, htail⟩ := ih hgaps
          refine ⟨?_, htail⟩
          show t ++ Template.fill (template ++ more) (strings ++ others) = _
          rw [hfilled]
          exact (List.append_assoc t _ _).symm
      | gap =>
          -- There are as many strings as gaps, so the first of them fills this one.
          cases strings with
          | nil => exact nomatch hgaps
          | cons s strings =>
              obtain ⟨hfilled, htail⟩ := ih (Nat.succ.inj hgaps)
              refine ⟨?_, congrArg (· + 1) htail⟩
              show s ++ Template.fill (template ++ more) (strings ++ others) = _
              rw [hfilled]
              exact (List.append_assoc s _ _).symm

/-- Fixed text in front of a text and behind it. The template gets a fixed
piece at either end, and no gap. -/
theorem between {template : Template} {strings : List Text} {t : Text} (before after : Text)
    (h : Interleaves template strings t) :
    Interleaves (.fixed before :: template ++ [.fixed after]) strings (before ++ t ++ after) := by
  have hwhole := ((fixed before).append h).append (fixed after)
  rwa [List.nil_append, List.append_nil, List.singleton_append] at hwhole

/-- The same of the texts of a whole list, each with a template of its own.
Induction on the list. -/
theorem flatMap {α : Type} {template : α → Template} {strings : α → List Text} {t : α → Text}
    (h : ∀ a, Interleaves (template a) (strings a) (t a)) (as : List α) :
    Interleaves (as.flatMap template) (as.flatMap strings) (as.flatMap t) := by
  induction as with
  | nil => exact nil
  | cons a as ih =>
      simp only [List.flatMap_cons]
      exact (h a).append ih

end Interleaves

/-! ### Shapes -/

/-- The shape of a file: which of its texts are empty, how long its lists
are, its flags and ways of access, and the language of its examples. -/
structure Shape where
  language : Text
  outline : FileDoc
deriving DecidableEq

def FileDoc.shape (d : FileDoc) : Shape := ⟨Block.exampleLanguage d, d.outline⟩

/-- Blocks of that shape. -/
def Shape.blocks (s : Shape) : List Block := Block.ofFileIn s.language s.outline

/-- The blocks of a shape have the outlines of the blocks that the file
has. -/
theorem outlines_blocks (d : FileDoc) :
    Block.outlines d.shape.blocks = Block.outlines (Block.ofFile d) :=
  Block.outlines_ofFileIn (Block.exampleLanguage d) d

/-! ### Markups -/

/-- Fixed text in front of something, and behind it. -/
structure Frame where
  before : Text
  after : Text

/-- A template in a frame. -/
def Frame.around (f : Frame) (template : Template) : Template :=
  .fixed f.before :: template ++ [.fixed f.after]

/-- A text in a frame. -/
def Frame.wrap (f : Frame) (t : Text) : Text := f.before ++ t ++ f.after

/-- What is in a template stays in it when both get a frame. -/
theorem Interleaves.wrap {template : Template} {strings : List Text} {t : Text}
    (h : Interleaves template strings t) (f : Frame) :
    Interleaves (f.around template) strings (f.wrap t) :=
  h.between f.before f.after

/-- What a markup makes of content: how it writes a string, and the frames
of code within a line, of an item of a list, of a block and of a whole
document. The frame of a block does not depend on the texts in it. -/
structure Markup where
  written : Shown → Text
  code : Frame
  item : Frame
  block : Block → Frame
  block_outline (b : Block) : block b.outline = block b
  document (title timestamp : Text) : Frame

namespace Markup

variable (m : Markup)

/-! #### What a markup writes -/

def span : Span → Text
  | .words t => t
  | .text t => m.written (.text t)
  | .code t => m.code.wrap (m.written (.code t))

def inline (line : Inline) : Text := line.flatMap m.span

/-- What is written inside the frame of a block. -/
def inside : Block → Text
  | .heading _ line => m.inline line
  | .paragraph line => m.inline line
  | .field _ line => m.inline line
  | .bullets items => items.flatMap fun item => m.item.wrap (m.inline item)
  | .codeBlock code language => m.written (.block code language)
  | _ => []

def blockText (b : Block) : Text := (m.block b).wrap (m.inside b)

/-- What is written of files. -/
def documentText (title timestamp : Text) (docs : List FileDoc) : Text :=
  (m.document title timestamp).wrap
    (docs.flatMap fun d => (Block.ofFile d).flatMap m.blockText)

/-! #### Its templates -/

def spanTemplate : Span → Template
  | .words t => [.fixed t]
  | .text _ => [.gap]
  | .code _ => m.code.around [.gap]

def lineTemplate (line : Inline) : Template := line.flatMap m.spanTemplate

/-- The template inside the frame of a block. -/
def insideTemplate : Block → Template
  | .heading _ line => m.lineTemplate line
  | .paragraph line => m.lineTemplate line
  | .field _ line => m.lineTemplate line
  | .bullets items => items.flatMap fun item => m.item.around (m.lineTemplate item)
  | .codeBlock _ _ => [.gap]
  | _ => []

def blockTemplate (b : Block) : Template := (m.block b).around (m.insideTemplate b)

/-- The template of a document of files with some shapes. -/
def template (title timestamp : Text) (shapes : List Shape) : Template :=
  (m.document title timestamp).around
    (shapes.flatMap fun s => s.blocks.flatMap m.blockTemplate)

/-! #### Templates do not look at texts -/

/-- The template of a line can be read off its outline. Where an outline has
lost a text there is a gap in the template. -/
theorem lineTemplate_outlineLine (line : Inline) :
    m.lineTemplate (Block.outlineLine line) = m.lineTemplate line := by
  have hspan : ∀ s : Span, m.spanTemplate s.outline = m.spanTemplate s := by
    intro s
    cases s <;> rfl
  rw [lineTemplate, Block.outlineLine, List.flatMap_map, funext hspan, ← lineTemplate]

/-- So can the template of a block. The cases are those in which a block has
lines; of all others the outline is the block itself, but for code. -/
theorem blockTemplate_outline (b : Block) : m.blockTemplate b.outline = m.blockTemplate b := by
  have hinside : m.insideTemplate b.outline = m.insideTemplate b := by
    cases b with
    | heading => simp only [Block.outline, insideTemplate, lineTemplate_outlineLine]
    | paragraph => simp only [Block.outline, insideTemplate, lineTemplate_outlineLine]
    | field => simp only [Block.outline, insideTemplate, lineTemplate_outlineLine]
    | bullets =>
        simp only [Block.outline, insideTemplate, List.flatMap_map, lineTemplate_outlineLine]
    | _ => rfl
  rw [blockTemplate, blockTemplate, m.block_outline, hinside]

/-- So can those of all blocks of a file, which are the ones that its shape
has. -/
theorem flatMap_blockTemplate_shape (d : FileDoc) :
    d.shape.blocks.flatMap m.blockTemplate = (Block.ofFile d).flatMap m.blockTemplate := by
  have htemplate : ∀ bs : List Block,
      bs.flatMap m.blockTemplate = (Block.outlines bs).flatMap m.blockTemplate := by
    intro bs
    rw [Block.outlines, List.flatMap_map, funext m.blockTemplate_outline]
  rw [htemplate, outlines_blocks, ← htemplate]

/-! #### What is written is content in templates -/

/-- What is written of a line is its content in its template. Fixed words go
into the template, text and code into its gaps, and the delimiters of code
are a frame. -/
theorem interleaves_inline (line : Inline) :
    Interleaves (m.lineTemplate line) ((Block.lineContent line).map m.written)
      (m.inline line) := by
  have hspan : ∀ s : Span,
      Interleaves (m.spanTemplate s) (s.content.map m.written) (m.span s) := by
    intro s
    cases s with
    | words t => exact .fixed t
    | text t => exact .gap _
    | code t => exact (Interleaves.gap _).wrap m.code
  rw [Block.lineContent, List.map_flatMap]
  exact Interleaves.flatMap hspan line

/-- What is written of a block is its content in its template: a line or
several, one string of code, or nothing, in the frame of the block. -/
theorem interleaves_block (b : Block) :
    Interleaves (m.blockTemplate b) (b.content.map m.written) (m.blockText b) := by
  refine Interleaves.wrap ?_ (m.block b)
  cases b with
  | heading level line => exact m.interleaves_inline line
  | paragraph line => exact m.interleaves_inline line
  | field name line => exact m.interleaves_inline line
  | bullets items =>
      rw [Block.content, List.map_flatMap]
      exact Interleaves.flatMap (fun item => (m.interleaves_inline item).wrap m.item) items
  | codeBlock code language => exact .gap _
  | _ => exact .nil

/-- What is written of files is their content in the template of their
shapes. -/
theorem document_interleaves (title timestamp : Text) (docs : List FileDoc) :
    Interleaves (m.template title timestamp (docs.map FileDoc.shape))
      ((docs.flatMap FileDoc.content).map m.written) (m.documentText title timestamp docs) := by
  have hfile : ∀ d : FileDoc, Interleaves (d.shape.blocks.flatMap m.blockTemplate)
      (d.content.map m.written) ((Block.ofFile d).flatMap m.blockText) := by
    intro d
    rw [m.flatMap_blockTemplate_shape, ← Block.contents_ofFile, Block.contents, List.map_flatMap]
    exact Interleaves.flatMap m.interleaves_block (Block.ofFile d)
  refine Interleaves.wrap ?_ (m.document title timestamp)
  rw [List.flatMap_map, List.map_flatMap]
  exact Interleaves.flatMap hfile docs

end Markup

/-! ### Markdown -/

namespace Markdown

/-- How a string is written: text as it is, code between delimiters. -/
def written : Shown → Text
  | .text t => t
  | .code t => code t
  | .block code language =>
    fence code ++ language ++ "\n" ++ code.trimEnd ++ "\n" ++ fence code

/-- What stands around a block. -/
def frame : Block → Frame
  | .heading level _ => ⟨List.replicate level (CodePoint.ofChar '#') ++ " ", "\n\n"⟩
  | .paragraph _ => ⟨[], "\n\n"⟩
  | .label name => ⟨"**" ++ name ++ ":**\n\n", []⟩
  | .field name _ => ⟨"**" ++ name ++ ":** ", "\n\n"⟩
  | .bullets _ => ⟨[], "\n"⟩
  | .codeBlock _ _ => ⟨[], "\n\n"⟩
  | .separator => ⟨"---\n\n", []⟩
  | _ => ⟨[], []⟩

/-- The markup: code has its delimiters already. -/
def markup : Markup where
  written := written
  code := ⟨[], []⟩
  item := ⟨"- ", "\n"⟩
  block := frame
  block_outline b := by cases b <;> rfl
  document title timestamp := ⟨opening title timestamp, []⟩

/-- The template of a document. -/
def template (title timestamp : Text) (shapes : List Shape) : Template :=
  markup.template title timestamp shapes

/-- The markup writes lines as they are written. -/
theorem inline_markup (line : Inline) : markup.inline line = inline line := by
  have hspan : ∀ s, markup.span s = span s := by
    intro s
    cases s with
    | code t => exact List.append_nil _
    | _ => rfl
  rw [Markup.inline, inline, funext hspan]

/-- It writes blocks as they are written. -/
theorem blockText_markup (b : Block) : markup.blockText b = block b := by
  have hitem : ∀ item, markup.item.wrap (markup.inline item) = bullet item := by
    intro item
    rw [inline_markup]
    rfl
  show (frame b).before ++ markup.inside b ++ (frame b).after = block b
  cases b with
  | bullets items => simp only [frame, Markup.inside, hitem, block, List.nil_append]
  | codeBlock code language =>
      -- Code comes fenced, and the frame adds the empty line behind the fence.
      show written (.block code language) ++ "\n\n" = codeBlock code language
      rfl
  | _ => simp [frame, Markup.inside, inline_markup, block]

/-- It writes documents as they are written. -/
theorem documentText_markup (title timestamp : Text) (docs : List FileDoc) :
    markup.documentText title timestamp docs = document title timestamp docs := by
  rw [Markup.documentText, funext blockText_markup]
  exact List.append_nil _

end Markdown

/-! ### HTML -/

namespace Html

/-- How a string is written: escaped, and a block of code without the
blanks at its end. -/
def written : Shown → Text
  | .text t => escape t
  | .code t => escape t
  | .block code _ => escape code.trimEnd

/-- What stands around a block. -/
def frame : Block → Frame
  | .fileStart => ⟨"<section class=\"file\">\n", []⟩
  | .fileEnd => ⟨"</section>\n", []⟩
  | .entryStart kind => ⟨"<div class=\"" ++ escape kind.word ++ "\">\n", []⟩
  | .entryEnd => ⟨"</div>\n", []⟩
  | .heading level _ =>
    ⟨"<h" ++ Text.ofNat level ++ ">", "</h" ++ Text.ofNat level ++ ">\n"⟩
  | .paragraph _ => ⟨"<p>", "</p>\n"⟩
  | .label name => ⟨"<p><strong>" ++ escape name ++ ":</strong></p>\n", []⟩
  | .field name _ => ⟨"<p><strong>" ++ escape name ++ ":</strong> ", "</p>\n"⟩
  | .bullets _ => ⟨"<ul>\n", "</ul>\n"⟩
  | .codeBlock _ language =>
    ⟨"<pre><code class=\"language-" ++ escape language ++ "\">", "</code></pre>\n"⟩
  | .separator => ⟨[], []⟩

/-- The markup: every string is escaped, and code is marked by its
frames. -/
def markup : Markup where
  written := written
  code := ⟨"<code>", "</code>"⟩
  item := ⟨"    <li>", "</li>\n"⟩
  block := frame
  block_outline b := by cases b <;> rfl
  document title timestamp := ⟨opening title timestamp, closing⟩

/-- The template of a page. -/
def template (title timestamp : Text) (shapes : List Shape) : Template :=
  markup.template title timestamp shapes

/-- The markup writes lines as they are written. -/
theorem inline_markup (line : Inline) : markup.inline line = inline line := by
  have hspan : ∀ s, markup.span s = span s := by
    intro s
    cases s <;> rfl
  rw [Markup.inline, inline, funext hspan]

/-- It writes blocks as they are written. -/
theorem blockText_markup (b : Block) : markup.blockText b = block b := by
  have hitem : ∀ item, markup.item.wrap (markup.inline item) = bullet item := by
    intro item
    rw [inline_markup]
    rfl
  show (frame b).before ++ markup.inside b ++ (frame b).after = block b
  cases b with
  | bullets items => simp only [frame, Markup.inside, hitem, block]
  | codeBlock code language => rfl
  | _ => simp [frame, Markup.inside, inline_markup, block]

/-- It writes pages as they are written. -/
theorem documentText_markup (title timestamp : Text) (docs : List FileDoc) :
    markup.documentText title timestamp docs = document title timestamp docs := by
  rw [Markup.documentText, funext blockText_markup]
  rfl

end Html

/-! ### Documents -/

/-- **A document is the content of its files in a template.** In Markdown
and in HTML, a document is a template for the shapes of the files with
the content of the files in its gaps, all of it, each string once and in
order. The content is the same for both. In Markdown, code within a line
and blocks of code stand between backticks that are sized to them; in
HTML the strings are escaped; in both, blanks at the end of a block of
code are dropped. -/
theorem Document.content_in_template (timestamp : Text) (docs : List FileDoc) :
    Interleaves (Markdown.template Document.title timestamp (docs.map FileDoc.shape))
        ((docs.flatMap FileDoc.content).map Markdown.written)
        (Document.render .markdown timestamp docs)
      ∧ Interleaves (Html.template Document.title timestamp (docs.map FileDoc.shape))
        ((docs.flatMap FileDoc.content).map Html.written)
        (Document.render .html timestamp docs)
      ∧ (∀ t, ∃ n pad, Markdown.SizedTo 1 t n ∧ (pad = [] ∨ pad = " ")
        ∧ Markdown.written (.code t)
          = Markdown.backticks n ++ pad ++ t ++ pad ++ Markdown.backticks n)
      ∧ ∀ code language, ∃ n, Markdown.SizedTo 3 code n
        ∧ Markdown.written (.block code language)
          = Markdown.backticks n ++ language ++ "\n" ++ code.trimEnd ++ "\n"
            ++ Markdown.backticks n := by
  have hmarkdown := Markdown.markup.document_interleaves Document.title timestamp docs
  have hhtml := Html.markup.document_interleaves Document.title timestamp docs
  rw [Markdown.documentText_markup] at hmarkdown
  rw [Html.documentText_markup] at hhtml
  refine ⟨hmarkdown, hhtml, Markdown.exists_code_eq, fun code language => ?_⟩
  exact ⟨_, Markdown.sizedTo_of_longestRun 3 code, rfl⟩

end DocScribe
