import DocScribe.Proofs.Text.Joining

/-!
# `DocScribe.Proofs.Document.Tags`: the tags in a text

What a browser takes for markup, read off the text of a page without a
look at how the page was made. A tag is what stands from a `<` to the
next `>`. The tags of a text are those of its pieces, one after the
other, if no piece ends inside a tag (`tags_append`); a text without a
`<` has none (`tags_of_plain`).

A sequence of tags is well nested if a stack of names takes it: each
closing tag names the element opened last, and nothing is left open.
Two tags stand alone and are passed over, the one for the document
type and `meta`.
-/

set_option autoImplicit false

namespace DocScribe.Html

/-! ### Finding tags -/

def tagStart : CodePoint := '<'
def tagEnd : CodePoint := '>'

/-- A text up to the next end of a tag. -/
def upToEnd? : Text → Option Text
  | [] => none
  | c :: rest => if c = tagEnd then some [c] else (upToEnd? rest).map (c :: ·)

/-- The tags of a text: what stands from a `<` to the next `>`. -/
def tags : Text → List Text
  | [] => []
  | c :: rest =>
    if c = tagStart then
      match upToEnd? rest with
      | some inner => (c :: inner) :: tags rest
      | none => tags rest
    else tags rest

/-- Whether every tag that starts in a text ends in it. -/
def closesAll : Text → Bool
  | [] => true
  | c :: rest => (c != tagStart || rest.contains tagEnd) && closesAll rest

/-- No tag starts in a text. -/
def Plain (t : Text) : Prop := tagStart ∉ t

instance (t : Text) : Decidable (Plain t) :=
  inferInstanceAs (Decidable (tagStart ∉ t))

/-- Where a tag ends in a text, what follows the text is not looked
at. -/
theorem upToEnd?_append {s : Text} (h : tagEnd ∈ s) (rest : Text) :
    upToEnd? (s ++ rest) = upToEnd? s := by
  induction s with
  | nil => exact absurd h (by simp)
  | cons c s ih =>
      rw [List.cons_append, upToEnd?, upToEnd?]
      by_cases hc : c = tagEnd
      · rw [if_pos hc, if_pos hc]
      · have hmem : tagEnd ∈ s := (List.mem_cons.mp h).resolve_left fun he => hc he.symm
        rw [if_neg hc, if_neg hc, ih hmem]

/-- The tags of a piece that ends outside of them come before the tags
of what follows. -/
theorem tags_append {s : Text} (h : closesAll s = true) (rest : Text) :
    tags (s ++ rest) = tags s ++ tags rest := by
  induction s with
  | nil => rfl
  | cons c s ih =>
      rw [closesAll, Bool.and_eq_true] at h
      rw [List.cons_append, tags, tags, ih h.2]
      by_cases hc : c = tagStart
      -- A tag that starts in `s` ends there, so `rest` has no part in it.
      · have hend : tagEnd ∈ s := by simpa [hc] using h.1
        rw [if_pos hc, if_pos hc, upToEnd?_append hend]
        cases upToEnd? s with
        | none => rfl
        | some inner => rfl
      · rw [if_neg hc, if_neg hc]

/-- If all tags of two texts are closed, so are those of both together: the
first leaves none open that the second would go on with. -/
theorem closesAll_append {s t : Text} (hs : closesAll s = true) (ht : closesAll t = true) :
    closesAll (s ++ t) = true := by
  induction s with
  | nil => exact ht
  | cons c s ih =>
      rw [closesAll, Bool.and_eq_true] at hs
      rw [List.cons_append, closesAll, ih hs.2, Bool.and_true]
      have hfirst := hs.1
      rw [Bool.or_eq_true] at hfirst ⊢
      refine hfirst.imp id fun hmem => ?_
      simp only [List.contains_eq_mem, decide_eq_true_eq, List.mem_append] at hmem ⊢
      exact .inl hmem

/-- A text without a `<` has no tags. Induction on the text, code point by
code point. -/
theorem tags_of_plain {t : Text} (h : Plain t) : tags t = [] := by
  induction t with
  | nil => rfl
  | cons c t ih =>
      rw [Plain, List.mem_cons, not_or] at h
      rw [tags, if_neg (Ne.symm h.1)]
      exact ih h.2

/-- Where no tag starts, none is left open. So a piece of plain text may
stand anywhere. -/
theorem closesAll_of_plain {t : Text} (h : Plain t) : closesAll t = true := by
  induction t with
  | nil => rfl
  | cons c t ih =>
      rw [Plain, List.mem_cons, not_or] at h
      rw [closesAll, ih h.2, Bool.and_true, Bool.or_eq_true]
      exact .inl (bne_iff_ne.mpr (Ne.symm h.1))

/-- Joined pieces have no tags if the pieces and the separator have
none. -/
theorem plain_joinWith {sep : Text} (hsep : Plain sep) {pieces : List Text}
    (h : ∀ piece ∈ pieces, Plain piece) : Plain (Text.joinWith sep pieces) := by
  cases pieces with
  | nil => exact fun hmem => absurd hmem (by simp [Text.joinWith])
  | cons piece pieces =>
      rw [Text.joinWith_cons, Plain, List.mem_append, not_or]
      refine ⟨h piece List.mem_cons_self, fun hmem => ?_⟩
      obtain ⟨next, hnext, hc⟩ := List.mem_flatMap.mp hmem
      rcases List.mem_append.mp hc with hc | hc
      · exact hsep hc
      · exact h next (List.mem_cons_of_mem _ hnext) hc

/-! ### Pieces of a page -/

/-- A piece of a page: it ends outside of tags, and these are its
tags. -/
structure HasTags (s : Text) (ts : List Text) : Prop where
  closes : closesAll s = true
  eq : tags s = ts

/-- Plain text has no tags. -/
theorem hasTags_plain {t : Text} (h : Plain t) : HasTags t [] :=
  ⟨closesAll_of_plain h, tags_of_plain h⟩

/-- Pieces behind each other have their tags behind each other. -/
theorem HasTags.append {s t : Text} {ts us : List Text} (hs : HasTags s ts) (ht : HasTags t us) :
    HasTags (s ++ t) (ts ++ us) := by
  refine ⟨closesAll_append hs.closes ht.closes, ?_⟩
  rw [tags_append hs.closes, hs.eq, ht.eq]

/-- A list of pieces has the tags of each, one after the other. Since every
piece closes the tags that it starts, none of them reaches into the next. -/
theorem HasTags.flatMap {α : Type} {piece : α → Text} {ts : α → List Text} {as : List α}
    (h : ∀ a ∈ as, HasTags (piece a) (ts a)) : HasTags (as.flatMap piece) (as.flatMap ts) := by
  induction as with
  | nil => exact ⟨rfl, rfl⟩
  | cons a as ih =>
      rw [List.flatMap_cons, List.flatMap_cons]
      exact (h a List.mem_cons_self).append (ih fun x hx => h x (List.mem_cons_of_mem _ hx))

/-- A text up to the end of a tag that is not inside it is the whole
text. -/
theorem upToEnd?_of_not_mem {inner : Text} (h : tagEnd ∉ inner) :
    upToEnd? (inner ++ [tagEnd]) = some (inner ++ [tagEnd]) := by
  induction inner with
  | nil => rfl
  | cons c inner ih =>
      rw [List.mem_cons, not_or] at h
      rw [List.cons_append, upToEnd?, if_neg (Ne.symm h.1), ih h.2]
      rfl

/-- A tag by itself, with nothing in it that would start or end
one. -/
theorem hasTags_tag {inner : Text} (hplain : Plain inner) (hend : tagEnd ∉ inner) :
    HasTags (tagStart :: (inner ++ [tagEnd])) [tagStart :: (inner ++ [tagEnd])] := by
  have hplain' : Plain (inner ++ [tagEnd]) := by
    rw [Plain, List.mem_append, not_or]
    exact ⟨hplain, by decide⟩
  refine ⟨?_, ?_⟩
  · rw [closesAll, closesAll_of_plain hplain', Bool.and_true, Bool.or_eq_true]
    exact .inr (by simp)
  · rw [tags, if_pos rfl, upToEnd?_of_not_mem hend, tags_of_plain hplain']

/-! ### Nesting -/

/-- The names of elements without content. -/
def loneNames : List Text := ["!DOCTYPE", "meta"]

/-- What a tag does to the elements that are open. -/
inductive TagRole where
  | opening (name : Text)
  | closing (name : Text)
  | lone
deriving DecidableEq

/-- The name at the front of a tag's content. -/
def leadingName (content : Text) : Text :=
  content.takeWhile fun c => c != CodePoint.ofChar ' ' && c != tagEnd

/-- The role of a tag. -/
def tagRole (tag : Text) : TagRole :=
  match tag.drop 1 with
  | [] => .lone
  | c :: content =>
    if c = '/' then .closing (leadingName content)
    else if loneNames.contains (leadingName (c :: content)) then .lone
    else .opening (leadingName (c :: content))

/-- The elements that are open behind a tag, the innermost first;
nothing if the tag closes another element than that one. -/
def step (stack : List Text) (tag : Text) : Option (List Text) :=
  match tagRole tag, stack with
  | .lone, _ => some stack
  | .opening name, _ => some (name :: stack)
  | .closing name, top :: outer => if top = name then some outer else none
  | .closing _, [] => none

/-- The elements that are open behind a sequence of tags. -/
def walk : List Text → List Text → Option (List Text)
  | stack, [] => some stack
  | stack, tag :: ts => (step stack tag).bind fun stack => walk stack ts

/-- Every element is closed, and in the reverse order. -/
def WellNested (ts : List Text) : Prop := walk [] ts = some []

/-- A sequence of tags that leaves the open elements as they are,
whatever is open. -/
def Balanced (ts : List Text) : Prop := ∀ stack, walk stack ts = some stack

/-- Tags are gone through from the left, with the elements open in between
kept. -/
theorem walk_append (stack ts us : List Text) :
    walk stack (ts ++ us) = (walk stack ts).bind fun stack => walk stack us := by
  induction ts generalizing stack with
  | nil => rfl
  | cons tag ts ih =>
      rw [List.cons_append, walk, walk, Option.bind_assoc]
      congr 1
      funext stack'
      exact ih stack'

/-- No tags are balanced. -/
theorem balanced_nil : Balanced [] := fun _ => rfl

/-- Balanced tags may follow one another: each of the two leaves the open
tags as it finds them. -/
theorem Balanced.append {ts us : List Text} (ht : Balanced ts) (hu : Balanced us) :
    Balanced (ts ++ us) := by
  intro stack
  rw [walk_append, ht, Option.bind_some, hu]

/-- Any number of balanced tags may follow one another. Induction on the
list. -/
theorem Balanced.flatMap {α : Type} {ts : α → List Text} {as : List α}
    (h : ∀ a ∈ as, Balanced (ts a)) : Balanced (as.flatMap ts) := by
  induction as with
  | nil => exact balanced_nil
  | cons a as ih =>
      rw [List.flatMap_cons]
      exact (h a List.mem_cons_self).append (ih fun x hx => h x (List.mem_cons_of_mem _ hx))

/-- An element with balanced content is balanced: the element is open while
the content is gone through, and then it is closed. -/
theorem Balanced.wrap {first last name : Text} {ts : List Text}
    (hfirst : tagRole first = .opening name) (hlast : tagRole last = .closing name)
    (h : Balanced ts) : Balanced (first :: ts ++ [last]) := by
  intro stack
  -- The element is on top while its content is passed over.
  have hopen : step stack first = some (name :: stack) := by
    simp only [step, hfirst]
  have hclose : step (name :: stack) last = some stack := by simp only [step, hlast, if_true]
  rw [List.cons_append, walk, hopen, Option.bind_some, walk_append, h, Option.bind_some, walk,
    hclose]
  rfl

end DocScribe.Html
