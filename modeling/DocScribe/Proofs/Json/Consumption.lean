import DocScribe.Proofs.Json.Extension

/-!
# `DocScribe.Proofs.Json.Consumption`: what a reader takes from its text

A value that is read is read from a beginning of the text, and an end of
the text is left (`Tracks.readValue`). A container ends with its closing
mark, which stands right in front of what is left
(`closing_suffix_of_readValue`).

Whatever is known of a text and stays true of its ends can be followed
through the reader on the way: `Tracks` names the texts, the strings and
the values that this is about. There is one lemma for each part of the
reader, and the strings, numbers and words are where the facts about
values come from.
-/

set_option autoImplicit false

namespace DocScribe.Json

/-! ### Numbers and words -/

/-- Digits are taken from the front of a text, and what is left is an end of
it. -/
theorem spanDigits_suffix (s : Text) : (spanDigits s).2 <:+ s :=
  List.dropWhile_suffix _

/-- The whole part of a number is taken from the front, be it a zero by
itself or a longer row of digits. -/
theorem readWhole?_suffix {s whole rest : Text} (h : readWhole? s = some (whole, rest)) :
    rest <:+ s := by
  cases s with
  | nil => cases h
  | cons c s =>
      rw [readWhole?] at h
      split at h
      · obtain ⟨-, rfl⟩ := Prod.mk.inj (Option.some.inj h)
        exact List.suffix_cons c s
      split at h
      · exact (Prod.mk.inj (Option.some.inj h)).2 ▸ spanDigits_suffix (c :: s)
      · cases h

/-- A fraction is taken from the front, if there is one; a point without a
digit behind it is left where it stands. -/
theorem readFraction_suffix (s : Text) : (readFraction s).2 <:+ s := by
  cases s with
  | nil => exact List.suffix_refl _
  | cons c s =>
      rw [readFraction]
      split
      · exact (spanDigits_suffix s).trans (List.suffix_cons c s)
      · exact List.suffix_refl _

/-- The sign of an exponent is taken from the front. It may be missing, and
then nothing is taken. -/
theorem readSign_suffix (s : Text) : (readSign s).2 <:+ s := by
  cases s with
  | nil => exact List.suffix_refl _
  | cons c s =>
      rw [readSign]
      split
      · exact List.suffix_cons c s
      split
      · exact List.suffix_cons c s
      · exact List.suffix_refl _

/-- An exponent is taken from the front. As with a fraction, its letter is
left where it stands if no digits follow. -/
theorem readExponent_suffix (s : Text) : (readExponent s).2 <:+ s := by
  cases s with
  | nil => exact List.suffix_refl _
  | cons c s =>
      simp only [readExponent]
      split
      · split
        · exact List.suffix_refl _
        · exact ((spanDigits_suffix _).trans (readSign_suffix s)).trans (List.suffix_cons c s)
      · exact List.suffix_refl _

variable {d : Dialect}

/-- So a number leaves an end of its text, whether it is an integer or has a
fraction or an exponent. -/
theorem readUnsigned_suffix {start s rest : Text} {negative : Bool} {value : Json}
    (h : readUnsigned d start negative s = .ok (value, rest)) : rest <:+ s := by
  cases hwhole : readWhole? s with
  | none =>
      simp only [readUnsigned, hwhole] at h
      cases h
  | some found =>
      obtain ⟨whole, behind⟩ := found
      have hsuffix : (readExponent (readFraction behind).2).2 <:+ s :=
        ((readExponent_suffix _).trans (readFraction_suffix _)).trans (readWhole?_suffix hwhole)
      simp only [readUnsigned, hwhole] at h
      split at h
      · cases h
      split at h
      · exact (Prod.mk.inj (Except.ok.inj h)).2 ▸ hsuffix
      · exact (Prod.mk.inj (Except.ok.inj h)).2 ▸ hsuffix

/-- What is left behind a word or a number is an end of the text, and so
what is said of the ends of the text is true of it. -/
theorem readPlain_suffix {s rest : Text} {value : Json}
    (h : readPlain d s = .ok (value, rest)) : rest <:+ s := by
  rw [readPlain.eq_def] at h
  split at h
  · exact (Prod.mk.inj (Except.ok.inj h)).2 ▸ List.drop_suffix _ s
  · split at h
    · next c s _ =>
      split at h
      · exact (readUnsigned_suffix h).trans (List.suffix_cons c s)
      · exact readUnsigned_suffix h
    · cases h

/-! ### Containers -/

/-- Properties that follow a text through the reader: of a text `T`, of
the strings in it `S`, and of the values in it `V`, by how deep they may
nest. -/
structure Tracks (d : Dialect) (T S : Text → Prop) (V : Nat → Json → Prop) : Prop where
  ends : ∀ {s rest}, T s → rest <:+ s → T rest
  string : ∀ {s t rest}, T s → readString d s = .ok (t, rest) → S t
  str : ∀ {depth t}, S t → V depth (.str t)
  plain : ∀ {depth s value rest}, readPlain d s = .ok (value, rest) → V depth value
  arr : ∀ {depth} {items : List Json}, (∀ item ∈ items, V depth item) → V (depth + 1) (.arr items)
  obj : ∀ {depth} {members : Members}, (∀ m ∈ members, S m.1 ∧ V depth m.2) →
    V (depth + 1) (.obj (ofMembers members))
  beyond : d.countsEmpty = false → ∀ container : Container, V 0 container.empty

/-- A part of the reader that takes a value from the front of such texts
and leaves an end of them, in front of which `mark` stands. -/
def Takes (T : Text → Prop) (V : Json → Prop) (mark : Text) (readOne : Text → ReadResult Json) :
    Prop :=
  ∀ ⦃s : Text⦄ ⦃value : Json⦄ ⦃rest : Text⦄, T s → readOne s = .ok (value, rest) →
    V value ∧ mark ++ rest <:+ s

variable {T S : Text → Prop} {V : Nat → Json → Prop} {depth : Nat}
  {readOne : Text → ReadResult Json}

/-- Blanks are skipped at the front. -/
theorem skipSpace_suffix (s : Text) : skipSpace s <:+ s :=
  List.dropWhile_suffix _

/-- Behind blanks and a mark, an end of the text is left. -/
theorem suffix_of_skipSpace_eq {s rest : Text} {c : CodePoint} (h : skipSpace s = c :: rest) :
    c :: rest <:+ s :=
  h ▸ skipSpace_suffix s

/-- So it is when the blanks behind the mark are skipped as well. -/
theorem skipSpace_suffix_of_eq {s rest : Text} {c : CodePoint} (h : skipSpace s = c :: rest) :
    skipSpace rest <:+ s :=
  ((skipSpace_suffix rest).trans (List.suffix_cons c rest)).trans (suffix_of_skipSpace_eq h)

namespace Tracks

variable (tracks : Tracks d T S V)

include tracks

/-- The items of a list are read one by one, with commas between them and
the bracket behind; the induction is on how many can still come. What is
kept of them has been read before, and so has what the texts say. -/
theorem readItems (hone : Takes T (V depth) [] readOne) (fuel : Nat) {read : List Json}
    (hread : ∀ item ∈ read, V depth item) :
    Takes T (V (depth + 1)) [Container.array.closing] (Json.readItems readOne fuel read) := by
  induction fuel generalizing read with
  | zero => rintro s value rest _ ⟨⟩
  | succ fuel ih =>
      intro s value rest hs h
      rw [Json.readItems] at h
      split at h
      · cases h
      next item behind hitem =>
      obtain ⟨hvalue, hbehind⟩ := hone hs hitem
      have hread' : ∀ v ∈ item :: read, V depth v := List.forall_mem_cons.mpr ⟨hvalue, hread⟩
      split at h
      · cases h
      next c tail htail =>
      split at h
      · -- The closing mark: the items that were read are the value, and it stands in front.
        next hclose =>
        obtain ⟨rfl, rfl⟩ := Prod.mk.inj (Except.ok.inj h)
        obtain rfl : c = Container.array.closing := hclose
        exact ⟨tracks.arr fun v hv => hread' v (List.mem_reverse.mp hv),
          (suffix_of_skipSpace_eq htail).trans hbehind⟩
      split at h
      · -- A comma: the other items are read from an end of the text.
        have hnext : skipSpace tail <:+ s := (skipSpace_suffix_of_eq htail).trans hbehind
        obtain ⟨hall, hend⟩ := ih hread' (tracks.ends hs hnext) h
        exact ⟨hall, hend.trans hnext⟩
      · cases h

/-- The members of an object are read likewise, each with its key: in front
of the value its name is read, which is a string of the text. The induction
is on how many can still come. -/
theorem readMembers (hone : Takes T (V depth) [] readOne) (fuel : Nat) {read : Members}
    (hread : ∀ m ∈ read, S m.1 ∧ V depth m.2) :
    Takes T (V (depth + 1)) [Container.object.closing] (Json.readMembers d readOne fuel read) := by
  induction fuel generalizing read with
  | zero => rintro s value rest _ ⟨⟩
  | succ fuel ih =>
      intro s value rest hs h
      cases s with
      | nil => cases h
      | cons q s =>
          rw [Json.readMembers] at h
          split at h
          · cases h
          split at h
          · cases h
          next key behind hkey =>
          -- Each stage leaves an end of the text: the name, the colon, the value.
          have hkeyAt := tracks.ends hs (List.suffix_cons q s)
          have hbehind : behind <:+ q :: s :=
            (readStringFrom_suffix _ hkey).trans (List.suffix_cons q s)
          split at h
          · cases h
          next colon tail htail =>
          split at h
          · cases h
          have hcolon : skipSpace tail <:+ q :: s :=
            (skipSpace_suffix_of_eq htail).trans hbehind
          split at h
          · cases h
          next item left hitem =>
          obtain ⟨hvalue, hleft⟩ := hone (tracks.ends hs hcolon) hitem
          have hread' : ∀ m ∈ (key, item) :: read, S m.1 ∧ V depth m.2 :=
            List.forall_mem_cons.mpr ⟨⟨tracks.string hkeyAt hkey, hvalue⟩, hread⟩
          split at h
          · cases h
          next c next hnext =>
          split at h
          · next hclose =>
            obtain ⟨rfl, rfl⟩ := Prod.mk.inj (Except.ok.inj h)
            obtain rfl : c = Container.object.closing := hclose
            exact ⟨tracks.obj fun m hm => hread' m (List.mem_reverse.mp hm),
              ((suffix_of_skipSpace_eq hnext).trans hleft).trans hcolon⟩
          split at h
          · have hmore : skipSpace next <:+ q :: s :=
              ((skipSpace_suffix_of_eq hnext).trans hleft).trans hcolon
            obtain ⟨hall, hend⟩ := ih hread' (tracks.ends hs hmore) h
            exact ⟨hall, hend.trans hmore⟩
          · cases h

/-- Inside of a container stand items or members, one level deeper than the
container. -/
theorem readContent (hone : Takes T (V depth) [] readOne) (container : Container) :
    Takes T (V (depth + 1)) [container.closing] (Json.readContent d readOne container) := by
  intro s value rest hs h
  cases s with
  | nil => cases container <;> exact nomatch h
  | cons c s =>
      cases container with
      | array => exact tracks.readItems hone _ (List.forall_mem_nil _) hs h
      | object => exact tracks.readMembers hone _ (List.forall_mem_nil _) hs h

/-- A container without content is a value like the others. -/
theorem empty (container : Container) : V (depth + 1) container.empty := by
  cases container with
  | array => exact tracks.arr (List.forall_mem_nil _)
  | object =>
      have hnone : ∀ m ∈ ([] : Members), S m.1 ∧ V depth m.2 := List.forall_mem_nil _
      exact tracks.obj hnone

/-- A container is empty, or it has content in front of its closing mark.
Either way the mark is what stands right before the rest. -/
theorem readContainer {content : Container → Text → ReadResult Json} {container : Container}
    (hempty : V depth container.empty)
    (hcontent : Takes T (V depth) [container.closing] (content container)) :
    Takes T (V depth) [container.closing] (Json.readContainer content container) := by
  intro s value rest hs h
  have hskip : T (skipSpace s) := tracks.ends hs (skipSpace_suffix s)
  rw [Json.readContainer] at h
  split at h
  · -- Nothing is left behind the blanks, and the content is read from nothing.
    next hnil =>
    obtain ⟨hvalue, hend⟩ := hcontent (hnil ▸ hskip) h
    exact ⟨hvalue, hend.trans s.nil_suffix⟩
  · next c tail htail =>
    split at h
    · next hclose =>
      obtain ⟨rfl, rfl⟩ := Prod.mk.inj (Except.ok.inj h)
      obtain rfl : c = container.closing := hclose
      exact ⟨hempty, suffix_of_skipSpace_eq htail⟩
    · obtain ⟨hvalue, hend⟩ := hcontent (htail ▸ hskip) h
      exact ⟨hvalue, hend.trans (suffix_of_skipSpace_eq htail)⟩

/-! ### Values -/

/-- Where containers nest too deep, only empty ones can be read. Any other
is beyond the limit, which is an error of its own. -/
theorem readBeyond (container : Container) :
    Takes T (V 0) [container.closing] (Json.readBeyond d container) := by
  intro s value rest hs h
  rw [Json.readBeyond] at h
  split at h
  · cases h
  · next hcounts =>
    -- Where empty containers do not count, one is read, but nothing with content.
    have hempty := tracks.beyond (Bool.eq_false_iff.mpr hcounts) container
    refine tracks.readContainer hempty (fun s value rest _ hcontent => ?_) hs h
    cases hcontent

/-- The inside of a container, on any level. -/
theorem readInside (hone : Takes T (V depth) [] (Json.readValue d depth))
    (container : Container) :
    Takes T (V (depth + 1)) [container.closing]
      (Json.readContainer (Json.readContent d (Json.readValue d depth)) container) :=
  tracks.readContainer (tracks.empty container) (tracks.readContent hone container)

/-- A value is a string, a container or plain, told apart by the first code
point of the text. -/
theorem readWith {inside : Container → Text → ReadResult Json}
    (hinside : ∀ container, Takes T (V depth) [container.closing] (inside container)) :
    Takes T (V depth) [] (Json.readWith d inside) := by
  intro s value rest hs h
  cases s with
  | nil => cases h
  | cons c s =>
      have htail : T s := tracks.ends hs (List.suffix_cons c s)
      have hmarked {mark : CodePoint} (hend : mark :: rest <:+ s) : rest <:+ c :: s :=
        ((List.suffix_cons mark rest).trans hend).trans (List.suffix_cons c s)
      rw [Json.readWith] at h
      split at h
      · split at h
        · cases h
        next t behind hstring =>
        obtain ⟨rfl, rfl⟩ := Prod.mk.inj (Except.ok.inj h)
        refine ⟨tracks.str (tracks.string htail hstring), ?_⟩
        exact (readStringFrom_suffix _ hstring).trans (List.suffix_cons c s)
      split at h
      · obtain ⟨hvalue, hend⟩ := hinside .object htail h
        exact ⟨hvalue, hmarked hend⟩
      split at h
      · obtain ⟨hvalue, hend⟩ := hinside .array htail h
        exact ⟨hvalue, hmarked hend⟩
      · exact ⟨tracks.plain h, readPlain_suffix h⟩

/-- What follows a text into its strings and values is true of what is
read of it. Induction on how deep containers may nest. -/
theorem readValue (depth : Nat) : Takes T (V depth) [] (Json.readValue d depth) := by
  induction depth with
  | zero => exact tracks.readWith tracks.readBeyond
  | succ depth ih => exact tracks.readWith (tracks.readInside ih)

end Tracks

/-- Nothing at all is known of any text. This is enough to follow the
closing mark. -/
theorem tracks_trivial (d : Dialect) :
    Tracks d (fun _ => True) (fun _ => True) fun _ _ => True where
  ends _ _ := trivial
  string _ _ := trivial
  str _ := trivial
  plain _ := trivial
  arr _ := trivial
  obj _ := trivial
  beyond _ _ := trivial

/-- An object ends with its closing mark, in front of what is left. So a
text without that mark behind it holds no object. -/
theorem closing_suffix_of_readValue {depth : Nat} {s rest : Text} {value : Json}
    (h : readValue d depth ('\x7b' :: s) = .ok (value, rest)) : objectEnd :: rest <:+ s := by
  have tracks := tracks_trivial d
  cases depth with
  | zero => exact (tracks.readBeyond .object trivial h).2
  | succ depth => exact (tracks.readInside (tracks.readValue depth) .object trivial h).2

end DocScribe.Json
