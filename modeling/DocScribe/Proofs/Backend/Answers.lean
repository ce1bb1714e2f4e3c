import DocScribe.Backend.Basic
import DocScribe.Proofs.Settings.Validated
import DocScribe.Proofs.Workspace.Reading

/-!
# `DocScribe.Proofs.Backend.Answers`: answers that completions can be made of

A service can be asked for a completion and answer with anything. The
answers that are taken for what they should be have a shape of their own
for each service (`Hosted.IsReadable`, `Local.IsReadable`), which is stated
here without regard to the order in which their values are read.

From an answer of that shape there comes a completion, or the hosted
service is reported to have sent no choices. From any other answer there
comes an error, and it is none that a backend reports, because answers are
read where no error is turned into one of a backend
(`Hosted.settles_ofAnswer_iff`, `Local.settles_ofAnswer_iff`).
-/

set_option autoImplicit false

namespace DocScribe.Backend

variable {α β : Type}

/-! ### Errors that a backend reports -/

/-- An error of the backend of a service, under the name of the service. -/
def Reported (service : Service) (e : CompletionError) : Prop :=
  ∃ reported, e = .backend reported ∧ reported.service = some service.word

/-- There is a result, or an error that the backend reports. -/
def Settles (service : Service) : Except CompletionError α → Prop
  | .ok _ => True
  | .error e => Reported service e

/-- A step that fails, if it does, with an error that no backend reports. -/
def Unreported (result : Except CompletionError α) : Prop :=
  ∀ reported, result ≠ .error (.backend reported)

/-- A result is no error, so a step with a result reports none. -/
theorem unreported_ok (a : α) : Unreported (.ok a) := fun _ h => nomatch h

/-- One step behind the other. If none of the two makes an error of the
backend, the two together make none either. -/
theorem Unreported.bind {first : Except CompletionError α} {next : α → Except CompletionError β}
    (hfirst : Unreported first) (hnext : ∀ a, Unreported (next a)) :
    Unreported (first >>= next) := by
  cases first with
  | error e => exact fun reported h => hfirst reported (congrArg Except.error (Except.error.inj h))
  | ok a => exact hnext a

/-- Such a step settles nothing but by a result: an error of it is none that
the callers of a backend look for. -/
theorem Unreported.settles_iff {service : Service} {result : Except CompletionError α}
    (h : Unreported result) : Settles service result ↔ ∃ a, result = .ok a := by
  cases result with
  | ok a => exact iff_of_true trivial ⟨a, rfl⟩
  | error e =>
      refine iff_of_false ?_ fun ⟨_, hok⟩ => nomatch hok
      rintro ⟨reported, rfl, -⟩
      exact h reported rfl

/-- A completion that is refused for its values is refused outside of what
the backend reports: this is the error that escapes. -/
theorem unreported_unfit (result : Except Rejection α) :
    Unreported (result.mapError CompletionError.unfit) := by
  cases result with
  | ok a => exact unreported_ok a
  | error r => exact fun _ h => nomatch h

/-- Two steps have a result if the first one has one that the second can go
on with. -/
theorem bind_eq_ok_iff {first : Except CompletionError α} {next : α → Except CompletionError β}
    {b : β} : (first >>= next) = .ok b ↔ ∃ a, first = .ok a ∧ next a = .ok b := by
  refine ⟨Workspace.exists_of_bind, ?_⟩
  rintro ⟨a, rfl, h⟩
  exact h

/-! ### The values of an answer -/

def IsText (value : Json) : Prop := ∃ t, value = .str t

/-- A text, or none. -/
def IsOptionalText (value : Json) : Prop := value = .null ∨ IsText value

/-- What an integer can be read from, or nothing. -/
def IsOptionalCount (value : Json) : Prop :=
  ∃ n, Lax.optional Lax.integer value.toLoose = .ok n

/-- A value of a kind, or one that counts for nothing and is replaced. -/
def IsFalseOr (kind : Json → Prop) (value : Json) : Prop :=
  value.isTruthy = false ∨ kind value

/-- Only a text is accepted as one, whatever else could be shown as text. -/
theorem text_eq_ok_iff {value : Json} {t : Text} :
    Lax.text value.toLoose = .ok t ↔ value = .str t := by
  cases value <;> simp [Json.toLoose, Lax.text]

/-- Where a text may be missing, `null` and texts are accepted and nothing
else. -/
theorem exists_optional_text_iff {value : Json} :
    (∃ t, Lax.optional Lax.text value.toLoose = .ok t) ↔ IsOptionalText value := by
  cases value <;> simp [Json.toLoose, Lax.optional, Lax.text, IsOptionalText, IsText, Except.map]

/-- A completion needs a text and a model; the other fields may be
missing. -/
theorem exists_ofValues_iff {content model tokens finish : Json} {metadata : Json.Members} :
    (∃ completion, Completion.ofValues content model tokens finish metadata = .ok completion)
      ↔ IsText content ∧ IsText model ∧ IsOptionalCount tokens ∧ IsOptionalText finish := by
  rw [← exists_optional_text_iff]
  constructor
  · rintro ⟨completion, h⟩
    rw [Completion.ofValues] at h
    -- The fields from the last one to the first.
    obtain ⟨_, _, toFinish, -, -⟩ := Checked.seq_eq_ok_iff.mp (Checked.toExcept_eq_ok_iff.mp h)
    obtain ⟨_, reason, toTokens, hfinish, -⟩ := Checked.seq_eq_ok_iff.mp toFinish
    obtain ⟨_, n, toModel, htokens, -⟩ := Checked.seq_eq_ok_iff.mp toTokens
    obtain ⟨_, name, toContent, hmodel, -⟩ := Checked.seq_eq_ok_iff.mp toModel
    obtain ⟨t, hcontent, -⟩ := Checked.map_eq_ok_iff.mp toContent
    exact ⟨⟨t, text_eq_ok_iff.mp (Checked.ofField_eq_ok_iff.mp hcontent)⟩,
      ⟨name, text_eq_ok_iff.mp (Checked.ofField_eq_ok_iff.mp hmodel)⟩,
      ⟨n, Checked.ofField_eq_ok_iff.mp htokens⟩, ⟨reason, Checked.ofField_eq_ok_iff.mp hfinish⟩⟩
  · rintro ⟨⟨t, rfl⟩, ⟨name, rfl⟩, ⟨n, htokens⟩, ⟨reason, hfinish⟩⟩
    rw [Completion.ofValues, htokens, hfinish]
    exact ⟨_, rfl⟩

/-- What takes the place of a value that counts for nothing is of the
kind. -/
theorem orElse_iff {kind : Json → Prop} {value alternative : Json} (h : kind alternative) :
    kind (orElse value alternative) ↔ IsFalseOr kind value := by
  rw [orElse, IsFalseOr]
  split
  · next htrue => exact (or_iff_right (by rw [htrue]; exact Bool.noConfusion)).symm
  · next hfalse => exact iff_of_true h (.inl (Bool.eq_false_iff.mpr hfalse))

/-- What stands in for a missing text is a text, so only values that count
for something have to be texts themselves. -/
theorem isText_orElse_iff {value : Json} {t : Text} :
    IsText (orElse value (.str t)) ↔ IsFalseOr IsText value :=
  orElse_iff ⟨t, rfl⟩

/-! ### The hosted service -/

/-- An object has an attribute. -/
def Has (value : Json) (name : Text) (found : Json) : Prop :=
  ∃ attributes, value = .obj attributes ∧ Json.Members.get? attributes name = some found

/-- An attribute has one value. So an answer that is told to be readable is
read in one way only. -/
theorem Has.unique {value found found' : Json} {name : Text} (h : Has value name found)
    (h' : Has value name found') : found = found' := by
  obtain ⟨attributes, rfl, hfound⟩ := h
  obtain ⟨attributes', heq, hfound'⟩ := h'
  obtain rfl := Json.obj.inj heq
  exact Option.some.inj (hfound.symm.trans hfound')

namespace Hosted

/-- An error for a fault is one with that fault. Its kind and its message
depend on the service, but for most of what follows they need not be
known. -/
theorem exists_ofFault_eq (fault : Fault) :
    ∃ kind message, (ofFault fault).2 = errorOf kind message (some fault) := by
  rw [ofFault]
  split
  · exact ⟨_, _, rfl⟩
  · exact ⟨_, _, rfl⟩
  · split <;> exact ⟨_, _, rfl⟩

variable {value found answer choices usage tokens : Json} {ofClass name : Text}

/-- Reading an attribute succeeds exactly if it is there, with the value
that it has. -/
theorem attributeOf_eq_ok_iff :
    attributeOf value ofClass name = .ok found ↔ Has value name found := by
  constructor
  · intro h
    rw [attributeOf.eq_def] at h
    split at h
    · next attributes =>
      split at h
      · next hfound => exact ⟨attributes, rfl, hfound.trans (congrArg some (Except.ok.inj h))⟩
      · exact nomatch h
    · exact nomatch h
  · rintro ⟨attributes, rfl, hfound⟩
    rw [attributeOf, hfound]

/-- An attribute that is missing is no error of the backend: nothing in the
client catches it. -/
theorem unreported_attributeOf (value : Json) (ofClass name : Text) :
    Unreported (attributeOf value ofClass name) := by
  intro reported h
  rw [attributeOf.eq_def] at h
  split at h
  · split at h <;> exact nomatch h
  · exact nomatch h

/-- The same of the error itself, for where one has been met. An attribute
that is missing is a fault of the program, and not of the backend. -/
theorem ne_backend_of_attributeOf {e : CompletionError}
    (h : attributeOf value ofClass name = .error e) (reported : BackendError) :
    e ≠ .backend reported := by
  rintro rfl
  exact unreported_attributeOf value ofClass name reported h

/-- A list of choices that is empty, or that is no list at all, makes no
error of a backend. -/
theorem unreported_firstOf (choices : Json) : Unreported (firstOf choices) := by
  intro reported h
  rw [firstOf.eq_def] at h
  split at h <;> exact nomatch h

/-- An account of tokens without a total makes no error of a backend
either. -/
theorem unreported_tokensOf (usage : Json) : Unreported (tokensOf usage) := by
  rw [tokensOf]
  split
  · exact unreported_attributeOf _ _ _
  · exact unreported_ok _

/-- Whatever goes wrong when a completion is made of the first choice is no
error of a backend. Every step on the way is of this kind, so a completion
comes out, or an error that no backend reports. -/
theorem unreported_ofFirst (answer choices : Json) : Unreported (ofFirst answer choices) :=
  (unreported_firstOf _).bind fun _ => (unreported_attributeOf _ _ _).bind fun _ =>
    (unreported_attributeOf _ _ _).bind fun _ => (unreported_attributeOf _ _ _).bind fun _ =>
    (unreported_attributeOf _ _ _).bind fun _ => (unreported_tokensOf _).bind fun _ =>
    (unreported_attributeOf _ _ _).bind fun _ => (unreported_attributeOf _ _ _).bind fun _ =>
    (unreported_attributeOf _ _ _).bind fun _ => unreported_unfit _

/-- An account of tokens: there is none, or an object that counts them, even
if it says that they were not counted. -/
inductive IsAccount (usage : Json) : Prop
  | missing : isCounted usage = false → IsAccount usage
  | counted {total : Json} : Has usage "total_tokens" total → IsOptionalCount total →
      IsAccount usage

/-- Tokens that fit can be read off exactly if there is an account of
them. -/
theorem isAccount_iff : (∃ tokens, tokensOf usage = .ok tokens ∧ IsOptionalCount tokens)
    ↔ IsAccount usage := by
  constructor
  · rintro ⟨tokens, htokens, hcount⟩
    rw [tokensOf] at htokens
    split at htokens
    · exact .counted (attributeOf_eq_ok_iff.mp htokens) hcount
    · next hnone => exact .missing (Bool.eq_false_iff.mpr hnone)
  · rintro (hnone | ⟨htotal, hcount⟩)
    · exact ⟨.null, by rw [tokensOf, hnone]; rfl, none, rfl⟩
    · refine ⟨_, ?_, hcount⟩
      have hcounted : isCounted usage = true := by
        obtain ⟨attributes, rfl, -⟩ := htotal
        rfl
      rw [tokensOf, if_pos hcounted, attributeOf_eq_ok_iff.mpr htotal]

/-- A choice: a message with a text, and why it ended. -/
structure IsChoice (choice : Json) : Prop where
  message : ∃ message content, Has choice "message" message ∧ Has message "content" content
    ∧ IsFalseOr IsText content
  finish : ∃ finish, Has choice "finish_reason" finish ∧ IsOptionalText finish

/-- An answer with a first choice. -/
structure IsFilled (answer : Json) : Prop where
  choice : ∃ choice others, Has answer "choices" (.arr (choice :: others)) ∧ IsChoice choice
  model : ∃ model, Has answer "model" model ∧ IsText model
  usage : ∃ usage, Has answer "usage" usage ∧ IsAccount usage
  id : ∃ id, Has answer "id" id
  created : ∃ created, Has answer "created" created

/-- An answer of the hosted service that is what it should be: a first
choice, or none. -/
inductive IsReadable (answer : Json) : Prop
  | empty {choices : Json} : Has answer "choices" choices → choices.isTruthy = false →
      IsReadable answer
  | filled : IsFilled answer → IsReadable answer

/-- The first of several choices has a message only where they are a
list. -/
theorem firstOf_eq_ok_iff {choice message : Json} (hmessage : Has choice name message) :
    firstOf choices = .ok choice ↔ ∃ others, choices = .arr (choice :: others) := by
  constructor
  · intro h
    rw [firstOf.eq_def] at h
    split at h
    · next others => exact ⟨others, by rw [Except.ok.inj h]⟩
    · -- A letter has no attributes.
      obtain rfl := Except.ok.inj h
      obtain ⟨_, heq, _⟩ := hmessage
      exact nomatch heq
    · exact nomatch h
    · exact nomatch h
  · rintro ⟨others, rfl⟩
    rfl

/-- A completion is made of an answer with a first choice exactly if
everything that is read of it is there and is of its type. What is missing
or of another type ends the reading. -/
theorem exists_ofFirst_iff (hchoices : Has answer "choices" choices) :
    (∃ completion, ofFirst answer choices = .ok completion) ↔ IsFilled answer := by
  simp only [ofFirst, bind_eq_ok_iff, attributeOf_eq_ok_iff]
  constructor
  · rintro ⟨completion, choice, hfirst, message, hmessage, content, hcontent, model, hmodel,
      usage, husage, tokens, htokens, finish, hfinish, id, hid, created, hcreated, hvalues⟩
    -- The choices are a list, since the first of them has a message.
    obtain ⟨others, rfl⟩ := (firstOf_eq_ok_iff hmessage).mp hfirst
    obtain ⟨htext, hname, hcount, hreason⟩ :=
      exists_ofValues_iff.mp ⟨_, Workspace.ok_of_mapError hvalues⟩
    exact ⟨⟨choice, others, hchoices,
      ⟨message, content, hmessage, hcontent, isText_orElse_iff.mp htext⟩,
      finish, hfinish, hreason⟩, ⟨model, hmodel, hname⟩,
      ⟨usage, husage, isAccount_iff.mp ⟨tokens, htokens, hcount⟩⟩, ⟨id, hid⟩, created, hcreated⟩
  · rintro ⟨⟨choice, others, hfirst, ⟨message, content, hmessage, hcontent, htext⟩, finish,
      hfinish, hreason⟩, ⟨model, hmodel, hname⟩, ⟨usage, husage, haccount⟩, ⟨id, hid⟩, created,
      hcreated⟩
    obtain ⟨tokens, htokens, hcount⟩ := isAccount_iff.mpr haccount
    obtain ⟨completion, hvalues⟩ : ∃ completion, Completion.ofValues (orElse content (.str []))
        model tokens finish [("id", id), ("created", created)] = .ok completion :=
      exists_ofValues_iff.mpr ⟨isText_orElse_iff.mpr htext, hname, hcount, hreason⟩
    exact ⟨completion, choice, (firstOf_eq_ok_iff hmessage).mpr ⟨others, hchoices.unique hfirst⟩,
      message, hmessage, content, hcontent, model, hmodel, usage, husage, tokens, htokens, finish,
      hfinish, id, hid, created, hcreated, congrArg (Except.mapError _) hvalues⟩

/-- The one thing that the backend reports of an answer is that it has no
choices. All other faults of it go unreported. -/
theorem eq_of_ofAnswer_reported {answer : Answer} {reported : BackendError}
    (h : (ofAnswer answer).2 = .error (.backend reported)) :
    CompletionError.backend reported
      = errorOf .provider "OpenAI returned no completion choices" none := by
  rw [ofAnswer] at h
  split at h
  · next e hchoices =>
    exact absurd (Except.error.inj h) (ne_backend_of_attributeOf hchoices reported)
  · split at h
    · exact absurd h (unreported_ofFirst _ _ reported)
    · exact (Except.error.inj h).symm

/-- What the hosted service answers is settled exactly if it is what it
should be. -/
theorem settles_ofAnswer_iff (answer : Answer) :
    Settles .hosted (ofAnswer answer).2 ↔ IsReadable answer.value := by
  rw [ofAnswer]
  cases hchoices : attributeOf answer.value "ChatCompletion" "choices" with
  | error e =>
      refine iff_of_false (fun ⟨reported, heq, _⟩ =>
        ne_backend_of_attributeOf hchoices reported heq) ?_
      -- Either shape has choices.
      have hnone : ∀ choices, ¬ Has answer.value "choices" choices := fun choices h =>
        nomatch hchoices.symm.trans (attributeOf_eq_ok_iff.mpr h)
      rintro (⟨h, -⟩ | ⟨⟨_, _, h, -⟩, -⟩)
      · exact hnone _ h
      · exact hnone _ h
  | ok choices =>
      have hhas := attributeOf_eq_ok_iff.mp hchoices
      dsimp only
      split
      · next htrue =>
        rw [(unreported_ofFirst answer.value choices).settles_iff, exists_ofFirst_iff hhas]
        refine ⟨.filled, ?_⟩
        rintro (⟨h, hfalse⟩ | h)
        · rw [h.unique hhas, htrue] at hfalse
          exact nomatch hfalse
        · exact h
      · next hfalse =>
        exact iff_of_true ⟨_, rfl, rfl⟩ (.empty hhas (Bool.eq_false_iff.mpr hfalse))

end Hosted

/-! ### The local service -/

namespace Local

variable {a b total : Json} {members : Json.Members} {config : Config}

def IsNumber (value : Json) : Prop := (number? value).isSome = true

/-- The value of a key, which is `null` if there is none. -/
def given (members : Json.Members) (key : Text) : Json :=
  (Json.Members.get? members key).getD .null

/-- The number of tokens under a key, which is zero if there is none. -/
def countOf (members : Json.Members) (key : Text) : Json :=
  orElse (given members key) (.int 0)

/-- An object that a completion can be made of: both counts have a sum that
is a number, and an integer if it is positive; the text and the model are
texts, and the duration that is logged is a number, if they are there. -/
structure IsFilled (members : Json.Members) : Prop where
  counts : ∃ total, add (countOf members "prompt_eval_count") (countOf members "eval_count")
      = .ok total
    ∧ IsNumber total ∧ (isPositive total = .ok true → IsOptionalCount total)
  response : IsFalseOr IsText (given members "response")
  model : IsFalseOr IsText (given members "model")
  duration : IsFalseOr IsNumber (given members "total_duration")

/-- An answer of the local service that is what it should be. -/
def IsReadable (answer : Json) : Prop := ∃ members, answer = .obj members ∧ IsFilled members

/-- A number that is too large to be converted is not reported, since that
happens behind the part in which errors are caught. -/
theorem unreported_toDouble (value : Json) : Unreported (toDouble value) := by
  intro reported h
  rw [toDouble.eq_def] at h
  split at h
  · split at h <;> exact nomatch h
  · exact nomatch h
  · exact nomatch h

/-- Counts that cannot be added up are not reported either. They may be of
any type that the answer holds. -/
theorem unreported_add (a b : Json) : Unreported (add a b) := by
  rw [add.eq_def]
  split
  · exact unreported_ok _
  · exact (unreported_toDouble _).bind fun _ => (unreported_toDouble _).bind fun _ =>
      unreported_ok _
  · split <;> exact fun _ h => nomatch h

/-- A sum that cannot be compared with zero is not reported, whatever type
it has. -/
theorem unreported_isPositive (value : Json) : Unreported (isPositive value) := by
  rw [isPositive]
  split <;> exact fun _ h => nomatch h

/-- Whatever else is wrong with the counts of the local service is not
reported. -/
theorem unreported_tokensOf (members : Json.Members) : Unreported (tokensOf members) :=
  (unreported_add _ _).bind fun _ => (unreported_isPositive _).bind fun _ => unreported_ok _

/-- A duration that is no number only comes up when it is logged, and it is
not reported either. -/
theorem unreported_checkDuration (members : Json.Members) :
    Unreported (checkDuration members) := by
  rw [checkDuration]
  split <;> exact fun _ h => nomatch h

/-- Numbers can be compared with zero, and nothing else can. -/
theorem exists_isPositive_iff : (∃ positive, isPositive total = .ok positive) ↔ IsNumber total := by
  cases total <;> simp [isPositive, IsNumber, number?]

/-- Tokens that fit are those of counts that have a sum. The sum has to be a
number, and it has to fit only if it is positive. -/
theorem exists_tokensOf_iff : (∃ tokens, tokensOf members = .ok tokens ∧ IsOptionalCount tokens)
    ↔ ∃ total, add (countOf members "prompt_eval_count") (countOf members "eval_count") = .ok total
      ∧ IsNumber total ∧ (isPositive total = .ok true → IsOptionalCount total) := by
  have htokens : tokensOf members
      = (add (countOf members "prompt_eval_count") (countOf members "eval_count") >>= fun total =>
        isPositive total >>= fun positive => .ok (if positive then total else .null)) := rfl
  simp only [htokens, bind_eq_ok_iff]
  -- A sum that is not positive counts as none, and none always fits.
  constructor
  · rintro ⟨tokens, ⟨total, hadd, positive, hpositive, heq⟩, hcount⟩
    refine ⟨total, hadd, exists_isPositive_iff.mp ⟨_, hpositive⟩, fun htrue => ?_⟩
    obtain rfl := Except.ok.inj (hpositive.symm.trans htrue)
    rwa [← Except.ok.inj heq] at hcount
  · rintro ⟨total, hadd, hnumber, hcount⟩
    obtain ⟨positive, hpositive⟩ := exists_isPositive_iff.mpr hnumber
    refine ⟨_, ⟨total, hadd, positive, hpositive, rfl⟩, ?_⟩
    cases positive with
    | true => exact hcount hpositive
    | false => exact ⟨none, rfl⟩

/-- The duration can be logged exactly if it is a number or counts for
nothing, in which case zero is logged. -/
theorem checkDuration_eq_ok_iff :
    checkDuration members = .ok () ↔ IsFalseOr IsNumber (given members "total_duration") := by
  have hzero : IsNumber (.int 0) := rfl
  rw [← orElse_iff hzero, checkDuration, IsNumber]
  split
  · next hnumber => exact iff_of_true rfl (hnumber ▸ rfl)
  · next hnone => exact iff_of_false nofun fun h => nomatch hnone ▸ h

/-- A completion is made of an object that is what it should be: its texts
are texts, its counts add up, and what is logged of it is a number. -/
theorem exists_ofMembers_iff (config : Config) (members : Json.Members) :
    (∃ completion, (ofAnswer config (.obj members)).2 = .ok completion) ↔ IsFilled members := by
  have hresult : (ofAnswer config (.obj members)).2 = (tokensOf members >>= fun tokens =>
      (Completion.ofValues (orElse (given members "response") (.str []))
        (orElse (given members "model") (.str (modelOf config))) tokens
        (if (given members "done").isTruthy then .str "stop" else .null)
        [("total_duration", given members "total_duration"),
          ("load_duration", given members "load_duration"),
          ("eval_duration", given members "eval_duration")]).mapError .unfit >>= fun completion =>
      checkDuration members >>= fun _ => .ok completion) := rfl
  simp only [hresult, bind_eq_ok_iff]
  constructor
  · rintro ⟨completion, tokens, htokens, _, hvalues, ⟨⟩, hduration, -⟩
    obtain ⟨htext, hmodel, hcount, -⟩ :=
      exists_ofValues_iff.mp ⟨_, Workspace.ok_of_mapError hvalues⟩
    exact ⟨exists_tokensOf_iff.mp ⟨tokens, htokens, hcount⟩, isText_orElse_iff.mp htext,
      isText_orElse_iff.mp hmodel, checkDuration_eq_ok_iff.mp hduration⟩
  · rintro ⟨hcounts, hresponse, hmodel, hduration⟩
    obtain ⟨tokens, htokens, hcount⟩ := exists_tokensOf_iff.mpr hcounts
    -- The reason to end is made up here, so it fits whatever the answer says.
    have hreason :
        IsOptionalText (if (given members "done").isTruthy then .str "stop" else .null) := by
      split
      · exact .inr ⟨_, rfl⟩
      · exact .inl rfl
    obtain ⟨completion, hvalues⟩ := exists_ofValues_iff.mpr
      ⟨isText_orElse_iff.mpr hresponse, isText_orElse_iff.mpr hmodel, hcount, hreason⟩
    exact ⟨completion, tokens, htokens, completion, congrArg (Except.mapError _) hvalues, (),
      checkDuration_eq_ok_iff.mpr hduration, rfl⟩

/-- Whatever the local service answers, what is wrong with the answer is not
reported: the client reads it when it no longer looks for errors. -/
theorem unreported_ofAnswer (config : Config) (answer : Json) :
    Unreported (ofAnswer config answer).2 := by
  rw [ofAnswer.eq_def]
  split
  · exact (unreported_tokensOf _).bind fun _ => (unreported_unfit _).bind fun _ =>
      (unreported_checkDuration _).bind fun _ => unreported_ok _
  · exact fun _ h => nomatch h

/-- What the local service answers is settled exactly if it is what it
should be. -/
theorem settles_ofAnswer_iff (config : Config) (answer : Json) :
    Settles .local (ofAnswer config answer).2 ↔ IsReadable answer := by
  rw [(unreported_ofAnswer config answer).settles_iff, IsReadable]
  constructor
  · intro h
    cases answer with
    | obj members => exact ⟨members, rfl, (exists_ofMembers_iff config members).mp h⟩
    | _ => exact nomatch h.choose_spec
  · rintro ⟨members, rfl, hfilled⟩
    exact (exists_ofMembers_iff config members).mpr hfilled

end Local

end DocScribe.Backend
