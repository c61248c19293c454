import PulseBridge.Proofs.Form
import PulseBridge.Proofs.Json.Texts
import PulseBridge.Relay

/-!
# What is answered to those who send commands

A command is the text of a form that the chat posts, among whatever else the form holds. The answer
is one document with the reply to the command and nothing else, whatever stands in the command and
is quoted in the reply. A form without a text is answered as an empty command, one with several
texts is refused, and none of them changes anything.

## Main statements

* `answer_of_command`: the answers to forms with one text, with none and with several.
-/

namespace PulseBridge.Relay

/-- Where commands are sent to. -/
def commandPaths : List String := ["/slack", "/integrations/slack"]

theorem route?_eq_commands {path : String} (h : path ∈ commandPaths) :
    route? path = some .commands := by
  rcases List.mem_pair.mp h with rfl | rfl <;> decide

/-- What somebody posts as a form to where commands are sent to, no longer than what is accepted. -/
structure Inquiry.SendsForm (inquiry : Inquiry) : Prop where
  method : inquiry.method = "POST"
  path : pathOf inquiry.target ∈ commandPaths
  form : saysForm inquiry.contentType = true
  fits : inquiry.body.length ≤ bodyLimit

/-- Whether an answer is a document that holds one text and nothing else. -/
structure Response.Says (response : Response) (text : String) : Prop where
  status : response.status = 200
  contentType : response.contentType = some Http.jsonType
  body : Json.decode Json.readValue response.body = .ok (.object [("text", .text text)])

/-! ## The text of a form -/

/-- Those of some pairs that are a text. -/
def textsOf (pairs : List (String × String)) : List (String × String) :=
  pairs.filter (·.1 == "text")

theorem textsOf_eq_nil {pairs : List (String × String)} (h : ∀ pair ∈ pairs, pair.1 ≠ "text") :
    textsOf pairs = [] := by
  apply List.filter_eq_nil_iff.mpr
  intro pair hpair
  simpa using h pair hpair

theorem textsOf_text (before after : List (String × String)) (text : String) :
    textsOf (before ++ ("text", text) :: after) =
      textsOf before ++ ("text", text) :: textsOf after := by
  rw [textsOf, List.filter_append, List.filter_cons_of_pos rfl]
  rfl

variable {body : Octets} {pairs before middle after : List (String × String)} {s t : String}

/-- A form has the text that stands in it alone. -/
theorem commandText_of_one (decoded : Form.decode body = before ++ ("text", t) :: after)
    (others : ∀ pair ∈ before ++ after, pair.1 ≠ "text") : commandText body = some t := by
  obtain ⟨hbefore, hafter⟩ := List.forall_mem_append.mp others
  have texts : (Form.decode body).filter (·.1 == "text") = [("text", t)] := by
    rw [decoded, ← textsOf, textsOf_text, textsOf_eq_nil hbefore, textsOf_eq_nil hafter]
    rfl
  rw [commandText, texts]

/-- A form without a text has the empty one. -/
theorem commandText_of_none (decoded : Form.decode body = pairs)
    (others : ∀ pair ∈ pairs, pair.1 ≠ "text") : commandText body = some "" := by
  have texts : (Form.decode body).filter (·.1 == "text") = [] := by
    rw [decoded, ← textsOf, textsOf_eq_nil others]
  rw [commandText, texts]

/-- A form with several texts has none that counts. -/
theorem commandText_of_several
    (decoded : Form.decode body = before ++ ("text", s) :: (middle ++ ("text", t) :: after)) :
    commandText body = none := by
  have texts : (Form.decode body).filter (·.1 == "text") =
      textsOf before ++ ("text", s) :: (textsOf middle ++ ("text", t) :: textsOf after) := by
    rw [decoded, ← textsOf, textsOf_text, textsOf_text]
  rw [commandText, texts]
  -- Two texts are too many already, wherever they stand.
  cases textsOf before with
  | nil => cases textsOf middle <;> rfl
  | cons first further => cases further <;> rfl

/-! ## Answers -/

variable {now : String} {intake : Intake} {inquiry : Inquiry}

theorem answer_of_sendsForm (h : inquiry.SendsForm) :
    answer now intake inquiry = (receiveCommand inquiry.contentType inquiry.body, intake, []) := by
  simp [answer, route?_eq_commands h.path, h.method]

/-- The command in a form is replied to. -/
theorem says_reply (h : inquiry.SendsForm) (text : commandText inquiry.body = some t) :
    (receiveCommand inquiry.contentType inquiry.body).Says (ChatCommand.ofText t).reply := by
  have received : receiveCommand inquiry.contentType inquiry.body =
      .json 200 (Json.writeMembers [("text", Json.writeText (ChatCommand.ofText t).reply)]) := by
    simp [receiveCommand, h.form, Nat.not_lt.mpr h.fits, text]
  rw [received]
  exact ⟨rfl, rfl, Json.decode_writeTexts [("text", (ChatCommand.ofText t).reply)]⟩

/-- A form without a command in it that counts is refused. -/
theorem status_of_no_text (h : inquiry.SendsForm) (text : commandText inquiry.body = none) :
    (receiveCommand inquiry.contentType inquiry.body).status = 422 := by
  simp [receiveCommand, h.form, Nat.not_lt.mpr h.fits, text, Response.text]

/-- What is answered when a form is posted to where commands are sent to, in whatever way it is
spelled. If one of its pairs is a text, the answer says the reply to that text, and if none is, it
says the help text. A form with several texts is refused. In no case does the intake change, or what
is told of it afterwards. -/
theorem answer_of_command (now : String) (intake : Intake) (inquiry : Inquiry)
    (pairs : List (String × String)) (sends : inquiry.SendsForm)
    (spelled : Form.SpellsForm inquiry.body pairs) :
    (∀ before text after, pairs = before ++ ("text", text) :: after →
      (∀ pair ∈ before ++ after, pair.1 ≠ "text") →
        (answer now intake inquiry).1.Says (ChatCommand.ofText text).reply) ∧
    ((∀ pair ∈ pairs, pair.1 ≠ "text") →
      (answer now intake inquiry).1.Says ChatCommand.helpText) ∧
    (∀ before s middle t after,
      pairs = before ++ ("text", s) :: (middle ++ ("text", t) :: after) →
        (answer now intake inquiry).1.status = 422) ∧
    (answer now intake inquiry).2 = (intake, []) ∧
    ∀ now', health now' (answer now intake inquiry).2.1 = health now' intake := by
  have decoded := spelled.decode_eq
  rw [answer_of_sendsForm sends]
  refine ⟨?one, ?none, ?several, rfl, fun _ => rfl⟩
  case one =>
      rintro before text after rfl others
      exact says_reply sends (commandText_of_one decoded others)
  case none =>
      intro others
      exact says_reply sends (commandText_of_none decoded others)
  case several =>
      rintro before s middle t after rfl
      exact status_of_no_text sends (commandText_of_several decoded)

/-- A vote on a check whose name holds marks of a form and of a document, among other pairs. -/
def marked : Inquiry :=
  ⟨"POST", "/slack", some Http.formType,
    Form.encode [("token", "a=b&text=c"), ("text", "radalert: '\"\x7d&text=+1%' -1"), ("", "")]⟩

theorem answer_of_marked :
    marked.SendsForm ∧
      (answer "" (Intake.start 1) marked).1.Says "You voted -1 on '\"\x7d&text=+1%'" := by
  have sends : marked.SendsForm := ⟨rfl, by decide, by decide, by decide⟩
  obtain ⟨one, -⟩ := answer_of_command "" (Intake.start 1) marked _ sends (Form.spellsForm_encode _)
  exact ⟨sends, one [("token", "a=b&text=c")] _ [("", "")] rfl (by decide)⟩

end PulseBridge.Relay
