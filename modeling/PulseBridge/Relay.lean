import PulseBridge.ChatCommand
import PulseBridge.Form
import PulseBridge.Http.Request
import PulseBridge.Intake

/-!
# The relay

What the relay answers to those who bring alerts, to the chat that sends commands, and to whoever
asks about its health. Alerts are only judged and put into the intake here; their delivery is the
courier's.
-/

namespace PulseBridge.Relay

open Http (Status)

/-- What somebody asks of the relay. -/
structure Inquiry where
  method : String
  /-- Path and query. -/
  target : String
  contentType : Option String
  body : Octets
  deriving DecidableEq, Repr

/-- What the relay answers. -/
structure Response where
  status : Nat
  contentType : Option String
  /-- The methods that are allowed, where another one was used. -/
  allow : Option String
  body : Octets
  deriving DecidableEq, Repr

namespace Response

/-- An answer of text. -/
def text (status : Nat) (body : String) : Response :=
  ⟨status, some "text/plain; charset=utf-8", none, Octets.ofText body⟩

/-- An answer in JSON. -/
def json (status : Nat) (body : Octets) : Response := ⟨status, some Http.jsonType, none, body⟩

/-- There is nothing at this path. -/
def notFound : Response := ⟨404, none, none, []⟩

/-- The method is not one of those allowed here. -/
def notAllowed (methods : String) : Response := ⟨405, none, some methods, []⟩

/-- The body is longer than what is accepted. -/
def tooLarge : Response := text 413 "Failed to buffer the request body: length limit exceeded"

end Response

/-- The greatest length of a body. -/
def bodyLimit : Nat := 2097152

/-- Take an alert. One that is not active is acknowledged and dropped. -/
def receiveAlert (intake : Intake) (body : Octets) : Response × Intake × List Notice :=
  if bodyLimit < body.length then (.tooLarge, intake, [])
  else
    match Alert.decode body with
    | .error e =>
        let refusal := Json.writeText ("invalid alert payload: " ++ e.message)
        (.json 400 (Json.writeMembers [("error", refusal)]), intake, [.alertRefused e.message])
    | .ok alert =>
        if alert.isActive then
          let (intake, notices) := intake.offer alert
          (.text 200 "OK", intake, notices)
        else (.text 200 "OK", intake, [.alertSuppressed alert.state alert.check])

/-- The text of a command form. Other fields are passed over; a second text is refused. -/
def commandText (body : Octets) : Option String :=
  match (Form.decode body).filter (·.1 == "text") with
  | [] => some ""
  | [(_, text)] => some text
  | _ => none

/-- Whether a header's value consists of visible ASCII characters and blanks. -/
def isPlainValue (value : String) : Bool :=
  value.toList.all fun c => (0x20 ≤ c.toNat && c.toNat < 0x7f) || c == '\t'

/-- Whether the content of an inquiry is said to be a form. -/
def saysForm (contentType : Option String) : Bool :=
  match contentType with
  | none => false
  | some value => isPlainValue value && Http.formType.toList.isPrefixOf value.toList

/-- Answer a command. -/
def receiveCommand (contentType : Option String) (body : Octets) : Response :=
  if !saysForm contentType then
    .text 415 ("Form requests must have `Content-Type: " ++ Http.formType ++ "`")
  else if bodyLimit < body.length then .tooLarge
  else
    match commandText body with
    | none => .text 422 "Failed to deserialize form body: duplicate field `text`"
    | some text =>
        let reply := (ChatCommand.ofText text).reply
        .json 200 (Json.writeMembers [("text", Json.writeText reply)])

/-- Tell that the relay lives, what time it is, and how many alerts wait in the channel. -/
def health (now : String) (intake : Intake) : Response :=
  .json 200 (Json.writeMembers
    [ ("status", Json.writeText "ok"),
      ("timestamp", Json.writeText now),
      ("queued_alerts", Octets.ofText (toString intake.queued)) ])

/-- What stands at a path. -/
inductive Route where
  | health
  | alerts
  | commands
  deriving DecidableEq, Repr

/-- What stands at a path, if anything does. -/
def route? (path : String) : Option Route :=
  if path == "/health" then some .health
  else if path == "/pacemaker" || path == "/integrations/pacemaker" then some .alerts
  else if path == "/slack" || path == "/integrations/slack" then some .commands
  else none

/-- What follows the host of a target that names one. -/
def afterHost : List Char → List Char
  | ':' :: '/' :: '/' :: rest => rest.dropWhile fun c => !("/?#".toList.contains c)
  | _ :: rest => afterHost rest
  | [] => []

/-- The path of a target. A target may also name scheme and host in front of it. -/
def pathOf (target : String) : String :=
  let cs := target.toList
  let cs := if cs.head? == some '/' then cs else afterHost cs
  String.ofList (cs.takeWhile fun c => c != '?' && c != '#')

/-- Answer an inquiry. -/
def answer (now : String) (intake : Intake) (inquiry : Inquiry) :
    Response × Intake × List Notice :=
  match route? (pathOf inquiry.target) with
  | none => (.notFound, intake, [])
  | some .health =>
      if inquiry.method == "GET" then (health now intake, intake, [])
      else if inquiry.method == "HEAD" then ({ health now intake with body := [] }, intake, [])
      else (.notAllowed "GET,HEAD", intake, [])
  | some .alerts =>
      if inquiry.method == "POST" then receiveAlert intake inquiry.body
      else (.notAllowed "POST", intake, [])
  | some .commands =>
      if inquiry.method == "POST" then
        (receiveCommand inquiry.contentType inquiry.body, intake, [])
      else (.notAllowed "POST", intake, [])

end PulseBridge.Relay
