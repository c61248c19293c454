import PulseBridge.ChatMessage
import PulseBridge.HeartbeatSink
import PulseBridge.Mentions

/-!
# Delivering alerts

An alert is posted to the chat as a form with one field, the message in JSON. Before that something
may be found out about the alert's check and added to the message; when that fails, or takes too
long, the message goes out without it.
-/

namespace PulseBridge

open Http (Web Sent Fetched CallError)

/-- What came of looking up something about an alert. -/
inductive Lookup where
  /-- A line to be added, or nothing. -/
  | found (line : Option String)
  | failed (failure : Failure)
  | timedOut
  deriving DecidableEq, Repr

namespace Lookup

/-- The line to be added. -/
def line? : Lookup → Option String
  | .found line => line
  | _ => none

/-- What is told about a lookup. -/
def notices : Lookup → List Notice
  | .found _ => []
  | .failed failure => [.lookupFailed failure]
  | .timedOut => [.lookupTimedOut]

end Lookup

/-- Who notices that the time for a lookup is up: the lookup itself, or its call, which may take as
long. -/
inductive Watch where
  | lookup
  | call
  deriving DecidableEq, Repr

/-- What comes of a lookup when its call comes to a result. A call whose time is up has failed,
unless the lookup notices first that its own time is up. -/
def Archive.lookupOf (watch : Watch) (check : String) (answer : Except CallError Fetched) :
    Lookup :=
  let late := match answer with
    | .error e => e.isTimeout
    | .ok _ => false
  if late && watch == .lookup then .timedOut
  else
    match lineOfAnswer check answer with
    | .ok line => .found line
    | .error failure => .failed failure

/-- Looks up something about an alert. -/
abbrev Enricher := Alert → List Sent → Lookup × List Sent

namespace Enricher

/-- Looks up nothing. -/
def none : Enricher := fun _ log => (.found Option.none, log)

/-- Gives always the same result, without asking anybody. -/
def constant (lookup : Lookup) : Enricher := fun _ log => (lookup, log)

/-- Looks up earlier mentions of the alert's check. Who notices that the time is up may differ from
one lookup to the next; if nothing is said about it, the lookup does. -/
def mentions (web : Web) (archive : Archive) (watch : List Sent → Watch := fun _ => .lookup) :
    Enricher := fun alert earlier =>
  let called := archive.lookUp web alert.check earlier
  (Archive.lookupOf (watch earlier) alert.check called.1, called.2)

end Enricher

/-- The chat that alerts are posted to. -/
structure Chat where
  webhook : String
  username : String
  deriving DecidableEq, Repr

namespace Chat

/-- The message about an alert, with what was found out about it. -/
def messageFor (chat : Chat) (enricher : Enricher) (alert : Alert) (earlier : List Sent) :
    ChatMessage × List Notice × List Sent :=
  let (lookup, log) := enricher alert earlier
  (.ofAlert chat.username alert lookup.line?, lookup.notices, log)

/-- The request that posts a message. -/
def request (chat : Chat) (message : ChatMessage) : Http.Request :=
  .post chat.webhook (.form [("payload", Octets.lossyText message.encode)])

/-- Post a message. -/
def post (web : Web) (chat : Chat) (message : ChatMessage) (earlier : List Sent) :
    Delivery × List Sent :=
  let (answer, log) := Http.call web earlier (chat.request message)
  (.ofCall (acceptance answer), log)

/-- The chat as a place that alerts are delivered to. -/
def sink (web : Web) (chat : Chat) (enricher : Enricher) : Sink (List Sent) Alert where
  name := "slack"
  deliver earlier alert :=
    let (message, notices, log) := chat.messageFor enricher alert earlier
    let (delivery, log) := chat.post web message log
    (.finished delivery, notices, log)

end Chat

end PulseBridge
