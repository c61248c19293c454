import PulseBridge.Journal
import PulseBridge.Relay
import PulseBridge.Settings.Relaying

/-!
# The bridge to the chat

The bridge is the relay and the courier of its alerts at work together: what the relay takes in is
posted to the chat, with what was found out about it.
-/

namespace PulseBridge

open Http (Web Sent)
open Settings (Relaying)

/-- The bridge between two events. -/
structure ChatBridge where
  intake : Intake
  courier : Courier
  log : List Sent

namespace ChatBridge

/-- The bridge at the beginning. -/
def start (room : Nat) : ChatBridge := ⟨.start room, .start, []⟩

/-- The work that delivers alerts. -/
def courierScope : Scope := .run "sink" "slack"

/-- The work that a notice about an alert's delivery is told in. -/
def deliveryScope (alert : Alert) : Notice → Scope
  | .lookupFailed _ | .lookupTimedOut =>
      courierScope.within "deliver" [("org", alert.org), ("check", alert.check)]
  | _ => courierScope

/-- Answer an inquiry. -/
def answer (now : String) (bridge : ChatBridge) (inquiry : Relay.Inquiry) :
    Relay.Response × ChatBridge × List Entry :=
  let (response, intake, notices) := Relay.answer now bridge.intake inquiry
  (response, { bridge with intake }, notices.map (·.entry .none))

/-- Deliver alerts one after the other. -/
def deliverEach (sink : Sink (List Sent) Alert) :
    List Alert → ChatBridge → ChatBridge × List Entry
  | [], bridge => (bridge, [])
  | alert :: alerts, bridge =>
      let (courier, notices, log) := bridge.courier.deliver sink bridge.log alert
      let (bridge, more) := deliverEach sink alerts { bridge with courier, log }
      (bridge, notices.map (fun notice => notice.entry (deliveryScope alert notice)) ++ more)

/-- Deliver the first alert that has been taken in, if there is one. -/
def deliverNext (web : Web) (chat : Chat) (enricher : Enricher) (bridge : ChatBridge) :
    ChatBridge × List Entry :=
  match bridge.intake.take? with
  | none => (bridge, [])
  | some (alert, intake) => deliverEach (chat.sink web enricher) [alert] { bridge with intake }

/-- Deliver all that has been taken in. -/
def deliverAll (web : Web) (chat : Chat) (enricher : Enricher) (bridge : ChatBridge) :
    ChatBridge × List Entry :=
  let (alerts, intake) := bridge.intake.takeAll
  deliverEach (chat.sink web enricher) alerts { bridge with intake }

/-- Answer an inquiry and deliver what it brought. -/
def handle (now : String) (web : Web) (chat : Chat) (enricher : Enricher) (bridge : ChatBridge)
    (inquiry : Relay.Inquiry) : Relay.Response × ChatBridge × List Entry :=
  let (response, bridge, told) := bridge.answer now inquiry
  let (bridge, delivered) := bridge.deliverAll web chat enricher
  (response, bridge, told ++ delivered)

/-! ## Beginning and end -/

/-- What looks up something about alerts, under some settings. -/
def enricher (web : Web) (settings : Relaying) : Enricher :=
  match settings.archive? with
  | some archive => .mentions web archive
  | none => .none

/-- What is told when the bridge starts, up to the moment at which the relay begins to listen. -/
def opening (settings : Relaying) : List Entry :=
  settings.notices.map (·.entry .none)
    ++ [.told "taut" "tauters gonna taut"]
    ++ (settings.archive?.map fun archive =>
        Entry.told "taut" ("history lookup enabled against " ++ archive.url)).toList
    ++ [.told "radalert::api" ("starting relay on " ++ settings.listen.text)]

/-- What is told when the relay listens. -/
def listening (address : Net.SocketAddress) : Entry :=
  .told "radalert::api" ("relay listening on " ++ address.text)

/-- What is told when the bridge is interrupted. -/
def farewell : Entry := .told "taut" "shutting down"

/-- What is told at the very end. -/
def summary (bridge : ChatBridge) : Entry :=
  .told "taut" <|
    toString bridge.courier.tally.delivered ++ " alerts delivered, "
      ++ toString bridge.courier.tally.failed ++ " failed"

end ChatBridge

end PulseBridge
