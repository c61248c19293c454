import PulseBridge.Calendar
import PulseBridge.Json.Value
import PulseBridge.Text.Blank

/-!
# Alerts

An alert tells that a check has become anomalous, or that it has recovered. Only active alerts are
worth a message: one without a state, or whose state says that the anomaly is over, is suppressed.
-/

namespace PulseBridge

/-- What the state of an alert says. -/
inductive AlertStatus where
  /-- There is no state, or an empty one. -/
  | missing
  /-- The anomaly is over. -/
  | resolved
  /-- Anything else. -/
  | active
  deriving DecidableEq, Repr

/-- Whether a trimmed state says that the anomaly is over. -/
def saysResolved (state : String) : Bool :=
  Text.sameIgnoringAsciiCase state "ok" || Text.sameIgnoringAsciiCase state "resolved"

/-- What a state says. Emptiness is judged before trimming, so a blank state is active. -/
def AlertStatus.ofState : Option String → AlertStatus
  | none => .missing
  | some state =>
      if state.isEmpty then .missing
      else if saysResolved (Text.trim state) then .resolved
      else .active

/-- A notice about one check of an organisation. -/
structure Alert where
  state : Option String
  org : String
  check : String
  /-- When the anomaly began, in seconds since the beginning of 1970. -/
  anomalyStart : Option Int64
  /-- How long the anomaly has lasted, in seconds. -/
  anomalyDuration : Option Int64
  tags : List String
  deriving DecidableEq, Repr

namespace Alert

/-- What the alert's state says. -/
def status (alert : Alert) : AlertStatus := .ofState alert.state

/-- Whether the alert is worth a message. -/
def isActive (alert : Alert) : Bool := alert.status == .active

/-- An alert of which nothing is known. -/
def blank : Alert := ⟨none, "", "", none, none, []⟩

/-- How an alert is read. Every member may be left out. -/
def record : Json.Record Alert where
  title := "AlertEvent"
  blank := blank
  fields :=
    [ .of "state" [] false (.nullable .text) fun v a => { a with state := v },
      .of "org" [] false .text fun v a => { a with org := v },
      .of "check" [] false .text fun v a => { a with check := v },
      .of "anomaly_start" [] false (.nullable .i64) fun v a => { a with anomalyStart := v },
      .of "anomaly_duration" [] false (.nullable .i64) fun v a => { a with anomalyDuration := v },
      .of "tags" [] false (.list .text) fun v a => { a with tags := v } ]

/-- The alert that a body describes. -/
def decode (body : Octets) : Except Json.Error Alert := Json.decode record.reader body

/-- A member that is left out if there is no value. -/
def optionalMember {α : Type} (name : String) (value : Option α) (write : α → Octets) :
    List (String × Octets) :=
  (value.map fun v => (name, write v)).toList

/-- A signed integer in JSON. -/
def writeInt (n : Int64) : Octets := Octets.ofText (toString n.toInt)

/-- The alert in JSON. -/
def encode (alert : Alert) : Octets :=
  Json.writeMembers
    (optionalMember "state" alert.state Json.writeText
      ++ [("org", Json.writeText alert.org), ("check", Json.writeText alert.check)]
      ++ optionalMember "anomaly_start" alert.anomalyStart writeInt
      ++ optionalMember "anomaly_duration" alert.anomalyDuration writeInt
      ++ [("tags", Json.writeList (alert.tags.map Json.writeText))])

/-- Since when, or for how long, the check has been anomalous. The beginning is preferred. -/
def anomaly? (alert : Alert) : Option String :=
  match alert.anomalyStart with
  | some start =>
      match Calendar.timestamp? start.toInt with
      | some time => some ("since " ++ time)
      | none => some ("since " ++ toString start.toInt)
  | none => alert.anomalyDuration.map fun duration => "for " ++ toString duration.toInt ++ "s"

/-- The alert in one line of a message. -/
def summary (alert : Alert) : String :=
  let state := (alert.state.map Text.trim).getD "UNKNOWN"
  let anomaly := (alert.anomaly?.map (" anomalous " ++ ·)).getD ""
  let tags := if alert.tags.isEmpty then "" else " (" ++ ", ".intercalate alert.tags ++ ")"
  "[" ++ state ++ "] *" ++ alert.org ++ "* `" ++ alert.check ++ "`" ++ anomaly ++ tags

end Alert

end PulseBridge
