import PulseBridge.Alert

/-!
# Chat messages

A message is posted under a name. The message about an alert has a headline and the alert's
summary, and perhaps one more line.
-/

namespace PulseBridge

/-- A message in the chat. -/
structure ChatMessage where
  username : String
  text : String
  deriving DecidableEq, Repr

namespace ChatMessage

/-- A message of some lines. -/
def ofLines (username : String) (lines : List String) : ChatMessage :=
  ⟨username, "\n".intercalate lines⟩

/-- The first line of a message about an alert. -/
def headline : String := ":rotating_light: Anomaly detected"

/-- The lines of a message about an alert. -/
def alertLines (alert : Alert) : List String := [headline, alert.summary]

/-- The message about an alert, with a further line if there is one. -/
def ofAlert (username : String) (alert : Alert) (further : Option String) : ChatMessage :=
  ofLines username (alertLines alert ++ further.toList)

/-- The message in JSON. -/
def encode (message : ChatMessage) : Octets :=
  Json.writeMembers
    [("username", Json.writeText message.username), ("text", Json.writeText message.text)]

end ChatMessage

end PulseBridge
