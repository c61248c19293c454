import PulseBridge.Http.Outgoing
import PulseBridge.Http.Wire

/-!
# Scripted servers

A server that answers from a script: for every path it knows the answers that it gives one after
the other, the last of them again and again. Paths without a script of their own share that of
`*`. What the script says of a reply is sent as it stands, whether it makes sense or not. Nobody
listens at any other address.
-/

namespace PulseBridge.Http

/-- A reply as a script has it. -/
structure ScriptedReply where
  code : Nat
  /-- The headers, with their names as they are sent. -/
  headers : List Header
  body : Octets
  /-- Whether more octets are announced than are sent. -/
  truncated : Bool

namespace ScriptedReply

/-- How many octets too many a truncated reply announces. -/
def excess : Nat := 10

/-- The reply as it is sent. The connection is closed after it. -/
def octets (reply : ScriptedReply) : Octets :=
  let length := reply.body.length + if reply.truncated then excess else 0
  Wire.writeMessage
    ⟨"HTTP/1.1 " ++ toString reply.code ++ " " ++ (Status.phrases.lookup reply.code).getD "",
      reply.headers ++ [⟨"content-length", toString length⟩, ⟨"connection", "close"⟩], reply.body⟩

end ScriptedReply

/-- What a script has a server do. -/
inductive ScriptedAnswer where
  | reply (reply : ScriptedReply)
  | close
  | stall

/-- What comes of a request to which a server answers so. -/
def ScriptedAnswer.seen (sent : Sent) : ScriptedAnswer → Answer
  | .reply scripted => Wire.answerOf (Wire.readReply sent true scripted.octets)
  | .close => .closed
  | .stall => .stalled

/-- A server and its script. -/
structure Script where
  host : Net.Host
  port : UInt16
  routes : List (String × List ScriptedAnswer)

namespace Script

/-- Whether a request is sent to the server. -/
def isAskedBy (script : Script) (sent : Sent) : Bool :=
  sent.url.host? == some script.host && sent.url.portOrUsual == some script.port

/-- Whether a request reaches the server: it waits for all of the body that is announced. -/
def isReachedBy (script : Script) (sent : Sent) : Bool := script.isAskedBy sent && sent.isWhole

/-- The part of the script that a request follows. -/
def routeOf (script : Script) (sent : Sent) : String :=
  if (script.routes.lookup sent.path).isSome then sent.path else "*"

/-- The answer of a server that knows nothing. -/
def unknown : ScriptedAnswer := .reply ⟨404, [], [], false⟩

/-- How many earlier requests reached the server on the same part of the script. -/
def turn (script : Script) (earlier : List Sent) (sent : Sent) : Nat :=
  (earlier.filter fun e => script.isReachedBy e && script.routeOf e == script.routeOf sent).length

/-- The web in which the server is all there is. -/
def web (script : Script) : Web := fun earlier sent =>
  if !script.isAskedBy sent then .refused
  else if !sent.isWhole then .stalled
  else
    let answers := (script.routes.lookup (script.routeOf sent)).getD []
    (answers.getD (script.turn earlier sent) (answers.getLastD unknown)).seen sent

end Script

end PulseBridge.Http
