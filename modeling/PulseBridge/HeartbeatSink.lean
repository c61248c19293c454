import PulseBridge.Courier
import PulseBridge.Heartbeat
import PulseBridge.Http.Client

/-!
# Delivering heartbeats

A heartbeat is posted as JSON. It counts as delivered only if the answer is a plain success.
-/

namespace PulseBridge

open Http (Web Sent Fetched CallError Status)

/-- The status of an answer that takes what was posted. -/
def acceptance (answer : Except CallError Fetched) : Except CallError Status :=
  answer.bind fun fetched => (fetched.requireOk).map (·.status)

/-- The request that posts a heartbeat. -/
def Heartbeat.request (url : String) (h : Heartbeat) : Http.Request :=
  .post url (.json h.encode)

/-- Post a heartbeat. -/
def Heartbeat.deliver (web : Web) (url : String) (earlier : List Sent) (h : Heartbeat) :
    Delivery × List Sent :=
  let (answer, log) := Http.call web earlier (h.request url)
  (.ofCall (acceptance answer), log)

/-- The receiver of heartbeats at an address. -/
def heartbeatSink (web : Web) (url : String) : Sink (List Sent) Heartbeat where
  name := "pacemaker"
  deliver earlier h :=
    let (delivery, log) := h.deliver web url earlier
    (.finished delivery, [], log)

end PulseBridge
