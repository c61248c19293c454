import PulseBridge.Containment
import PulseBridge.Heartbeat
import PulseBridge.Http.Client
import PulseBridge.TargetAddress

/-!
# Polling

At every tick each check of the current list is polled: the provider is asked about its target, and
a good answer gives three heartbeats, which go into a channel one after the other. Polls do not
depend on each other; one that fails gives nothing and costs nothing but itself.
-/

namespace PulseBridge

open Http (Web Sent Fetched CallError)

/-- How checks are polled. -/
structure PollPlan where
  /-- The template of the provider's addresses. -/
  template : String
  ttl : UInt64
  deriving DecidableEq, Repr

namespace PollPlan

/-- The header that carries the credential of a check. -/
def credentialHeader : String := "X-Api-Key"

/-- The request about a check. -/
def request (plan : PollPlan) (check : Check) : Http.Request :=
  { Http.Request.get (TargetAddress.fill plan.template check.target) with
    headers := [(credentialHeader, check.credential)] }

/-- The heartbeats that an answer about a check gives. -/
def heartbeatsOfAnswer (plan : PollPlan) (check : Check) :
    Except CallError Fetched → Except Failure (List Heartbeat)
  | .error e => .error ((Failure.ofCall e).during "provider request failed")
  | .ok fetched =>
      match fetched.requireSuccess with
      | .error e => .error ((Failure.ofCall e).during "provider rejected the request")
      | .ok fetched =>
          match Reading.decode fetched.body with
          | .error e =>
              .error ((Failure.ofCall (.undecodable e)).during "couldn't decode provider response")
          | .ok reading => .ok (Heartbeat.ofReading check reading plan.ttl)

/-- Ask the provider about a check. -/
def ask (web : Web) (plan : PollPlan) (check : Check) (earlier : List Sent) :
    Except Failure (List Heartbeat) × List Sent :=
  let (answer, log) := Http.call web earlier (plan.request check)
  (plan.heartbeatsOfAnswer check answer, log)

end PollPlan

/-- What a tick has come to. -/
structure TickReport where
  /-- How many checks were polled. -/
  polled : Nat
  /-- How many polls put all their heartbeats into the channel. -/
  succeeded : Nat
  /-- How many heartbeats those were. -/
  heartbeats : Nat
  deriving DecidableEq, Repr

namespace TickReport

/-- A report on nothing. -/
def empty : TickReport := ⟨0, 0, 0⟩

/-- The report with one more poll, which gave so many heartbeats or failed. -/
def record (report : TickReport) : Option Nat → TickReport
  | some count =>
      { polled := report.polled + 1
        succeeded := report.succeeded + 1
        heartbeats := report.heartbeats + count }
  | none => { report with polled := report.polled + 1 }

end TickReport

/-- What one poll has done: the heartbeats that the channel took, what is told, and how many
heartbeats the poll counts, if it counts as a success. -/
structure Polled where
  sent : List Heartbeat
  notices : List Notice
  count : Option Nat

/-- What a poll does with the answer about its check, while somebody takes heartbeats from the
channel or after nobody does any more. -/
def Polled.ofAnswer (check : Check) (receiving : Bool) :
    Except Failure (List Heartbeat) → Polled
  | .error failure => ⟨[], [.pollFailed check failure], none⟩
  | .ok heartbeats =>
      if receiving then ⟨heartbeats, [], some heartbeats.length⟩
      else ⟨[], [.heartbeatsDropped check], none⟩

/-- What a tick has done. -/
structure Ticked where
  report : TickReport
  sent : List Heartbeat
  notices : List Notice
  log : List Sent

/-- Poll checks one after the other. -/
def pollEach (web : Web) (plan : PollPlan) (receiving : Bool) :
    List Check → Ticked → Ticked
  | [], done => done
  | check :: checks, done =>
      let (answer, log) := plan.ask web check done.log
      let polled := Polled.ofAnswer check receiving answer
      pollEach web plan receiving checks
        { report := done.report.record polled.count
          sent := done.sent ++ polled.sent
          notices := done.notices ++ polled.notices
          log }

/-- One tick over the checks as they are at its beginning. -/
def pollAll (web : Web) (plan : PollPlan) (receiving : Bool) (checks : List Check)
    (earlier : List Sent) : Ticked :=
  pollEach web plan receiving checks ⟨.empty, [], [], earlier⟩

/-- The poller between two ticks. -/
structure Poller where
  /-- Whether somebody takes heartbeats from the channel. -/
  receiving : Bool
  running : Bool
  deriving DecidableEq, Repr

namespace Poller

/-- A poller at the beginning. -/
def start : Poller := ⟨true, true⟩

/-- The timer fires. -/
def tick (web : Web) (plan : PollPlan) (checks : List Check) (poller : Poller)
    (earlier : List Sent) : Ticked :=
  if poller.running then pollAll web plan poller.receiving checks earlier
  else ⟨.empty, [], [], earlier⟩

/-- Someone asks for a tick and for its report. -/
def tickNow (web : Web) (plan : PollPlan) (checks : List Check) (poller : Poller)
    (earlier : List Sent) : Except Failure TickReport × Ticked :=
  let ticked := poller.tick web plan checks earlier
  (if poller.running then .ok ticked.report else .error (.unreachable "TickNow"), ticked)

/-- Tell the poller to stop. -/
def shutdown (poller : Poller) : Except Failure Unit × Poller :=
  (if poller.running then .ok () else .error (.unreachable "Shutdown"),
    { poller with running := false })

end Poller

end PulseBridge
