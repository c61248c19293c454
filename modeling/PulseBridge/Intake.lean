import PulseBridge.Alert
import PulseBridge.Notice

/-!
# The intake of alerts

Accepted alerts stand in a channel of limited capacity until the courier takes them. An alert that
finds the channel full waits outside, so that whoever brought it need not. It is admitted when
there is a place for it, which is then kept free until it enters. When nobody takes alerts any
more, they are dropped.

## Implementation notes

Those outside may be admitted, and may enter, in any order. Left to itself the intake lets them in
one after the other, as soon as there are places.
-/

namespace PulseBridge

/-- A channel of alerts and those that are to enter it. -/
structure Intake where
  capacity : Nat
  queue : List Alert
  /-- Those outside for whom a place is kept. -/
  admitted : List Alert
  /-- Those outside who wait for a place. -/
  waiting : List Alert
  /-- Whether somebody takes alerts from the channel. -/
  receiving : Bool
  deriving DecidableEq, Repr

namespace Intake

/-- An intake at the beginning. -/
def start (capacity : Nat) : Intake := ⟨capacity, [], [], [], true⟩

/-- How many places are taken. -/
def queued (intake : Intake) : Nat := intake.queue.length + intake.admitted.length

/-- Whether there is a place that is not taken. -/
def hasRoom (intake : Intake) : Bool := intake.queued < intake.capacity

/-- Bring an alert. -/
def offer (intake : Intake) (alert : Alert) : Intake × List Notice :=
  if !intake.receiving then (intake, [.intakeClosed alert.check])
  else if intake.hasRoom then ({ intake with queue := intake.queue ++ [alert] }, [])
  else ({ intake with waiting := intake.waiting ++ [alert] }, [.intakeFull])

/-- Keep a place for one of those who wait, if there is one. -/
def allot? (intake : Intake) (i : Nat) : Option Intake :=
  match intake.waiting[i]? with
  | some alert =>
      if intake.hasRoom then
        some { intake with
          admitted := intake.admitted ++ [alert]
          waiting := intake.waiting.eraseIdx i }
      else none
  | none => none

/-- Let one of those enter for whom a place is kept. -/
def enter? (intake : Intake) (i : Nat) : Option (Alert × Intake) :=
  match intake.admitted[i]? with
  | some alert =>
      some (alert, { intake with
        queue := intake.queue ++ [alert]
        admitted := intake.admitted.eraseIdx i })
  | none => none

/-- Take the first alert of the channel. -/
def receive? (intake : Intake) : Option (Alert × Intake) :=
  match intake.queue with
  | alert :: queue => some (alert, { intake with queue })
  | [] => none

/-- Let at most so many of those outside enter, one after the other. -/
def letIn : Nat → Intake → Intake
  | 0, intake => intake
  | n + 1, intake =>
      match (intake.allot? 0).bind (·.enter? 0) with
      | some (_, intake) => letIn n intake
      | none => intake

/-- Let those enter for whom there is a place. -/
def refill (intake : Intake) : Intake := intake.letIn intake.waiting.length

/-- Take the first alert of the channel, and let the next one in. -/
def take? (intake : Intake) : Option (Alert × Intake) :=
  intake.receive?.map fun (alert, intake) => (alert, intake.refill)

/-- Take at most so many alerts, one after the other. -/
def takeMany : Nat → Intake → List Alert × Intake
  | 0, intake => ([], intake)
  | n + 1, intake =>
      match intake.take? with
      | none => ([], intake)
      | some (alert, intake) =>
          let (alerts, intake) := takeMany n intake
          (alert :: alerts, intake)

/-- Take all alerts, those outside included. -/
def takeAll (intake : Intake) : List Alert × Intake :=
  takeMany (intake.queued + intake.waiting.length) intake

/-- Nobody takes alerts any more. -/
def close (intake : Intake) : Intake × List Notice :=
  ({ intake with queue := [], admitted := [], waiting := [], receiving := false },
    (intake.admitted ++ intake.waiting).map fun _ => .waitingAlertLost)

end Intake

end PulseBridge
