import PulseBridge.Containment

/-!
# Couriers

A courier stands at the end of a channel and delivers its items one at a time, in the order in
which they come. A delivery that fails, or panics, is told and counted and never repeated. The
courier can be asked for its tally and told to stop; it also stops when no more items can come.
-/

namespace PulseBridge

open Http (Status)

/-- What came of a delivery. -/
inductive Delivery where
  | delivered (status : Status)
  /-- The status is known if an answer was received. -/
  | failed (status : Option Status) (reason : String)
  deriving DecidableEq, Repr

namespace Delivery

/-- Whether an item was delivered. -/
def succeeded : Delivery → Bool
  | .delivered _ => true
  | .failed .. => false

/-- The status of the answer. -/
def status? : Delivery → Option Status
  | .delivered status => some status
  | .failed status _ => status

/-- Why an item was not delivered. -/
def reason? : Delivery → Option String
  | .delivered _ => none
  | .failed _ reason => some reason

/-- The result of a call that delivers. -/
def ofCall : Except Http.CallError Http.Status → Delivery
  | .ok status => .delivered status
  | .error e => .failed e.status? e.message

/-- The result of a delivery that ended in some way. -/
def ofOutcome : Outcome Delivery → Delivery
  | .finished delivery => delivery
  | .panicked _ => .failed none "delivery panicked"

/-- What is told about a delivery to a place. -/
def notices (sink : String) (delivery : Delivery) : List Notice :=
  (delivery.reason?.map (Notice.deliveryFailed sink)).toList

end Delivery

/-- How many deliveries there were, and the latest of them. The numbers have no bound here; counters
of 64 bits hold the same as long as there have been fewer than 2^64 deliveries. -/
structure Tally where
  delivered : Nat
  failed : Nat
  last : Option Delivery
  deriving DecidableEq, Repr

namespace Tally

/-- Before any delivery. -/
def empty : Tally := ⟨0, 0, none⟩

/-- The tally after one more delivery. -/
def record (tally : Tally) (delivery : Delivery) : Tally :=
  if delivery.succeeded then
    { tally with delivered := tally.delivered + 1, last := some delivery }
  else { tally with failed := tally.failed + 1, last := some delivery }

/-- How many deliveries there were. -/
def total (tally : Tally) : Nat := tally.delivered + tally.failed

end Tally

/-- A place that items are delivered to. What happened in the world so far is a value of `σ`. -/
structure Sink (σ α : Type) where
  name : String
  deliver : σ → α → Outcome Delivery × List Notice × σ

/-- A courier between two deliveries. -/
structure Courier where
  tally : Tally
  running : Bool
  deriving DecidableEq, Repr

namespace Courier

variable {σ α : Type}

/-- A courier at the beginning. -/
def start : Courier := ⟨.empty, true⟩

/-- Take note of how a delivery ended. -/
def conclude (courier : Courier) (sink : String) (outcome : Outcome Delivery) :
    Courier × List Notice :=
  let delivery := Delivery.ofOutcome outcome
  ({ courier with tally := courier.tally.record delivery },
    outcome.notices "dispatch" ++ delivery.notices sink)

/-- Deliver one item. -/
def deliver (sink : Sink σ α) (courier : Courier) (world : σ) (item : α) :
    Courier × List Notice × σ :=
  let (outcome, told, world) := sink.deliver world item
  let (courier, concluded) := courier.conclude sink.name outcome
  (courier, told ++ concluded, world)

/-- What a delivery makes of the world is what the sink makes of it. -/
theorem world_deliver (sink : Sink σ α) (courier : Courier) (world : σ) (item : α) :
    (courier.deliver sink world item).2.2 = (sink.deliver world item).2.2 := rfl

/-- Deliver items one after the other. -/
def deliverAll (sink : Sink σ α) (courier : Courier) (world : σ) :
    List α → Courier × List Notice × σ
  | [] => (courier, [], world)
  | item :: items =>
      let (courier, told, world) := courier.deliver sink world item
      let (courier, more, world) := deliverAll sink courier world items
      (courier, told ++ more, world)

/-- The courier after it has been told to stop, or after the last item that could come. -/
def stop (courier : Courier) : Courier := { courier with running := false }

/-- What someone who asks for the tally is told. -/
def askTally (courier : Courier) : Except Failure Tally :=
  if courier.running then .ok courier.tally else .error (.unreachable "GetStats")

/-- Tell the courier to stop. -/
def shutdown (courier : Courier) : Courier × List Notice :=
  (courier.stop, if courier.running then [] else [.courierGone])

end Courier

end PulseBridge
