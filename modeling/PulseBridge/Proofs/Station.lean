import PulseBridge.Courier
import PulseBridge.Proofs.Run

/-!
# Stations

A station is a channel of items with the courier at its end, in the midst of everybody who deals
with it: those who put items into the channel, and those who hold a handle of the courier. When its
hands are free the courier takes up the next item or the next order, whichever it likes; it stops
when it is told to, or when no item is left and none can come.

## Implementation notes

A delivery takes two steps: the item is taken up, and later the delivery ends as the sink says. The
world may change before any step, so that every sink that fails and succeeds as it likes is among
the sinks considered. When the courier has stopped, what is left in the channel is gone.
-/

namespace PulseBridge

/-- What whoever holds a handle of a courier can ask of it. -/
inductive Order where
  /-- Tell the tally. -/
  | tally
  | stop
  deriving DecidableEq, Repr

/-- A channel of items and the courier at its end. -/
structure Station (σ α : Type) where
  /-- How many items the channel holds at most. -/
  capacity : Nat
  /-- How many can put items into the channel. -/
  producers : Nat
  queue : List α
  /-- How many hold a handle of the courier. -/
  handles : Nat
  /-- The orders that the courier has not dealt with. -/
  orders : List Order
  /-- The item that is being delivered. -/
  hands : Option α
  courier : Courier
  world : σ

namespace Station

variable {σ α : Type} {capacity producers handles : Nat} {world : σ} {sink : Sink σ α}

/-- How many orders can wait at once. -/
def orderRoom : Nat := 32

/-- A station at the beginning. -/
def start (capacity producers handles : Nat) (world : σ) : Station σ α :=
  ⟨capacity, producers, [], handles, [], none, .start, world⟩

/-- Whether the courier can take up something. -/
def isFree (s : Station σ α) : Bool := s.courier.running && s.hands.isNone

/-- The station after the courier has stopped. -/
def closed (s : Station σ α) : Station σ α :=
  { s with queue := [], orders := [], courier := s.courier.stop }

/-- What happens at a station. -/
inductive Event (α : Type) where
  /-- The channel takes an item. -/
  | accept (item : α)
  /-- The courier takes up an item to deliver it. -/
  | pick (item : α)
  /-- A delivery ends. -/
  | conclude (item : α) (outcome : Outcome Delivery)
  /-- Somebody gives an order. -/
  | send (order : Order)
  /-- Whoever asked for the tally is told. -/
  | reply (tally : Tally)
  /-- The courier stops because it is told to. -/
  | dismiss
  /-- The courier stops because no item is left and none can come. -/
  | runDry
  /-- One more can put items into the channel, or one less. -/
  | join
  | leave
  /-- One more holds a handle of the courier, or one less. -/
  | share
  | drop
  /-- The world changes. -/
  | drift

/-- What a station does at once. -/
inductive Step (sink : Sink σ α) : Station σ α → Event α → Station σ α → Prop
  | accept {s item} (running : s.courier.running = true) (somebody : 0 < s.producers)
      (room : s.queue.length < s.capacity) :
      Step sink s (.accept item) { s with queue := s.queue ++ [item] }
  | pick {s item rest} (free : s.isFree = true) (first : s.queue = item :: rest) :
      Step sink s (.pick item) { s with queue := rest, hands := some item }
  | conclude {s item} (held : s.hands = some item) :
      Step sink s (.conclude item (sink.deliver s.world item).1)
        { s with
          hands := none
          courier := (s.courier.deliver sink s.world item).1
          world := (s.courier.deliver sink s.world item).2.2 }
  | send {s order} (running : s.courier.running = true) (somebody : 0 < s.handles)
      (room : s.orders.length < orderRoom) :
      Step sink s (.send order) { s with orders := s.orders ++ [order] }
  | reply {s tally rest} (free : s.isFree = true) (first : s.orders = .tally :: rest)
      (told : s.courier.askTally = .ok tally) :
      Step sink s (.reply tally) { s with orders := rest }
  | dismiss {s rest} (free : s.isFree = true) (first : s.orders = .stop :: rest) :
      Step sink s .dismiss s.closed
  | runDry {s} (free : s.isFree = true) (empty : s.queue = []) (nobody : s.producers = 0) :
      Step sink s .runDry s.closed
  | join {s} (somebody : 0 < s.producers) :
      Step sink s .join { s with producers := s.producers + 1 }
  | leave {s} (somebody : 0 < s.producers) :
      Step sink s .leave { s with producers := s.producers - 1 }
  | share {s} (somebody : 0 < s.handles) :
      Step sink s .share { s with handles := s.handles + 1 }
  | drop {s} (somebody : 0 < s.handles) :
      Step sink s .drop { s with handles := s.handles - 1 }
  | drift {s} (world : σ) : Step sink s .drift { s with world }

/-! ## What a trace tells -/

/-- The item that the channel takes. -/
def Event.accepted? : Event α → Option α
  | .accept item => some item
  | _ => none

/-- The item that is given to the sink. -/
def Event.given? : Event α → Option α
  | .pick item => some item
  | _ => none

/-- The delivery that ends. -/
def Event.concluded? : Event α → Option (α × Outcome Delivery)
  | .conclude item outcome => some (item, outcome)
  | _ => none

/-- The items that the channel took, in their order. -/
def accepted (trace : List (Event α)) : List α := trace.filterMap Event.accepted?

/-- The items that were given to the sink, in their order. -/
def given (trace : List (Event α)) : List α := trace.filterMap Event.given?

/-- The deliveries that ended, in their order. -/
def concluded (trace : List (Event α)) : List (α × Outcome Delivery) :=
  trace.filterMap Event.concluded?

/-- The results of the deliveries that ended. -/
def results (trace : List (Event α)) : List Delivery :=
  (concluded trace).map fun ended => Delivery.ofOutcome ended.2

@[simp] theorem accepted_append (before after : List (Event α)) :
    accepted (before ++ after) = accepted before ++ accepted after :=
  List.filterMap_append

@[simp] theorem given_append (before after : List (Event α)) :
    given (before ++ after) = given before ++ given after :=
  List.filterMap_append

@[simp] theorem concluded_append (before after : List (Event α)) :
    concluded (before ++ after) = concluded before ++ concluded after :=
  List.filterMap_append

@[simp] theorem accepted_singleton (e : Event α) : accepted [e] = e.accepted?.toList :=
  filterMap_single ..

@[simp] theorem given_singleton (e : Event α) : given [e] = e.given?.toList :=
  filterMap_single ..

@[simp] theorem concluded_singleton (e : Event α) : concluded [e] = e.concluded?.toList :=
  filterMap_single ..

end Station

end PulseBridge
