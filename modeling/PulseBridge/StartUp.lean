import PulseBridge.Launch

/-!
# Setting up the parts of a program

A program that goes to work opens channels, makes permits and starts timers. Places and permits are
counted, and there is an end to the counting; a timer has a period, and the moment when it fires
first must be on the clock. What cannot be had is a panic. The main parts are set up by the program
itself and their panic ends it; the keeper and the poller start their timers on their own, so that
there a panic costs its owner only.
-/

namespace PulseBridge

open Settings (Nudging Relaying)

instance : Monad Outcome where
  pure := .finished
  bind work next :=
    match work with
    | .finished value => next value
    | .panicked panic => .panicked panic

/-! ## What is counted -/

/-- The greatest number of permits, one less than two to the sixty-first. -/
def permitLimit : Nat := 2305843009213693951

/-- The panic over more permits than can be counted. -/
def uncounted : Panic :=
  .text ("a semaphore may not have more than MAX_PERMITS permits (" ++ toString permitLimit ++ ")")

/-- Some permits. -/
structure Permits where
  count : Nat
  counted : count ≤ permitLimit

/-- Make so many permits. -/
def Permits.make (count : Nat) : Outcome Permits :=
  if counted : count ≤ permitLimit then .finished ⟨count, counted⟩ else .panicked uncounted

/-- The room of a channel. Its places are permits to put something in. -/
structure Room where
  places : Permits
  positive : 0 < places.count

/-- Open a channel with so many places. -/
def Room.open (count : Nat) : Outcome Room :=
  if positive : 0 < count then
    if counted : count ≤ permitLimit then .finished ⟨⟨count, counted⟩, positive⟩
    else .panicked uncounted
  else .panicked (.text "mpsc bounded channel requires buffer > 0")

/-! ## Time -/

/-- The end of the clock, two to the sixty-third seconds after its beginning. -/
def clockEnd : Nat := 9223372036854775808

/-- A time on the clock. -/
structure ClockTime where
  seconds : Nat
  shown : seconds < clockEnd

/-- The time so many seconds later. -/
def ClockTime.after (now : ClockTime) (delay : Nat) : Outcome ClockTime :=
  if shown : now.seconds + delay < clockEnd then .finished ⟨now.seconds + delay, shown⟩
  else .panicked (.text "overflow when adding duration to instant")

/-- A timer: when it fires first, and after how many seconds again and again. -/
structure Ticker where
  first : ClockTime
  period : Nat
  positive : 0 < period

/-- Start a timer. -/
def Ticker.start (first : ClockTime) (period : Nat) : Outcome Ticker :=
  if positive : 0 < period then .finished ⟨first, period, positive⟩
  else .panicked (.text "`period` must be non-zero.")

/-! ## The programs -/

/-- The places of a channel that orders are given through. -/
def orderPlaces : Nat := 32

/-- The main parts of the nudger. -/
structure NudgerParts where
  heartbeats : Room
  courierOrders : Room
  keeperOrders : Room
  pollerOrders : Room
  /-- The permits to poll, if there is a limit. -/
  permits : Option Permits

namespace Nudger

/-- Set up the main parts. -/
def parts (settings : Nudging) : Outcome NudgerParts := do
  let heartbeats ← Room.open settings.room.toNat
  let courierOrders ← Room.open orderPlaces
  let keeperOrders ← Room.open orderPlaces
  let pollerOrders ← Room.open orderPlaces
  match settings.pollLimit with
  | none => return ⟨heartbeats, courierOrders, keeperOrders, pollerOrders, none⟩
  | some limit =>
      let permits ← Permits.make limit.toNat
      return ⟨heartbeats, courierOrders, keeperOrders, pollerOrders, some permits⟩

/-- The timer of the keeper, which fires at once. -/
def refreshTicker (settings : Nudging) (now : ClockTime) : Outcome Ticker :=
  Ticker.start now settings.refreshInterval.toNat

/-- The timer of the poller, which fires first after its period. -/
def pollTicker (settings : Nudging) (now : ClockTime) : Outcome Ticker := do
  let first ← now.after settings.pollInterval.toNat
  Ticker.start first settings.pollInterval.toNat

/-- The nudger as it goes to work. Whoever cannot start its timer is gone at once. -/
def setUp (settings : Nudging) (now : ClockTime) : Outcome Nudger := do
  let _ ← parts settings
  let nudger := start settings
  return {
    nudger with
    keeper := { nudger.keeper with running := (refreshTicker settings now).value?.isSome }
    poller := { nudger.poller with running := (pollTicker settings now).value?.isSome } }

/-- Tell the poller and the keeper to stop. -/
def stop (nudger : Nudger) : Except Failure Nudger := do
  let (polls, poller) := nudger.poller.shutdown
  let (refreshes, keeper) := nudger.keeper.shutdown
  polls
  refreshes
  return { nudger with poller, keeper }

end Nudger

/-- The main parts of the bridge. -/
structure BridgeParts where
  alerts : Room
  courierOrders : Room

namespace ChatBridge

/-- Set up the main parts. -/
def parts (settings : Relaying) : Outcome BridgeParts := do
  let alerts ← Room.open settings.room.toNat
  let courierOrders ← Room.open orderPlaces
  return ⟨alerts, courierOrders⟩

/-- What is told before the main parts are set up. -/
def greeting (settings : Relaying) : List Entry :=
  (opening settings).take (settings.notices.length + 1)

/-- The bridge as it goes to work. -/
def setUp (settings : Relaying) : Outcome ChatBridge := do
  let parts ← parts settings
  return .start parts.alerts.places.count

end ChatBridge

/-- A program that panics. -/
def Ending.panicked (panic : Panic) : Ending := ⟨101, "", [panic.message]⟩

end PulseBridge
