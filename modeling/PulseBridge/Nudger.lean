import PulseBridge.HeartbeatSink
import PulseBridge.Journal
import PulseBridge.Settings.Nudging

/-!
# The nudger

The nudger is a keeper of checks, a poller and a courier of heartbeats at work together. Two timers
drive it: one refreshes the checks, at the beginning and then at regular times, the other polls
them. The heartbeats of a tick are delivered before anything else happens.
-/

namespace PulseBridge

open Http (Web Sent)
open Settings (Nudging)

/-- The nudger between two events. -/
structure Nudger where
  settings : Nudging
  keeper : CheckKeeper
  poller : Poller
  courier : Courier
  log : List Sent

namespace Nudger

/-- The nudger at the beginning. -/
def start (settings : Nudging) : Nudger := ⟨settings, .start [], .start, .start, []⟩

/-- The work that refreshes the checks. -/
def refreshScope (settings : Nudging) : Scope := .run "url" settings.checksUrl

/-- The work that a notice about polling is told in. -/
def pollScope : Notice → Scope
  | .pollFailed check _ | .heartbeatsDropped check =>
      Scope.none.within "poll" [("target", check.target), ("routing_key", check.routingKey)]
  | _ => .none

/-- The work that delivers heartbeats. -/
def deliveryScope : Scope := .run "sink" "pacemaker"

/-- The timer of the refreshes fires. -/
def refreshTick (web : Web) (nudger : Nudger) : Nudger × List Entry :=
  let done := nudger.keeper.tick web nudger.settings.checkSource nudger.log
  ({ nudger with keeper := done.keeper, log := done.log },
    done.notices.map (·.entry (refreshScope nudger.settings)))

/-- Someone asks for a refresh. -/
def refreshNow (web : Web) (nudger : Nudger) : Except Failure Nat × Nudger × List Entry :=
  let done := nudger.keeper.refreshNow web nudger.settings.checkSource nudger.log
  (done.result, { nudger with keeper := done.keeper, log := done.log },
    done.notices.map (·.entry (refreshScope nudger.settings)))

/-- The checks are polled and their heartbeats delivered. -/
def tick (web : Web) (nudger : Nudger) : Except Failure TickReport × Nudger × List Entry :=
  let (report, ticked) :=
    nudger.poller.tickNow web nudger.settings.pollPlan nudger.keeper.checks nudger.log
  let sink := heartbeatSink web nudger.settings.receiverUrl
  let (courier, delivered, log) := nudger.courier.deliverAll sink ticked.log ticked.sent
  (report, { nudger with courier, log },
    ticked.notices.map (fun notice => notice.entry (pollScope notice))
      ++ delivered.map (·.entry deliveryScope))

/-! ## Time -/

/-- When the timers fire next, in seconds since the beginning. -/
structure Timers where
  refreshAt : Nat
  pollAt : Nat
  deriving DecidableEq, Repr

/-- The first refresh is due at once, the first tick after its interval. -/
def Timers.start (settings : Nudging) : Timers := ⟨0, settings.pollInterval.toNat⟩

/-- The timer that is due fires. Of two that are due at once the refresh comes first. -/
def fire (web : Web) (nudger : Nudger) (timers : Timers) : Nudger × Timers × List Entry :=
  if timers.refreshAt ≤ timers.pollAt then
    let (nudger, entries) := nudger.refreshTick web
    let next := timers.refreshAt + nudger.settings.refreshInterval.toNat
    (nudger, { timers with refreshAt := next }, entries)
  else
    let (_, nudger, entries) := nudger.tick web
    let next := timers.pollAt + nudger.settings.pollInterval.toNat
    (nudger, { timers with pollAt := next }, entries)

/-- Let the timers fire until it is enough, at most so many times. -/
def fireUntil (web : Web) (enough : Nudger → List Entry → Bool) :
    Nat → Nudger → Timers → List Entry → Nudger × List Entry
  | 0, nudger, _, told => (nudger, told)
  | rounds + 1, nudger, timers, told =>
      if enough nudger told then (nudger, told)
      else
        let (nudger, timers, entries) := nudger.fire web timers
        fireUntil web enough rounds nudger timers (told ++ entries)

/-! ## Beginning and end -/

/-- What is told when the nudger starts. -/
def opening (settings : Nudging) : List Entry :=
  settings.notices.map (·.entry .none)
    ++ [ .told "nudger" "nudgers gonna nudge",
         .told "nudger" <|
           "polling every " ++ toString settings.pollInterval.toNat
             ++ "s, refreshing checks every " ++ toString settings.refreshInterval.toNat
             ++ "s, nudging " ++ settings.receiverUrl ]

/-- What is told when the nudger is interrupted. -/
def farewell : Entry := .told "nudger" "shutting down"

/-- What is told at the very end. -/
def summary (nudger : Nudger) : Entry :=
  .told "nudger" <|
    toString nudger.courier.tally.delivered ++ " samples delivered, "
      ++ toString nudger.courier.tally.failed ++ " failed"

end Nudger

end PulseBridge
