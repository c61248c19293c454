import PulseBridge.Nudger
import PulseBridge.Proofs.Calls.Posts
import PulseBridge.Proofs.CheckRounds
import PulseBridge.Proofs.HeartbeatLine
import PulseBridge.Proofs.Polls.Accounts

/-!
# The nudger at work

The keeper of the checks, the polls and the courier of heartbeats share one web: whatever any of
them asks or posts is one more request that was sent, and an answer may depend on all of them. The
keeper refreshes the checks, a tick polls them, polls ask the provider, and the courier posts the
heartbeats that come through the channel, in any order.

## Implementation notes

The requests sent so far are the world of the courier. A call of a poll or of the keeper is one
step, which changes that world. On the line of heartbeats such a step is an answer and a change of
the world after it, so that a run of the nudger is a run of the line. No poll panics here: what one
that panics had left would not come to the receiver.
-/

namespace PulseBridge

open Http (Answer CallError Fetched Sent Web)
open Settings (Nudging)

/-- The keeper of the checks and the line of heartbeats. -/
structure NudgerLine where
  keeper : CheckKeeper
  line : HeartbeatLine (List Sent)

namespace NudgerLine

/-- The requests sent so far. -/
def log (s : NudgerLine) : List Sent := s.line.station.world

/-- The nudger before anything has been sent. -/
def start (settings : Nudging) (handles : Nat) : NudgerLine :=
  ⟨.start [], .start (settings.pollLimit.map (·.toNat)) settings.room.toNat handles []⟩

/-- The line after more requests. -/
def sentOn (line : HeartbeatLine (List Sent)) (log : List Sent) : HeartbeatLine (List Sent) :=
  { line with station := { line.station with world := log } }

/-- What happens at the nudger. -/
inductive Event where
  /-- The timer of the refreshes fires. -/
  | refresh
  /-- A tick begins, over the checks as they are. -/
  | tick (checks : List Check)
  /-- The provider answers the question of a poll. -/
  | answer (j : Nat) (check : Check) (answer : Except CallError Fetched)
  /-- Something else on the line of heartbeats. -/
  | line (e : HeartbeatLine.Event)

/-- Whether what happens on the line is neither a tick nor an answer nor a panic, and changes the
world by deliveries only. -/
def isInner : HeartbeatLine.Event → Bool
  | .poll (.tick _) | .poll (.answer ..) | .poll (.panic ..) | .serve .drift => false
  | _ => true

/-- What happens at the nudger at once. -/
inductive Step (web : Web) (settings : Nudging) : NudgerLine → Event → NudgerLine → Prop
  | refresh {s} :
      Step web settings s .refresh
        ⟨(s.keeper.tick web settings.checkSource s.log).keeper,
          sentOn s.line (s.keeper.tick web settings.checkSource s.log).log⟩
  | tick {s polls}
      (step : Polls.Step settings.pollPlan s.line.polls (.tick s.keeper.checks) polls) :
      Step web settings s (.tick s.keeper.checks) { s with line := { s.line with polls } }
  | answer {s j check polls}
      (step : Polls.Step settings.pollPlan s.line.polls
        (.answer j check (Http.call web s.log (settings.pollPlan.request check)).1) polls) :
      Step web settings s
        (.answer j check (Http.call web s.log (settings.pollPlan.request check)).1)
        { s with
          line := sentOn { s.line with polls }
            (Http.call web s.log (settings.pollPlan.request check)).2 }
  | line {s e line} (inner : isInner e = true)
      (step : HeartbeatLine.Step settings.pollPlan (heartbeatSink web settings.receiverUrl)
        s.line e line) :
      Step web settings s (.line e) { s with line }

/-! ## What a trace tells -/

/-- The list of a tick. -/
def Event.tick? : Event → Option (List Check)
  | .tick checks => some checks
  | _ => none

/-- Whether the checks are refreshed. -/
def Event.isRefresh : Event → Bool
  | .refresh => true
  | _ => false

/-- What an event is on the line of heartbeats. -/
def Event.onLine : Event → List HeartbeatLine.Event
  | .refresh => [.serve .drift]
  | .tick checks => [.poll (.tick checks)]
  | .answer j check received => [.poll (.answer j check received), .serve .drift]
  | .line e => [e]

/-- The lists of the ticks, in their order. -/
def ticks (trace : List Event) : List (List Check) := trace.filterMap Event.tick?

/-- What happened on the line of heartbeats. -/
def onLine (trace : List Event) : List HeartbeatLine.Event := trace.flatMap Event.onLine

@[simp] theorem ticks_append (before after : List Event) :
    ticks (before ++ after) = ticks before ++ ticks after :=
  List.filterMap_append

@[simp] theorem onLine_append (before after : List Event) :
    onLine (before ++ after) = onLine before ++ onLine after :=
  List.flatMap_append

@[simp] theorem ticks_singleton (e : Event) : ticks [e] = e.tick?.toList := filterMap_single ..

@[simp] theorem onLine_singleton (e : Event) : onLine [e] = e.onLine := List.flatMap_singleton ..

/-! ## The line of heartbeats -/

variable {web : Web} {settings : Nudging} {s t : NudgerLine} {e : Event} {trace : List Event}

/-- A step of the nudger is a run of the line. -/
theorem Step.onLine (step : Step web settings s e t) :
    Run (HeartbeatLine.Step settings.pollPlan (heartbeatSink web settings.receiverUrl))
      s.line e.onLine t.line := by
  cases step with
  | refresh => exact .single (.serve rfl (.drift _))
  | tick step => exact .single (.poll rfl step)
  | answer step => exact .cons (.poll rfl step) (.single (.serve rfl (.drift _)))
  | line _ step => exact .single step

/-- A run of the nudger is a run of the line. -/
theorem run_onLine (run : Run (Step web settings) s trace t) :
    Run (HeartbeatLine.Step settings.pollPlan (heartbeatSink web settings.receiverUrl))
      s.line (onLine trace) t.line := by
  induction run with
  | start => exact .start
  | snoc _ last ih =>
      rw [onLine_append, onLine_singleton]
      exact ih.append last.onLine

/-- What is inner is no tick, no answer and no panic of a poll. -/
theorem nothing_of_inner {e : HeartbeatLine.Event} (inner : isInner e = true) :
    Polls.ticks (HeartbeatLine.ofPolls [e]) = [] ∧
      Polls.answered (HeartbeatLine.ofPolls [e]) = [] ∧
      Polls.panicked (HeartbeatLine.ofPolls [e]) = [] := by
  cases e with
  | poll e =>
      cases e with
      | tick | answer | panic => cases inner
      | ask | send | refuse | finish | lose | shutdown => exact ⟨rfl, rfl, rfl⟩
  | pass | serve | close | release => exact ⟨rfl, rfl, rfl⟩

/-- The ticks of the nudger are the ticks of its polls. -/
theorem ticks_onLine (run : Run (Step web settings) s trace t) :
    Polls.ticks (HeartbeatLine.ofPolls (onLine trace)) = ticks trace := by
  induction run with
  | start => rfl
  | snoc _ last ih =>
      rw [onLine_append, HeartbeatLine.ofPolls_append, Polls.ticks_append, ih, ticks_append]
      congr 1
      cases last with
      | refresh | tick | answer => rfl
      | line inner step => exact (nothing_of_inner inner).1

/-- No poll of the nudger panics. -/
theorem panicked_onLine (run : Run (Step web settings) s trace t) :
    Polls.panicked (HeartbeatLine.ofPolls (onLine trace)) = [] := by
  induction run with
  | start => rfl
  | snoc _ last ih =>
      rw [onLine_append, HeartbeatLine.ofPolls_append, Polls.panicked_append, ih]
      cases last with
      | refresh | tick | answer => rfl
      | line inner step => exact (nothing_of_inner inner).2.2

end NudgerLine

end PulseBridge
