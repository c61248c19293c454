import PulseBridge.Proofs.Polls
import PulseBridge.Proofs.Station.Delivery

/-!
# The line of heartbeats

The polls stand at one end of a channel of heartbeats and the courier at the other. A heartbeat is
sent when the channel takes it; when the courier stops, nobody takes heartbeats any more. The
channel is held open by the poller and by the polls that have not ended.

## Implementation notes

A run of the line is a run of the polls and a run of the station at once, so that whatever holds of
either on its own holds here. The line only adds which of their steps go together, and that a poll
does not panic between two heartbeats: from its answer on it only sends them. It may panic at any
time before, and when all its heartbeats are sent.
-/

namespace PulseBridge

/-- Whether an event concerns the polls alone. -/
def Polls.Event.isOwn : Polls.Event → Bool
  | .send .. | .lose => false
  | .panic _ left => left.isEmpty
  | _ => true

/-- Whether no poll will come and none is at work. -/
def Polls.Quiet (s : Polls) : Prop :=
  s.poller.running = false ∧ ∀ poll ∈ s.polls, ∃ count, poll.stage = .ended count

/-- Whether an event concerns the courier alone. -/
def Station.Event.isOwn {α : Type} : Station.Event α → Bool
  | .pick _ | .conclude .. | .send _ | .reply _ | .share | .drop | .drift => true
  | _ => false

/-- Whether an event ends the courier. -/
def Station.Event.isEnd {α : Type} : Station.Event α → Bool
  | .dismiss | .runDry => true
  | _ => false

/-- The polls and the station that their heartbeats go to. -/
structure HeartbeatLine (σ : Type) where
  polls : Polls
  station : Station σ Heartbeat

namespace HeartbeatLine

variable {σ : Type}

/-- Before the first tick. -/
def start (limit : Option Nat) (capacity handles : Nat) (world : σ) : HeartbeatLine σ :=
  ⟨.start limit, .start capacity 1 handles world⟩

/-- What happens on the line. -/
inductive Event where
  /-- Something among the polls. -/
  | poll (e : Polls.Event)
  /-- A poll sends a heartbeat and the channel takes it. -/
  | pass (j : Nat) (heartbeat : Heartbeat)
  /-- Something at the courier. -/
  | serve (e : Station.Event Heartbeat)
  /-- The courier stops, and nobody takes heartbeats any more. -/
  | close (e : Station.Event Heartbeat)
  /-- Nobody is left to send heartbeats. -/
  | release

/-- What happens on the line at once. -/
inductive Step (plan : PollPlan) (sink : Sink σ Heartbeat) :
    HeartbeatLine σ → Event → HeartbeatLine σ → Prop
  | poll {s e polls} (own : e.isOwn = true) (step : Polls.Step plan s.polls e polls) :
      Step plan sink s (.poll e) { s with polls }
  | pass {s j heartbeat polls station}
      (sends : Polls.Step plan s.polls (.send j heartbeat) polls)
      (taken : Station.Step sink s.station (.accept heartbeat) station) :
      Step plan sink s (.pass j heartbeat) ⟨polls, station⟩
  | serve {s e station} (own : e.isOwn = true) (step : Station.Step sink s.station e station) :
      Step plan sink s (.serve e) { s with station }
  | close {s e polls station} (ends : e.isEnd = true)
      (step : Station.Step sink s.station e station)
      (lost : Polls.Step plan s.polls .lose polls) :
      Step plan sink s (.close e) ⟨polls, station⟩
  | release {s station} (quiet : s.polls.Quiet)
      (step : Station.Step sink s.station .leave station) :
      Step plan sink s .release { s with station }

/-! ## What a trace tells -/

/-- What an event is among the polls. -/
def Event.ofPolls? : Event → Option Polls.Event
  | .poll e => some e
  | .pass j heartbeat => some (.send j heartbeat)
  | .close _ => some .lose
  | .serve _ | .release => none

/-- What an event is at the station. -/
def Event.ofStation? : Event → Option (Station.Event Heartbeat)
  | .pass _ heartbeat => some (.accept heartbeat)
  | .serve e | .close e => some e
  | .release => some .leave
  | .poll _ => none

/-- What happened among the polls. -/
def ofPolls (trace : List Event) : List Polls.Event := trace.filterMap Event.ofPolls?

/-- What happened at the station. -/
def ofStation (trace : List Event) : List (Station.Event Heartbeat) :=
  trace.filterMap Event.ofStation?

@[simp] theorem ofPolls_append (before after : List Event) :
    ofPolls (before ++ after) = ofPolls before ++ ofPolls after :=
  List.filterMap_append

@[simp] theorem ofStation_append (before after : List Event) :
    ofStation (before ++ after) = ofStation before ++ ofStation after :=
  List.filterMap_append

@[simp] theorem ofPolls_singleton (e : Event) : ofPolls [e] = e.ofPolls?.toList :=
  filterMap_single ..

@[simp] theorem ofStation_singleton (e : Event) : ofStation [e] = e.ofStation?.toList :=
  filterMap_single ..

/-! ## The two ends -/

variable {plan : PollPlan} {sink : Sink σ Heartbeat} {s t : HeartbeatLine σ} {e : Event}
variable {trace : List Event}

/-- A run of the line is a run of the polls. -/
theorem run_polls (run : Run (Step plan sink) s trace t) :
    Run (Polls.Step plan) s.polls (ofPolls trace) t.polls := by
  apply run.project polls Event.ofPolls?
  intro s e t step
  cases step with
  | poll _ step => exact Or.inr ⟨_, rfl, step⟩
  | pass sends _ => exact Or.inr ⟨_, rfl, sends⟩
  | serve | release => exact Or.inl ⟨rfl, rfl⟩
  | close _ _ lost => exact Or.inr ⟨_, rfl, lost⟩

/-- A run of the line is a run of the station. -/
theorem run_station (run : Run (Step plan sink) s trace t) :
    Run (Station.Step sink) s.station (ofStation trace) t.station := by
  apply run.project station Event.ofStation?
  intro s e t step
  cases step with
  | poll => exact Or.inl ⟨rfl, rfl⟩
  | pass _ taken => exact Or.inr ⟨_, rfl, taken⟩
  | serve _ step | close _ step | release _ step => exact Or.inr ⟨_, rfl, step⟩

/-- What the polls sent is what the channel took. -/
theorem accepted_eq (run : Run (Step plan sink) s trace t) :
    Station.accepted (ofStation trace) = (Polls.sent (ofPolls trace)).map Prod.snd := by
  induction run with
  | start => rfl
  | snoc _ last ih =>
      rw [ofStation_append, ofPolls_append, Station.accepted_append, Polls.sent_append,
        List.map_append, ih]
      congr 1
      cases last with
      | @poll e polls own =>
          cases e with
          | send | lose => simp [Polls.Event.isOwn] at own
          | tick | ask | answer | refuse | finish | panic | shutdown => rfl
      | pass => rfl
      | @serve e station own =>
          cases e with
          | pick | conclude | send | reply | share | drop | drift => rfl
          | accept | join | leave | dismiss | runDry => simp [Station.Event.isOwn] at own
      | @close e polls station ends =>
          cases e with
          | dismiss | runDry => rfl
          | _ => simp [Station.Event.isEnd] at ends
      | release => rfl

/-- Somebody takes heartbeats from the channel exactly as long as the courier runs. -/
theorem Step.receiving_eq (step : Step plan sink s e t)
    (h : s.polls.poller.receiving = s.station.courier.running) :
    t.polls.poller.receiving = t.station.courier.running := by
  cases step with
  | @poll e polls own step =>
      cases step with
      | lose => simp [Polls.Event.isOwn] at own
      | tick | ask | answer | send | refuse | finish | panic | shutdown => exact h
  | pass sends taken =>
      cases sends
      cases taken
      exact h
  | @serve e station own step =>
      cases step with
      | pick | conclude | send | reply | share | drop | drift => exact h
      | accept | join | leave | dismiss | runDry => simp [Station.Event.isOwn] at own
  | close ends step lost =>
      cases lost
      cases step with
      | dismiss | runDry => rfl
      | accept | pick | conclude | send | reply | join | leave | share | drop | drift =>
          simp [Station.Event.isEnd] at ends
  | release _ step =>
      cases step
      exact h

theorem receiving_of_run {limit : Option Nat} {capacity handles : Nat} {world : σ}
    (run : Run (Step plan sink) (start limit capacity handles world) trace s) :
    s.polls.poller.receiving = s.station.courier.running := by
  induction run with
  | start => rfl
  | snoc _ last ih => exact last.receiving_eq ih

end HeartbeatLine

end PulseBridge
