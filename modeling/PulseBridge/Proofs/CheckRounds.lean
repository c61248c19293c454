import PulseBridge.CheckKeeper
import PulseBridge.Proofs.Polls

/-!
# Refreshes and ticks

The keeper of the checks and the polls share the list of checks. A refresh that succeeds replaces
the list; a tick polls the list as it finds it. Refreshes end, ticks begin and polls go on in any
order.

## Implementation notes

A refresh touches the list only at its end, so that it is one step, which bears the answer to its
request. It may also panic, whatever it was about to do.
-/

namespace PulseBridge

open Http (CallError Fetched Web Sent)

/-- What a refresh comes to when its request is answered in some way. -/
def refreshResult : Outcome (Except CallError Fetched) → Outcome (Except Failure (List Check))
  | .finished answer => .finished (checksOfAnswer answer).1
  | .panicked panic => .panicked panic

/-- Whether a refresh says that it succeeded. -/
def refreshSucceeds (outcome : Outcome (Except CallError Fetched)) : Bool :=
  (CheckKeeper.reply (refreshResult outcome)).isOk

/-- What is fetched is what the answer says. -/
theorem CheckSource.fetch_eq (web : Web) (source : CheckSource) (earlier : List Sent) :
    source.fetch web earlier =
      ((checksOfAnswer (Http.call web earlier source.request).1).1,
        (checksOfAnswer (Http.call web earlier source.request).1).2,
        (Http.call web earlier source.request).2) := by
  unfold fetch
  generalize Http.call web earlier source.request = called
  rfl

/-- An answer gives a list if it is a plain success whose body decodes, and gives then all checks
of the body that can be polled. -/
theorem checksOfAnswer_eq_ok {answer : Except CallError Fetched} {checks : List Check} :
    (checksOfAnswer answer).1 = .ok checks ↔
      ∃ fetched listed, answer = .ok fetched ∧ fetched.status.isSuccess = true ∧
        Check.decodeList fetched.body = .ok listed ∧ checks = listed.filter Check.isValid := by
  cases answer with
  | error e => simp [checksOfAnswer]
  | ok fetched =>
      cases hstatus : fetched.status.isSuccess with
      | false => simp [checksOfAnswer, Fetched.requireSuccess, hstatus]
      | true =>
          cases hlist : Check.decodeList fetched.body with
          | error e => simp [checksOfAnswer, Fetched.requireSuccess, hstatus, hlist]
          | ok listed =>
              have result : (checksOfAnswer (.ok fetched)).1 = .ok (keepValid listed) := by
                simp [checksOfAnswer, Fetched.requireSuccess, hstatus, hlist]
              rw [result]
              constructor
              · intro h
                exact ⟨fetched, listed, rfl, hstatus, hlist, (Except.ok.inj h).symm⟩
              · rintro ⟨fetched', listed', hfetched, _, hlist', rfl⟩
                rw [← Except.ok.inj hfetched, hlist] at hlist'
                rw [Except.ok.inj hlist', keepValid]

/-- The keeper of the checks and the polls. -/
structure CheckRounds where
  keeper : CheckKeeper
  polls : Polls

namespace CheckRounds

/-- Before the first refresh and the first tick. -/
def start (limit : Option Nat) : CheckRounds := ⟨.start [], .start limit⟩

/-- What happens to the checks. -/
inductive Event where
  /-- A refresh ends. -/
  | refresh (outcome : Outcome (Except CallError Fetched))
  /-- The keeper is told to stop. -/
  | retire
  /-- A tick begins, over the list as it is. -/
  | tick (snapshot : List Check)
  /-- Something else happens among the polls. -/
  | poll (e : Polls.Event)

/-- What happens at once. -/
inductive Step (plan : PollPlan) : CheckRounds → Event → CheckRounds → Prop
  | refresh {s} (running : s.keeper.running = true)
      (outcome : Outcome (Except CallError Fetched)) :
      Step plan s (.refresh outcome)
        { s with keeper := s.keeper.conclude (refreshResult outcome) }
  | retire {s} : Step plan s .retire { s with keeper := s.keeper.shutdown.2 }
  | tick {s polls} (step : Polls.Step plan s.polls (.tick s.keeper.checks) polls) :
      Step plan s (.tick s.keeper.checks) { s with polls }
  | poll {s e polls} (later : e.tick? = none) (step : Polls.Step plan s.polls e polls) :
      Step plan s (.poll e) { s with polls }

/-! ## What a trace tells -/

/-- The body of a refresh that succeeds. -/
def Event.renewed? : Event → Option Octets
  | .refresh (.finished (.ok fetched)) =>
      if refreshSucceeds (.finished (.ok fetched)) then some fetched.body else none
  | _ => none

/-- What an event is among the polls. -/
def Event.ofPolls? : Event → Option Polls.Event
  | .tick snapshot => some (.tick snapshot)
  | .poll e => some e
  | .refresh _ | .retire => none

/-- The bodies of the refreshes that succeeded, in their order. -/
def renewals (trace : List Event) : List Octets := trace.filterMap Event.renewed?

/-- What happened among the polls. -/
def ofPolls (trace : List Event) : List Polls.Event := trace.filterMap Event.ofPolls?

@[simp] theorem renewals_append (before after : List Event) :
    renewals (before ++ after) = renewals before ++ renewals after :=
  List.filterMap_append

@[simp] theorem ofPolls_append (before after : List Event) :
    ofPolls (before ++ after) = ofPolls before ++ ofPolls after :=
  List.filterMap_append

@[simp] theorem renewals_singleton (e : Event) : renewals [e] = e.renewed?.toList :=
  filterMap_single ..

variable {plan : PollPlan} {s t : CheckRounds} {trace : List Event}

/-- Both what happens at regular times and what happens on demand ends in such a step. -/
theorem step_of_refresh (web : Web) (source : CheckSource) (earlier : List Sent)
    (running : s.keeper.running = true) :
    ∃ outcome,
      Step plan s (.refresh outcome)
        { s with keeper := (s.keeper.tick web source earlier).keeper } ∧
      (s.keeper.refreshNow web source earlier).keeper =
        (s.keeper.tick web source earlier).keeper ∧
      (s.keeper.refreshNow web source earlier).result =
        CheckKeeper.reply (refreshResult outcome) := by
  refine ⟨.finished (Http.call web earlier source.request).1, ?_, ?_, ?_⟩
  · have step := @Step.refresh plan s running (.finished (Http.call web earlier source.request).1)
    simpa [CheckKeeper.tick, running, CheckSource.fetch, refreshResult] using step
  · simp [CheckKeeper.tick, CheckKeeper.refreshNow, running]
  · simp [CheckKeeper.refreshNow, running, CheckSource.fetch, refreshResult]

/-- A run of both is a run of the polls. -/
theorem run_polls (run : Run (Step plan) s trace t) :
    Run (Polls.Step plan) s.polls (ofPolls trace) t.polls := by
  apply run.project polls Event.ofPolls?
  intro s e t step
  cases step with
  | refresh | retire => exact Or.inl ⟨rfl, rfl⟩
  | tick step | poll _ step => exact Or.inr ⟨_, rfl, step⟩

end CheckRounds

end PulseBridge
