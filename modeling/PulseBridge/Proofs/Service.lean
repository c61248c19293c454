import PulseBridge.CheckKeeper
import PulseBridge.Polling
import PulseBridge.Proofs.Run

/-!
# Service

The keeper of the checks and the poller serve in the same way. Whoever serves waits for two things
at once, the next order and a timer, and does what comes first: a timer that fires asks for some
work, and so may an order, and another order ends the service. When no order is left and nobody can
give one, what comes instead of an order asks for nothing, and orders are not waited for any more in
this round. The service also has a last resort, which ends it when nothing is waited for.

The last resort is never taken, because nothing that the timer brings asks for nothing. So an order
to stop is the only way to end a service, and one that nobody can give orders to goes on for ever.

## Main definitions

* `Worker`: a keeper or a poller.
* `Service`: a worker with its orders and those who can give them.
* `Service.Step`: what happens in a service.

## Main statements

* `Step.attentive`: in every round the timer is waited for.
* `Service.endings_of_run`: how services end, and how they do not.

## Implementation notes

A piece of work is one step. What happens to the orders meanwhile can as well happen between this
step and the next one, because nobody looks at the orders while they work. The requests of a tick
are in the log when the timer has fired, although the polls that it starts may still go on.
-/

namespace PulseBridge

open Http (Sent Web)

/-- Who works when a timer fires and on demand. -/
inductive Worker where
  | keeping (source : CheckSource) (keeper : CheckKeeper)
  | polling (plan : PollPlan) (poller : Poller)

namespace Worker

/-- Whether the worker has not been told to stop. -/
def running : Worker → Bool
  | .keeping _ keeper => keeper.running
  | .polling _ poller => poller.running

/-- The work of a timer that fires, while the list of checks is as given. -/
def tick (web : Web) (checks : List Check) : Worker → List Sent → Worker × List Sent
  | .keeping source keeper, earlier =>
      let done := keeper.tick web source earlier
      (.keeping source done.keeper, done.log)
  | .polling plan poller, earlier =>
      (.polling plan poller, (poller.tick web plan checks earlier).log)

/-- The work that somebody asks for. -/
def tickNow (web : Web) (checks : List Check) : Worker → List Sent → Worker × List Sent
  | .keeping source keeper, earlier =>
      let done := keeper.refreshNow web source earlier
      (.keeping source done.keeper, done.log)
  | .polling plan poller, earlier =>
      (.polling plan poller, (poller.tickNow web plan checks earlier).2.log)

/-- The worker is told to stop. -/
def stop : Worker → Worker
  | .keeping source keeper => .keeping source keeper.shutdown.2
  | .polling plan poller => .polling plan poller.shutdown.2

/-- The work of a timer that fires some times, while the world is as given each time. -/
def ticks (worker : Worker) (earlier : List Sent) (rounds : List (Web × List Check)) :
    Worker × List Sent :=
  rounds.foldl (fun done round => done.1.tick round.1 round.2 done.2) (worker, earlier)

/-- How a piece of work can end. A panic costs only what was not done yet. -/
inductive Works (worker : Worker) (earlier : List Sent) : Worker → List Sent → Prop
  | ticked (web : Web) (checks : List Check) :
      Works worker earlier (worker.tick web checks earlier).1 (worker.tick web checks earlier).2
  | asked (web : Web) (checks : List Check) :
      Works worker earlier (worker.tickNow web checks earlier).1
        (worker.tickNow web checks earlier).2
  | panicked (sent : List Sent) : Works worker earlier worker (earlier ++ sent)

variable {worker after : Worker} {earlier log : List Sent}

/-- Whoever asks for the work gets what a timer would have brought about. -/
theorem tickNow_eq_tick (web : Web) (checks : List Check) (worker : Worker)
    (earlier : List Sent) :
    worker.tickNow web checks earlier = worker.tick web checks earlier := by
  cases worker with
  | keeping source keeper =>
      cases running : keeper.running <;>
        simp [tickNow, tick, CheckKeeper.refreshNow, CheckKeeper.tick, running]
  | polling plan poller => rfl

@[simp] theorem running_stop (worker : Worker) : worker.stop.running = false := by
  cases worker <;> rfl

/-- Work stops nobody. -/
@[simp] theorem running_tick (web : Web) (checks : List Check) (worker : Worker)
    (earlier : List Sent) : (worker.tick web checks earlier).1.running = worker.running := by
  cases worker with
  | keeping source keeper =>
      simp only [tick, running, CheckKeeper.tick]
      split
      · unfold CheckKeeper.conclude
        split <;> rfl
      · rfl
  | polling plan poller => rfl

theorem Works.running_eq (works : worker.Works earlier after log) :
    after.running = worker.running := by
  cases works with
  | ticked web checks => exact running_tick web checks worker earlier
  | asked web checks => rw [tickNow_eq_tick, running_tick]
  | panicked sent => rfl

/-- A timer brings nothing about any more when the worker has been told to stop. -/
theorem tick_of_stopped (stopped : worker.running = false) (web : Web) (checks : List Check)
    (earlier : List Sent) : worker.tick web checks earlier = (worker, earlier) := by
  cases worker with
  | keeping source keeper =>
      have idle : keeper.running = false := stopped
      simp [tick, CheckKeeper.tick, idle]
  | polling plan poller =>
      have idle : poller.running = false := stopped
      simp [tick, Poller.tick, idle]

end Worker

namespace Service

/-- What whoever holds a handle can ask for. -/
inductive Demand where
  | work
  | stop
  deriving DecidableEq, Repr

/-- What is waited for. -/
inductive Branch where
  | timer
  | orders
  deriving DecidableEq, Repr

/-- What comes to a worker who waits. -/
inductive Arrival where
  | timer
  /-- The next order, or the news that there will be none. -/
  | order (next : Option Demand)
  deriving DecidableEq, Repr

namespace Arrival

/-- Where something comes. -/
def branch : Arrival → Branch
  | .timer => .timer
  | .order _ => .orders

/-- What is asked of the worker, if anything. -/
def demand : Arrival → Option Demand
  | .timer => some .work
  | .order next => next

/-- Only the news that there will be no order asks for nothing. -/
theorem eq_of_demand_eq_none {arrival : Arrival} (nothing : arrival.demand = none) :
    arrival = .order none := by
  cases arrival with
  | timer => cases nothing
  | order next => exact congrArg Arrival.order nothing

/-- Only an order to stop asks to stop. -/
theorem eq_of_demand_eq_stop {arrival : Arrival} (stop : arrival.demand = some .stop) :
    arrival = .order (some .stop) := by
  cases arrival with
  | timer => cases stop
  | order next => exact congrArg Arrival.order stop

end Arrival

/-- What is waited for at the beginning of a round. -/
def branches : List Branch := [.timer, .orders]

/-- How many orders can wait at once. -/
def orderRoom : Nat := 32

end Service

/-- A worker with its orders and those who can give them. -/
structure Service where
  /-- How many hold a handle of the worker. -/
  handles : Nat
  /-- The orders that have not been taken up. -/
  orders : List Service.Demand
  /-- What is still waited for in this round. -/
  awaited : List Service.Branch
  worker : Worker
  /-- The requests that the worker has sent. -/
  log : List Sent

namespace Service

/-- A service at the beginning. -/
def start (worker : Worker) (handles : Nat) : Service := ⟨handles, [], branches, worker, []⟩

/-- What can come, and the orders that are left then. -/
inductive Comes (s : Service) : Arrival → List Demand → Prop
  | timer : Comes s .timer s.orders
  | order {order rest} (first : s.orders = order :: rest) : Comes s (.order (some order)) rest
  | noOrder (empty : s.orders = []) (nobody : s.handles = 0) : Comes s (.order none) []

/-- What happens in a service. -/
inductive Event where
  /-- The worker does what is asked for, and a new round begins. -/
  | take (arrival : Arrival)
  /-- What comes asks for nothing, and is not waited for in the rest of the round. -/
  | pass (arrival : Arrival)
  /-- The last resort: nothing is waited for any more. -/
  | giveUp
  /-- Somebody gives an order. -/
  | send (order : Demand)
  /-- One more holds a handle of the worker, or one less. -/
  | share
  | drop
  deriving DecidableEq, Repr

/-- What happens at once. -/
inductive Step : Service → Event → Service → Prop
  | work {s arrival orders worker log} (running : s.worker.running = true)
      (awaited : arrival.branch ∈ s.awaited) (comes : s.Comes arrival orders)
      (asked : arrival.demand = some .work) (works : s.worker.Works s.log worker log) :
      Step s (.take arrival) { s with orders, awaited := branches, worker, log }
  | stop {s arrival orders} (running : s.worker.running = true)
      (awaited : arrival.branch ∈ s.awaited) (comes : s.Comes arrival orders)
      (asked : arrival.demand = some .stop) :
      Step s (.take arrival) { s with orders := [], awaited := [], worker := s.worker.stop }
  | pass {s arrival orders} (running : s.worker.running = true)
      (awaited : arrival.branch ∈ s.awaited) (comes : s.Comes arrival orders)
      (nothing : arrival.demand = none) :
      Step s (.pass arrival) { s with awaited := s.awaited.erase arrival.branch }
  | giveUp {s} (running : s.worker.running = true) (nothing : s.awaited = []) :
      Step s .giveUp { s with orders := [], worker := s.worker.stop }
  | send {s order} (running : s.worker.running = true) (somebody : 0 < s.handles)
      (room : s.orders.length < orderRoom) :
      Step s (.send order) { s with orders := s.orders ++ [order] }
  | share {s} (somebody : 0 < s.handles) : Step s .share { s with handles := s.handles + 1 }
  | drop {s} (somebody : 0 < s.handles) : Step s .drop { s with handles := s.handles - 1 }

/-- The worker takes up an order to stop. -/
def Event.dismissal : Event := .take (.order (some .stop))

variable {s t : Service} {e : Event} {trace : List Event} {worker : Worker} {handles : Nat}

/-! ## The timer -/

/-- Whoever works waits for the timer. -/
def Attentive (s : Service) : Prop := s.worker.running = true → Branch.timer ∈ s.awaited

/-- What is not waited for in the rest of a round is never the timer. -/
theorem Step.attentive (step : Step s e t) (attentive : s.Attentive) : t.Attentive := by
  intro running
  cases step with
  | work => exact List.mem_cons_self
  | stop | giveUp => simp at running
  | pass before _ _ nothing =>
      have kept := attentive before
      rw [Arrival.eq_of_demand_eq_none nothing]
      exact (List.mem_erase_of_ne (by decide)).mpr kept
  | send before | share | drop => exact attentive running

theorem attentive_of_run (run : Run Step (start worker handles) trace s) : s.Attentive :=
  run.invariant (fun _ => List.mem_cons_self) fun _ _ _ _ _ attentive step =>
    step.attentive attentive

/-- The last resort is not taken while the timer is waited for. -/
theorem Step.ne_giveUp (step : Step s e t) (attentive : s.Attentive) : e ≠ .giveUp := by
  rintro rfl
  cases step with
  | giveUp running nothing =>
      have waited := attentive running
      rw [nothing] at waited
      cases waited

theorem giveUp_notMem (run : Run Step (start worker handles) trace s) : .giveUp ∉ trace := by
  induction run with
  | start => exact List.not_mem_nil
  | snoc run last ih =>
      have taken := last.ne_giveUp (attentive_of_run run)
      simp [ih, taken.symm]

/-- Whoever works can be made to work by the timer, whatever the world is like. -/
theorem step_tick (attentive : s.Attentive) (running : s.worker.running = true) (web : Web)
    (checks : List Check) :
    Step s (.take .timer)
      { s with
        awaited := branches
        worker := (s.worker.tick web checks s.log).1
        log := (s.worker.tick web checks s.log).2 } :=
  .work running (attentive running) .timer rfl (.ticked web checks)

/-- The timer can fire again and again, and all the work is done each time. -/
theorem exists_run_ticks (rounds : List (Web × List Check)) (attentive : s.Attentive)
    (running : s.worker.running = true) :
    ∃ t, Run Step s (rounds.map fun _ => .take .timer) t ∧
      (t.worker, t.log) = s.worker.ticks s.log rounds := by
  induction rounds generalizing s with
  | nil => exact ⟨s, .start, rfl⟩
  | cons round rounds ih =>
      have first := step_tick attentive running round.1 round.2
      have goesOn : (s.worker.tick round.1 round.2 s.log).1.running = true := by
        rw [Worker.running_tick, running]
      obtain ⟨t, rest, done⟩ := ih (first.attentive attentive) goesOn
      exact ⟨t, .cons first rest, done⟩

/-! ## The end -/

/-- A step that is no last resort ends the service exactly if it is an order to stop. -/
theorem Step.running_iff (step : Step s e t) (resort : e ≠ .giveUp) :
    t.worker.running = true ↔ s.worker.running = true ∧ e ≠ Event.dismissal := by
  cases step with
  | @work arrival _ _ _ running _ _ asked works =>
      have other : arrival ≠ .order (some .stop) := by
        rintro rfl
        cases asked
      simp [works.running_eq, running, Event.dismissal, other]
  | stop running _ _ asked =>
      simp [Arrival.eq_of_demand_eq_stop asked, Event.dismissal]
  | giveUp => exact absurd rfl resort
  | pass | send | share | drop => simp [Event.dismissal]

/-- The worker goes on until it takes up an order to stop. -/
theorem running_iff_of_run (running : worker.running = true)
    (run : Run Step (start worker handles) trace s) :
    s.worker.running = true ↔ Event.dismissal ∉ trace := by
  induction run with
  | start => simpa [start] using running
  | snoc run last ih =>
      rw [last.running_iff (last.ne_giveUp (attentive_of_run run)), ih]
      simp [eq_comm]

/-- A step of a service that has ended neither comes from the worker nor touches it. -/
theorem Step.of_stopped (step : Step s e t) (stopped : s.worker.running = false) :
    (∀ arrival, e ≠ .take arrival) ∧ t.worker = s.worker ∧ t.log = s.log := by
  cases step with
  | work running | stop running | pass running | giveUp running | send running =>
      rw [running] at stopped
      cases stopped
  | share | drop => exact ⟨nofun, rfl, rfl⟩

theorem of_stopped_run (stopped : s.worker.running = false) (run : Run Step s trace t) :
    (∀ arrival, .take arrival ∉ trace) ∧ t.worker = s.worker ∧ t.log = s.log := by
  induction run with
  | start => exact ⟨fun _ => List.not_mem_nil, rfl, rfl⟩
  | snoc _ last ih =>
      obtain ⟨nothing, sameWorker, sameLog⟩ := ih
      obtain ⟨noTake, worker', log'⟩ := last.of_stopped (sameWorker ▸ stopped)
      refine ⟨?_, worker'.trans sameWorker, log'.trans sameLog⟩
      intro arrival taken
      rcases List.mem_append.mp taken with early | late
      · exact nothing arrival early
      · exact noTake arrival (List.mem_singleton.mp late).symm

/-! ## A service that nobody can give orders to -/

/-- Nobody can give orders, and none is left. -/
structure IsAbandoned (s : Service) : Prop where
  nobody : s.handles = 0
  empty : s.orders = []
  running : s.worker.running = true

/-- What happens when nobody can give orders: the timer fires, or it is found that there is no
order. Neither changes that. -/
theorem Step.of_abandoned (step : Step s e t) (abandoned : s.IsAbandoned)
    (attentive : s.Attentive) :
    (e = .take .timer ∨ e = .pass (.order none)) ∧ t.IsAbandoned := by
  obtain ⟨nobody, empty, running⟩ := abandoned
  cases step with
  | work _ _ comes asked works =>
      cases comes with
      | timer => exact ⟨Or.inl rfl, nobody, empty, works.running_eq.trans running⟩
      | order first => simp [empty] at first
      | noOrder => cases asked
  | stop _ _ comes asked =>
      cases comes with
      | timer | noOrder => cases asked
      | order first => simp [empty] at first
  | pass _ _ _ nothing =>
      exact ⟨Or.inr (congrArg Event.pass (Arrival.eq_of_demand_eq_none nothing)),
        nobody, empty, running⟩
  | giveUp _ nothing =>
      have waited := attentive running
      rw [nothing] at waited
      cases waited
  | send _ somebody | share somebody | drop somebody => omega

theorem of_abandoned_run (abandoned : s.IsAbandoned) (attentive : s.Attentive)
    (run : Run Step s trace t) :
    (∀ e ∈ trace, e = .take .timer ∨ e = .pass (.order none)) ∧ t.IsAbandoned ∧
      t.Attentive := by
  induction run with
  | start => exact ⟨nofun, abandoned, attentive⟩
  | snoc _ last ih =>
      obtain ⟨before, abandoned', attentive'⟩ := ih
      obtain ⟨this, next⟩ := last.of_abandoned abandoned' attentive'
      refine ⟨?_, next, last.attentive attentive'⟩
      intro e he
      rcases List.mem_append.mp he with early | late
      · exact before e early
      · exact List.mem_singleton.mp late ▸ this

/-- However the timer, the orders, the handles and the panics follow each other: the last resort is
never taken, and the worker stops exactly when it takes up an order to stop. From then on it takes
up nothing and sends nothing, and a timer would bring nothing about. Until then the timer can fire
any number of times, with all the work done each time. So once nobody holds a handle and no order is
left the worker never stops, and nothing but the timer makes it work. -/
theorem endings_of_run (running : worker.running = true)
    (run : Run Step (start worker handles) trace s) :
    .giveUp ∉ trace ∧
      (s.worker.running = true ↔ Event.dismissal ∉ trace) ∧
      (s.worker.running = false →
        (∀ after t, Run Step s after t →
          (∀ arrival, .take arrival ∉ after) ∧ t.worker = s.worker ∧ t.log = s.log) ∧
        ∀ web checks, s.worker.tick web checks s.log = (s.worker, s.log)) ∧
      (s.worker.running = true → ∀ rounds, ∃ t,
        Run Step s (rounds.map fun _ => .take .timer) t ∧
          (t.worker, t.log) = s.worker.ticks s.log rounds) ∧
      (s.IsAbandoned → ∀ after t, Run Step s after t → t.worker.running = true ∧
        ∀ e ∈ after, e = .take .timer ∨ e = .pass (.order none)) := by
  have attentive := attentive_of_run run
  refine ⟨giveUp_notMem run, running_iff_of_run running run, ?stopped, ?timer, ?abandoned⟩
  case stopped =>
    intro stopped
    exact ⟨fun _ _ later => of_stopped_run stopped later,
      fun web checks => Worker.tick_of_stopped stopped web checks s.log⟩
  case timer =>
    intro goesOn rounds
    exact exists_run_ticks rounds attentive goesOn
  case abandoned =>
    intro abandoned after t later
    obtain ⟨events, still, -⟩ := of_abandoned_run abandoned attentive later
    exact ⟨still.running, events⟩

namespace Abandoned

/-- A keeper of checks that are published on this machine. -/
def keeper : Worker := .keeping ⟨"http://[::1]/checks", "key"⟩ (.start [])

/-- A poller that asks this machine. -/
def poller : Worker := .polling ⟨"http://[::1]/", 60⟩ .start

/-- A check. -/
def check : Check := ⟨"1", "key", "", .empty⟩

/-- A web in which nothing is found. -/
def web : Web := fun _ _ => .reply ⟨⟨404, by decide, by decide⟩, [], .ok []⟩

/-- The last handle of a worker is dropped, and the worker finds that there is no order. -/
theorem run_drop_pass {worker : Worker} (running : worker.running = true) :
    Run Step (start worker 1) [.drop, .pass (.order none)] ⟨0, [], [.timer], worker, []⟩ := by
  have dropped : Step (start worker 1) .drop ⟨0, [], branches, worker, []⟩ :=
    .drop Nat.zero_lt_one
  have passed : Step ⟨0, [], branches, worker, []⟩ (.pass (.order none))
      ⟨0, [], [.timer], worker, []⟩ :=
    .pass running (List.mem_cons_of_mem _ List.mem_cons_self) (.noOrder rfl rfl) rfl
  exact (Run.single dropped).snoc passed

/-- Whether a worker sends a request when the timer fires, although its last handle has been dropped
and it has found that there is no order. -/
def WorksAbandoned (worker : Worker) : Prop :=
  ∃ s t, Run Step (start worker 1) [.drop, .pass (.order none)] s ∧ s.IsAbandoned ∧ s.log = [] ∧
    Step s (.take .timer) t ∧ t.log.length = 1

theorem worksAbandoned {worker : Worker} (running : worker.running = true)
    (sends : (worker.tick web [check] []).2.length = 1) : WorksAbandoned worker := by
  have run := run_drop_pass running
  have step := step_tick (attentive_of_run run) running web [check]
  exact ⟨_, _, run, ⟨rfl, rfl, running⟩, rfl, step, sends⟩

/-- Neither the keeper nor the poller stops when nobody can give them orders any more. -/
theorem served_of_abandoned : WorksAbandoned keeper ∧ WorksAbandoned poller := by
  have kept : (keeper.tick web [check] []).2.length = 1 := by decide +kernel
  have polled : (poller.tick web [check] []).2.length = 1 := by decide +kernel
  exact ⟨worksAbandoned rfl kept, worksAbandoned rfl polled⟩

/-- A keeper that is abandoned with an order to stop stops. -/
theorem endings_of_dismissed : ∃ s,
    Run Step (start keeper 1) [.send .stop, .drop, Event.dismissal] s ∧
      s.worker.running = false := by
  have sent : Step (start keeper 1) (.send .stop) ⟨1, [.stop], branches, keeper, []⟩ :=
    .send rfl Nat.zero_lt_one (by decide)
  have dropped : Step ⟨1, [.stop], branches, keeper, []⟩ .drop
      ⟨0, [.stop], branches, keeper, []⟩ :=
    .drop Nat.zero_lt_one
  have stopped : Step ⟨0, [.stop], branches, keeper, []⟩ Event.dismissal
      ⟨0, [], [], keeper.stop, []⟩ :=
    .stop rfl (by decide) (.order rfl) rfl
  have run := ((Run.single sent).snoc dropped).snoc stopped
  obtain ⟨-, goesOn, -⟩ := endings_of_run rfl run
  refine ⟨_, run, ?_⟩
  rw [Bool.eq_false_iff, ne_eq, goesOn]
  simp

end Abandoned

end Service

end PulseBridge
