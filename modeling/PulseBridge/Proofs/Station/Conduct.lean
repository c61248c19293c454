import PulseBridge.Proofs.Station.Schedule

/-!
# The conduct of a courier

What a courier owes to those who put items into its channel and to those who hold a handle of it:
the order of the items, a tally that is right whenever it is told, no end but one of the agreed
ones, and nothing lost at an end that nobody asked for.
-/

namespace PulseBridge

namespace Station

variable {σ α : Type} {capacity producers handles : Nat} {world : σ} {sink : Sink σ α}
variable {s t : Station σ α} {trace before after : List (Event α)}

/-- Whoever asks is told the tally of the deliveries that have ended by then. -/
theorem tally_of_reply {tally : Tally}
    (run : Run (Step sink) (start capacity producers handles world)
      (before ++ .reply tally :: after) s) :
    tally = Tally.of (results before) := by
  obtain ⟨t, u, first, step, _⟩ := run.split_at
  cases step with
  | reply free _ told =>
      have running := (isFree_iff.mp free).1
      rw [Courier.askTally, if_pos running, Except.ok.injEq] at told
      rw [← told, (account_of_run first).tally_eq]

/-- A delivery ends as the sink says, and is then taken note of. -/
theorem Step.of_conclude {item : α} {outcome : Outcome Delivery}
    (step : Step sink s (.conclude item outcome) t) :
    s.hands = some item ∧ outcome = (sink.deliver s.world item).1 ∧
      t = { s with
        hands := none
        courier := (s.courier.deliver sink s.world item).1
        world := (s.courier.deliver sink s.world item).2.2 } := by
  cases step with
  | conclude held => exact ⟨held, rfl, rfl⟩

/-- A delivery that panics counts as one that failed, and leaves the courier free. -/
theorem Account.panicked {item : α} {panic : Panic} (h : Account trace s)
    (step : Step sink s (.conclude item (.panicked panic)) t) :
    t.courier.tally =
        { s.courier.tally with
          failed := s.courier.tally.failed + 1
          last := some (.failed none "delivery panicked") } ∧
      t.isFree = true ∧ t.queue = s.queue := by
  obtain ⟨held, houtcome, rfl⟩ := step.of_conclude
  refine ⟨?_, isFree_iff.mpr ⟨h.running_of_held held, rfl⟩, rfl⟩
  rw [Courier.fst_deliver, ← houtcome]
  rfl

/-- After the courier has dealt with the order to stop, nothing is delivered. -/
theorem nothing_after_dismiss
    (run : Run (Step sink) s (before ++ .dismiss :: after) t) :
    given after = [] ∧ concluded after = [] := by
  obtain ⟨u, v, _, step, rest⟩ := run.split_at
  cases step with
  | dismiss free _ =>
      obtain ⟨aside, _⟩ := aside_of_end rest rfl (isFree_iff.mp free).2
      exact ⟨given_eq_nil aside, concluded_eq_nil aside⟩

/-- A delivery is one call of the sink, in the world at that time and with the item in hand. It ends
as the sink says, and leaves the world as the sink makes it. -/
theorem call_of_conclude {item : α} {outcome : Outcome Delivery}
    (run : Run (Step sink) (start capacity producers handles world)
      (before ++ .conclude item outcome :: after) s) :
    ∃ t u, Run (Step sink) (start capacity producers handles world) before t ∧
      Run (Step sink) u after s ∧ t.hands = some item ∧ u.hands = none ∧
      outcome = (sink.deliver t.world item).1 ∧ u.world = (sink.deliver t.world item).2.2 := by
  obtain ⟨t, u, first, step, rest⟩ := run.split_at
  obtain ⟨held, ends, rfl⟩ := step.of_conclude
  exact ⟨t, _, first, rest, held, rfl, ends, Courier.world_deliver sink t.courier t.world item⟩

/-- The conduct of a courier, whatever the sink does and in whatever order everything happens. -/
theorem conduct_of_run
    (run : Run (Step sink) (start capacity producers handles world) trace s) :
    -- The items are given to the sink in order, each is delivered once and none is repeated.
    given trace <+: accepted trace ∧
    given trace = (concluded trace).map Prod.fst ++ s.hands.toList ∧
    -- A delivery is one call of the sink, which decides its end and what becomes of the world.
    (∀ before item outcome after, trace = before ++ .conclude item outcome :: after →
      ∃ t u, Run (Step sink) (start capacity producers handles world) before t ∧
        Run (Step sink) u after s ∧ t.hands = some item ∧ u.hands = none ∧
        outcome = (sink.deliver t.world item).1 ∧ u.world = (sink.deliver t.world item).2.2) ∧
    -- The tally is right whenever it is told.
    (∀ before tally after, trace = before ++ .reply tally :: after →
      tally.delivered + tally.failed = (concluded before).length ∧
      tally.delivered = (results before).countP Delivery.succeeded ∧
      tally.last = (results before).getLast?) ∧
    -- A panic is one failure, and the courier goes on with the next item.
    (∀ item panic t, Step sink s (.conclude item (.panicked panic)) t →
      t.courier.tally =
          { s.courier.tally with
            failed := s.courier.tally.failed + 1
            last := some (.failed none "delivery panicked") } ∧
      t.queue = s.queue ∧
      ∀ next rest, t.queue = next :: rest → ∃ u, Step sink t (.pick next) u) ∧
    -- Nothing is delivered once the order to stop has been dealt with.
    (∀ before after, trace = before ++ .dismiss :: after →
      given after = [] ∧ concluded after = []) ∧
    -- When all handles have been dropped, everything goes on as it can while nobody uses one.
    Run (Step sink) s (List.replicate s.handles .drop) (s.withHandles 0) ∧
    (∀ more t, Run (Step sink) (s.withHandles 0) more t ↔
      (∀ e ∈ more, e.ofHandle = false) ∧ t.handles = 0 ∧
        Run (Step sink) s more (t.withHandles s.handles)) ∧
    -- A courier that stops unasked has delivered everything, and it can always come to that.
    (s.courier.running = false → Event.send .stop ∉ trace →
      (concluded trace).map Prod.fst = accepted trace) ∧
    (s.courier.running = true → s.producers = 0 → ∃ more t, Ending sink s more t) := by
  have account := account_of_run run
  refine ⟨account.given_prefix, account.given_eq, ?_, ?_, ?_, ?_, run_drop s s.handles, ?_, ?_, ?_⟩
  · rintro before item outcome after rfl
    exact call_of_conclude run
  · rintro before tally after rfl
    rw [tally_of_reply run, Tally.total_of, Tally.delivered_of, Tally.last_of]
    exact ⟨List.length_map _, rfl, rfl⟩
  · intro item panic t step
    obtain ⟨htally, free, hqueue⟩ := account.panicked step
    exact ⟨htally, hqueue, fun next rest first => ⟨_, .pick free first⟩⟩
  · rintro before after rfl
    exact nothing_after_dismiss run
  · exact fun more t => run_without_handles_iff
  · exact fun stopped unasked => delivered_of_end run stopped unasked
  · exact fun running nobody => exists_ending running nobody

/-- A sink that keeps what it is given, and that every delivery to panics. -/
def brokenSink : Sink (List Nat) Nat :=
  ⟨"broken", fun kept item => (.panicked .other, [], kept ++ [item])⟩

/-- One item comes, its delivery panics, and somebody asks for the tally. -/
def brokenTrace : List (Event Nat) :=
  [ .accept 5, .pick 5, .conclude 5 (.panicked .other), .send .tally,
    .reply ⟨0, 1, some (.failed none "delivery panicked")⟩ ]

theorem conduct_of_brokenTrace :
    ∃ s, Run (Step brokenSink) (start 1 1 1 []) brokenTrace s ∧
      given brokenTrace <+: accepted brokenTrace ∧
      (∃ t u, Run (Step brokenSink) (start 1 1 1 []) (brokenTrace.take 2) t ∧
        Run (Step brokenSink) u (brokenTrace.drop 3) s ∧ u.world = t.world ++ [5]) ∧
      (⟨0, 1, some (.failed none "delivery panicked")⟩ : Tally).last =
        (results (brokenTrace.take 4)).getLast? := by
  have accepted : Step brokenSink (start 1 1 1 []) (.accept 5) _ :=
    .accept rfl (by decide) (by decide)
  have picked := (Run.single accepted).snoc (@Step.pick _ _ brokenSink _ 5 [] rfl rfl)
  have ended := picked.snoc (@Step.conclude _ _ brokenSink _ 5 rfl)
  have asked := ended.snoc (@Step.send _ _ brokenSink _ .tally rfl (by decide) (by decide))
  have run := asked.snoc (.reply rfl rfl rfl)
  obtain ⟨inOrder, -, calls, tally, -⟩ := conduct_of_run run
  obtain ⟨t, u, first, rest, -, -, -, kept⟩ := calls (brokenTrace.take 2) _ _ _ rfl
  exact ⟨_, run, inOrder, ⟨t, u, first, rest, kept⟩, (tally (brokenTrace.take 4) _ [] rfl).2.2⟩

end Station

end PulseBridge
