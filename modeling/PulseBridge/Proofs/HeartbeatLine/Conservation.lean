import PulseBridge.Proofs.HeartbeatLine
import PulseBridge.Proofs.Polls.Heartbeats

/-!
# No heartbeat is lost or delivered twice

While the courier runs, every heartbeat that an answer gave has been delivered, is being delivered,
stands in the channel or is still to be sent by its own poll. However polls and deliveries
interleave, the heartbeats of one poll reach the sink in the order of the metrics.
-/

namespace PulseBridge

namespace HeartbeatLine

variable {σ : Type} {plan : PollPlan} {sink : Sink σ Heartbeat} {s t : HeartbeatLine σ}
variable {trace : List Event} {limit : Option Nat} {capacity handles : Nat} {world : σ}

/-- The heartbeats that the answers gave, with the polls that got the answers. -/
def built (plan : PollPlan) (trace : List Event) : List (Nat × Heartbeat) :=
  Polls.built plan (ofPolls trace)

/-- The heartbeats that the channel took, in their order, with the polls that sent them. -/
def passed (trace : List Event) : List (Nat × Heartbeat) := Polls.sent (ofPolls trace)

/-- The heartbeats that were given to the sink, in their order. -/
def given (trace : List Event) : List Heartbeat := Station.given (ofStation trace)

/-- The heartbeats whose delivery has ended, in their order. -/
def delivered (trace : List Event) : List Heartbeat :=
  (Station.concluded (ofStation trace)).map Prod.fst

/-- Those that the channel took and that were given to the sink, with the polls that sent them. -/
def handed (trace : List Event) : List (Nat × Heartbeat) :=
  (passed trace).take (given trace).length

/-- What was given to the sink is what the channel took first. -/
theorem handed_eq (run : Run (Step plan sink) (start limit capacity handles world) trace s) :
    (handed trace).map Prod.snd = given trace := by
  have account := Station.account_of_run (run_station run)
  have inOrder := account.given_prefix
  rw [accepted_eq run] at inOrder
  rw [handed, List.map_take]
  exact (List.prefix_iff_eq_take.mp inOrder).symm

/-- While the courier runs, what the channel took has been delivered, is being delivered or stands
in the channel. -/
theorem passed_eq (run : Run (Step plan sink) (start limit capacity handles world) trace s)
    (running : s.station.courier.running = true) :
    (passed trace).map Prod.snd =
      delivered trace ++ s.station.hands.toList ++ s.station.queue := by
  have account := Station.account_of_run (run_station run)
  rw [passed, ← accepted_eq run, account.line running, account.given_eq]
  rfl

/-- No poll panics between two heartbeats. -/
theorem nothing_left_of_panic (run : Run (Step plan sink) s trace t) {j : Nat}
    {left : List Heartbeat} (panics : (j, left) ∈ Polls.panicked (ofPolls trace)) : left = [] := by
  induction run with
  | start => simp [ofPolls, Polls.panicked] at panics
  | snoc _ last ih =>
      rw [ofPolls_append, Polls.panicked_append, List.mem_append] at panics
      rcases panics with early | now
      · exact ih early
      · cases last with
        | @poll e polls own step =>
            cases step with
            | panic found going =>
                rw [ofPolls_singleton] at now
                cases List.mem_singleton.mp now
                exact List.isEmpty_iff.mp own
            | tick | ask | answer | send | refuse | finish | lose | shutdown => cases now
        | pass | serve | close | release => cases now

/-- What was given to the sink of the heartbeats of one poll is what its answer gave first. -/
theorem about_handed {j : Nat} {poll : Poll}
    (run : Run (Step plan sink) (start limit capacity handles world) trace s)
    (running : s.station.courier.running = true) (found : s.polls.polls[j]? = some poll) :
    Polls.about j (handed trace) <+: Polls.about j (built plan trace) := by
  have account := Polls.account_of_run (run_polls run)
  have receiving := (receiving_of_run run).trans running
  have begins : Polls.about j (handed trace) <+: Polls.about j (passed trace) :=
    (List.take_prefix _ (passed trace)).filterMap _
  have nothing : (Polls.about j (Polls.panicked (ofPolls trace))).flatten = [] := by
    rw [List.flatten_eq_nil_iff]
    exact fun left mem => nothing_left_of_panic run (Polls.mem_about.mp mem)
  rw [built, ← account.sent_append_left receiving found nothing]
  exact begins.trans (List.prefix_append _ _)

/-- No heartbeat is lost or delivered twice before the courier stops, whatever the answers and the
deliveries come to and in whatever order everything happens. -/
theorem heartbeats_of_run
    (run : Run (Step plan sink) (start limit capacity handles world) trace s)
    (running : s.station.courier.running = true) :
    -- Each heartbeat that an answer gave is at one place, and nothing else is.
    ((built plan trace).map Prod.snd).Perm
      (delivered trace ++ s.station.hands.toList ++ s.station.queue ++ s.polls.unsent) ∧
    s.station.queue.length ≤ capacity ∧
    -- The sink is given heartbeats in the order in which the channel took them.
    (handed trace).map Prod.snd = given trace ∧
    given trace = delivered trace ++ s.station.hands.toList ∧
    -- Those of one poll are given to it in the order in which the answer about its check gave them:
    -- response time, throughput, error rate. A poll without such an answer has none.
    (∀ j poll, s.polls.polls[j]? = some poll →
      Polls.about j (handed trace) <+: Polls.about j (built plan trace) ∧
      (∀ answer heartbeats, (j, poll.check, answer) ∈ Polls.answered (ofPolls trace) →
        plan.Gives poll.check answer heartbeats →
          Polls.about j (built plan trace) = heartbeats) ∧
      (Polls.about j (built plan trace) = [] ∨
        ∃ answer, (j, poll.check, answer) ∈ Polls.answered (ofPolls trace) ∧
          plan.Gives poll.check answer (Polls.about j (built plan trace)))) := by
  have account := Station.account_of_run (run_station run)
  refine ⟨?_, ?_, handed_eq run, account.given_eq, ?_⟩
  · have whole := Polls.conserved_of_run (run_polls run) ((receiving_of_run run).trans running)
    have nothing : Polls.abandoned (ofPolls trace) = [] := by
      rw [Polls.abandoned, List.flatMap_eq_nil_iff]
      intro panic panics
      exact nothing_left_of_panic run panics
    rw [nothing, List.append_nil] at whole
    rw [← passed_eq run running]
    exact whole
  · rw [← Station.capacity_of_run (run_station run)]
    exact account.room
  · intro j poll found
    exact ⟨about_handed run running found,
      (Polls.account_of_run (run_polls run)).built_eq found⟩

/-! ### A run with one poll -/

/-- The list of the only check, the plan and the answer of the provider. -/
def soleCheck : Check := ⟨"1", "key", "", .empty⟩

def solePlan : PollPlan := ⟨"http://provider/{id}", 60⟩

def soleAnswer : Except Http.CallError Http.Fetched :=
  .ok ⟨.ok, Octets.ofText
    "\x7b\"response_time\":1,\"throughput\":2,\"error_rate\":3\x7d"⟩

/-- A sink that takes whatever it is given. -/
def openSink : Sink Unit Heartbeat := ⟨"open", fun _ _ => (.finished (.delivered .ok), [], ())⟩

def solePoll (stage : PollStage) : Poll := ⟨[soleCheck], ⟨0, Nat.zero_lt_one⟩, stage⟩

/-- The line with one poll. -/
def soleLine (stage : PollStage) (queue : List Heartbeat) (hands : Option Heartbeat) :
    HeartbeatLine Unit :=
  ⟨⟨.start, none, [solePoll stage]⟩, ⟨1, 1, queue, 1, [], hands, .start, ()⟩⟩

/-- The first heartbeat of the only poll is being delivered, the second one stands in the channel,
and the third one is still to be sent. -/
theorem heartbeats_of_sole_run :
    ∃ trace s a b c, Run (Step solePlan openSink) (start none 1 1 ()) trace s ∧
      s.station.hands = some a ∧ s.station.queue = [b] ∧ s.polls.unsent = [c] ∧
      ((built solePlan trace).map Prod.snd).Perm
        (delivered trace ++ s.station.hands.toList ++ s.station.queue ++ s.polls.unsent) := by
  have isOk : (solePlan.heartbeatsOfAnswer soleCheck soleAnswer).isOk = true := by
    decide
  obtain ⟨heartbeats, good⟩ :
      ∃ heartbeats, solePlan.heartbeatsOfAnswer soleCheck soleAnswer = .ok heartbeats := by
    cases h : solePlan.heartbeatsOfAnswer soleCheck soleAnswer with
    | error => simp [h, Except.isOk, Except.toBool] at isOk
    | ok heartbeats => exact ⟨heartbeats, rfl⟩
  have answers : solePlan.stageAfter soleCheck soleAnswer =
      .sending heartbeats.length heartbeats := by
    rw [PollPlan.stageAfter, good]
  obtain ⟨a, b, c, rfl⟩ : ∃ a b c, heartbeats = [a, b, c] :=
    List.length_eq_three.mp (PollPlan.length_of_good good)
  have ticked : Step solePlan openSink (start none 1 1 ()) (.poll (.tick [soleCheck]))
      (soleLine .waiting [] none) :=
    .poll rfl (.tick rfl _)
  have asked : Step solePlan openSink (soleLine .waiting [] none) (.poll (.ask 0 soleCheck))
      (soleLine .asking [] none) :=
    .poll rfl (@Polls.Step.ask _ _ 0 (solePoll .waiting) rfl rfl (by intro h; cases h))
  have answered : Step solePlan openSink (soleLine .asking [] none)
      (.poll (.answer 0 soleCheck soleAnswer))
      (soleLine (solePlan.stageAfter soleCheck soleAnswer) [] none) :=
    .poll rfl (@Polls.Step.answer _ _ 0 (solePoll .asking) rfl rfl _)
  rw [answers] at answered
  have first : Step solePlan openSink (soleLine (.sending 3 [a, b, c]) [] none) (.pass 0 a)
      (soleLine (.sending 3 [b, c]) [a] none) :=
    .pass (@Polls.Step.send _ _ 0 (solePoll (.sending 3 [a, b, c])) 3 a [b, c] rfl rfl rfl)
      (.accept rfl Nat.zero_lt_one Nat.zero_lt_one)
  have picked : Step solePlan openSink (soleLine (.sending 3 [b, c]) [a] none) (.serve (.pick a))
      (soleLine (.sending 3 [b, c]) [] (some a)) :=
    .serve rfl (.pick rfl rfl)
  have second : Step solePlan openSink (soleLine (.sending 3 [b, c]) [] (some a)) (.pass 0 b)
      (soleLine (.sending 3 [c]) [b] (some a)) :=
    .pass (@Polls.Step.send _ _ 0 (solePoll (.sending 3 [b, c])) 3 b [c] rfl rfl rfl)
      (.accept rfl Nat.zero_lt_one Nat.zero_lt_one)
  have run := (((Run.single ticked).snoc asked).snoc answered).snoc first
  have run := (run.snoc picked).snoc second
  exact ⟨_, _, a, b, c, run, rfl, rfl, rfl, (heartbeats_of_run run rfl).1⟩

end HeartbeatLine

end PulseBridge
