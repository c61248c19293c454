import PulseBridge.Proofs.Polls.Heartbeats

/-!
# One poll after the other

Polling the checks of a tick one after the other, as `pollAll` does, is one of the runs of the
polls: the same heartbeats are sent, and the report counts how the polls ended.
-/

namespace PulseBridge

open Http (CallError Fetched Web Sent)

/-- The number of heartbeats of a poll that counts as a success. -/
def PollStage.count : PollStage → Option Nat
  | .ended count => count
  | _ => none

namespace Polls

variable {plan : PollPlan} {poller : Poller} {free : Option Nat} {before rest : List Poll}
variable {poll : Poll} {stage stage' : PollStage}

/-- The polls while one of them is at some stage. -/
def among (poller : Poller) (free : Option Nat) (before rest : List Poll) (poll : Poll)
    (stage : PollStage) : Polls :=
  ⟨poller, free, before ++ { poll with stage } :: rest⟩

theorem found_among : (among poller free before rest poll stage).polls[before.length]? =
    some { poll with stage } := by
  simp [among]

theorem move_among : (among poller free before rest poll stage).move before.length
      { poll with stage } stage' =
      among poller (free.map fun n => n + stage.permits - stage'.permits) before rest poll
        stage' := by
  simp [among, move]

/-- One permit fewer, where there is a limit. -/
def lend (free : Option Nat) : Option Nat := free.map (· - 1)

/-- One permit more, where there is a limit. -/
def giveBack (free : Option Nat) : Option Nat := free.map (· + 1)

/-- A permit that is given back is free again. -/
theorem giveBack_lend (permit : free ≠ some 0) : giveBack (lend free) = free := by
  cases free with
  | none => rfl
  | some n =>
      have hn : n ≠ 0 := fun h => permit (congrArg some h)
      simp only [giveBack, lend, Option.map_some, Option.some.injEq]
      omega

theorem step_ask (permit : free ≠ some 0) :
    Step plan (among poller free before rest poll .waiting) (.ask before.length poll.check)
      (among poller (lend free) before rest poll .asking) := by
  have step := @Step.ask plan (among poller free before rest poll .waiting) before.length _
    found_among rfl permit
  rwa [move_among] at step

theorem step_answer (answer : Except CallError Fetched) :
    Step plan (among poller free before rest poll .asking)
      (.answer before.length poll.check answer)
      (among poller (free.map fun n => n + 1 - (plan.stageAfter poll.check answer).permits)
        before rest poll (plan.stageAfter poll.check answer)) := by
  have step := @Step.answer plan (among poller free before rest poll .asking) before.length _
    found_among rfl answer
  rwa [move_among] at step

theorem step_send {count : Nat} {heartbeat : Heartbeat} {left : List Heartbeat}
    (receiving : poller.receiving = true) :
    Step plan (among poller free before rest poll (.sending count (heartbeat :: left)))
      (.send before.length heartbeat)
      (among poller free before rest poll (.sending count left)) := by
  have step := @Step.send plan (among poller free before rest poll _) before.length _ count
    heartbeat left found_among rfl receiving
  have same : (free.map fun n => n + 1 - 1) = free := by
    cases free <;> rfl
  rwa [move_among, PollStage.permits, PollStage.permits, same] at step

theorem step_refuse {count : Nat} {heartbeat : Heartbeat} {left : List Heartbeat}
    (gone : poller.receiving = false) :
    Step plan (among poller free before rest poll (.sending count (heartbeat :: left)))
      (.refuse before.length)
      (among poller (giveBack free) before rest poll (.ended none)) := by
  have step := @Step.refuse plan (among poller free before rest poll _) before.length _ count
    heartbeat left found_among rfl gone
  rwa [move_among] at step

theorem step_finish {count : Nat} :
    Step plan (among poller free before rest poll (.sending count [])) (.finish before.length)
      (among poller (giveBack free) before rest poll (.ended (some count))) := by
  have step := @Step.finish plan (among poller free before rest poll _) before.length _ count
    found_among rfl
  rwa [move_among] at step

/-- A poll sends what it has left, one heartbeat after the other. -/
theorem exists_run_send (left : List Heartbeat) (count : Nat)
    (receiving : poller.receiving = true) :
    ∃ trace, Run (Step plan) (among poller free before rest poll (.sending count left)) trace
        (among poller free before rest poll (.sending count [])) ∧
      (sent trace).map Prod.snd = left ∧ ticks trace = [] := by
  induction left with
  | nil => exact ⟨[], .start, rfl, rfl⟩
  | cons heartbeat left ih =>
      obtain ⟨trace, run, hsent, hticks⟩ := ih
      refine ⟨_, .cons (step_send receiving) run, ?_, ?_⟩
      · rw [← List.singleton_append, sent_append, List.map_append, hsent]
        rfl
      · rw [← List.singleton_append, ticks_append, hticks]
        rfl

/-- What a poll does with an answer. -/
def polled (plan : PollPlan) (receiving : Bool) (check : Check)
    (answer : Except CallError Fetched) : Polled :=
  Polled.ofAnswer check receiving (plan.heartbeatsOfAnswer check answer)

/-- A poll that gets one answer does all that the answer asks for. -/
theorem exists_run_poll (answer : Except CallError Fetched) (permit : free ≠ some 0) :
    ∃ trace, Run (Step plan) (among poller free before rest poll .waiting) trace
        (among poller free before rest poll
          (.ended (polled plan poller.receiving poll.check answer).count)) ∧
      (sent trace).map Prod.snd = (polled plan poller.receiving poll.check answer).sent ∧
      ticks trace = [] := by
  have asked : Step plan (among poller free before rest poll .waiting) _ _ := step_ask permit
  have answered : Step plan (among poller (lend free) before rest poll .asking) _ _ :=
    step_answer answer
  unfold polled
  cases good : plan.heartbeatsOfAnswer poll.check answer with
  | error failure =>
      have nothing : plan.stageAfter poll.check answer = .ended none := by
        rw [PollPlan.stageAfter, good]
      rw [nothing] at answered
      change Step plan _ _ (among poller (giveBack (lend free)) before rest poll _) at answered
      rw [giveBack_lend permit] at answered
      have run := (Run.single asked).snoc answered
      exact ⟨_, run, rfl, rfl⟩
  | ok heartbeats =>
      have sends : plan.stageAfter poll.check answer = .sending heartbeats.length heartbeats := by
        rw [PollPlan.stageAfter, good]
      have kept : ((lend free).map fun n => n + 1 - 1) = lend free := by
        cases free <;> rfl
      rw [sends, PollStage.permits, kept] at answered
      have begun := (Run.single asked).snoc answered
      cases receiving : poller.receiving with
      | true =>
          obtain ⟨trace, run, hsent, hticks⟩ :=
            exists_run_send heartbeats heartbeats.length receiving
          have finished : Step plan (among poller (lend free) before rest poll _) _ _ :=
            @step_finish _ _ _ _ _ _ heartbeats.length
          rw [giveBack_lend permit] at finished
          refine ⟨_, (begun.append run).snoc finished, ?_, ?_⟩
          · rw [sent_append, sent_append, List.map_append, List.map_append, hsent]
            exact List.append_nil heartbeats
          · rw [ticks_append, ticks_append, hticks]
            rfl
      | false =>
          obtain ⟨a, b, c, rfl⟩ := List.length_eq_three.mp (PollPlan.length_of_good good)
          have refused := begun.snoc (step_refuse receiving)
          rw [giveBack_lend permit] at refused
          exact ⟨_, refused, rfl, rfl⟩

/-- What a tick has done after one more poll. -/
def after (done : Ticked) (polled : Polled) (log : List Sent) : Ticked :=
  ⟨done.report.record polled.count, done.sent ++ polled.sent, done.notices ++ polled.notices, log⟩

theorem pollEach_cons (web : Web) (plan : PollPlan) (receiving : Bool) (check : Check)
    (checks : List Check) (done : Ticked) :
    pollEach web plan receiving (check :: checks) done =
      pollEach web plan receiving checks
        (after done
          (polled plan receiving check (Http.call web done.log (plan.request check)).1)
          (Http.call web done.log (plan.request check)).2) := by
  rw [pollEach, PollPlan.ask]
  generalize Http.call web done.log (plan.request check) = call
  rfl

/-- Polling one check after the other is a run. -/
theorem exists_run_pollEach (web : Web) (permit : free ≠ some 0) (rest before : List Poll)
    (waiting : ∀ poll ∈ rest, poll.stage = .waiting) (done : Ticked) :
    ∃ trace ended, Run (Step plan) ⟨poller, free, before ++ rest⟩ trace
        ⟨poller, free, before ++ ended⟩ ∧
      ended.map Poll.check = rest.map Poll.check ∧ ticks trace = [] ∧
      (pollEach web plan poller.receiving (rest.map Poll.check) done).sent =
        done.sent ++ (sent trace).map Prod.snd ∧
      (pollEach web plan poller.receiving (rest.map Poll.check) done).report =
        (ended.map fun poll => poll.stage.count).foldl TickReport.record done.report := by
  induction rest generalizing before done with
  | nil => exact ⟨[], [], .start, rfl, rfl, (List.append_nil _).symm, rfl⟩
  | cons poll rest ih =>
      obtain ⟨stage, later⟩ := List.forall_mem_cons.mp waiting
      have same : poll = { poll with stage := .waiting } := by rw [← stage]
      rw [List.map_cons, pollEach_cons]
      generalize Http.call web done.log (plan.request poll.check) = call
      generalize hpolled : polled plan poller.receiving poll.check call.1 = result
      obtain ⟨asking, first, hsent, hticks⟩ :=
        @exists_run_poll plan poller free before rest poll call.1 permit
      rw [hpolled] at first hsent
      obtain ⟨trace, ended, run, hchecks, hquiet, hmore, hreport⟩ :=
        ih (before ++ [{ poll with stage := .ended result.count }]) later
          (after done result call.2)
      rw [List.append_assoc, List.append_assoc, List.singleton_append, List.singleton_append] at run
      refine ⟨asking ++ trace, { poll with stage := .ended result.count } :: ended, ?_, ?_, ?_, ?_,
        hreport⟩
      · rw [same]
        exact first.append run
      · rw [List.map_cons, hchecks]
        rfl
      · rw [ticks_append, hticks, hquiet, List.append_nil]
      · rw [hmore, sent_append, List.map_append, hsent, ← List.append_assoc]
        rfl

/-- Polling the checks of a tick one after the other is a run of the polls, of which the report
tells. -/
theorem exists_run_pollAll (web : Web) (checks : List Check) (earlier : List Sent)
    (running : poller.running = true) (permit : free ≠ some 0) (before : List Poll) :
    ∃ trace ended, Run (Step plan) ⟨poller, free, before⟩ trace
        ⟨poller, free, before ++ ended⟩ ∧
      ended.map Poll.check = checks ∧ ticks trace = [checks] ∧
      (pollAll web plan poller.receiving checks earlier).sent = (sent trace).map Prod.snd ∧
      (pollAll web plan poller.receiving checks earlier).report =
        (ended.map fun poll => poll.stage.count).foldl TickReport.record .empty := by
  have ticked : Step plan ⟨poller, free, before⟩ (.tick checks)
      ⟨poller, free, before ++ Poll.spawn checks⟩ := .tick running checks
  obtain ⟨trace, ended, run, hchecks, hticks, hsent, hreport⟩ :=
    exists_run_pollEach web permit (Poll.spawn checks) before
      (fun _ => Poll.stage_of_mem_spawn) ⟨.empty, [], [], earlier⟩
  rw [Poll.map_check_spawn] at hchecks hsent hreport
  refine ⟨.tick checks :: trace, ended, .cons ticked run, hchecks, ?_, hsent, hreport⟩
  rw [← List.singleton_append, ticks_append, hticks]
  rfl

end Polls

end PulseBridge
