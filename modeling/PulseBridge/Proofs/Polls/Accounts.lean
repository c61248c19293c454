import PulseBridge.Proofs.Polls.Permits
import PulseBridge.Proofs.Polls.Solo

/-!
# What a tick comes to

Where the answers of the provider depend on nothing but the request, a tick comes to what its checks
come to when each is polled alone, whatever other ticks do meanwhile, in whatever order the polls
act and however many may ask at once. If nobody takes heartbeats any more, each poll still sends a
part from the front of what it would have sent alone, and counts only if it has sent all.

## Main statements

* `accounts_of_tick`: the account of a tick among others.

## Implementation notes

A `TickRun` is a run in which a tick is marked. The polls of the tick are found by their numbers:
before them are as many polls as the earlier ticks have checks.
-/

namespace PulseBridge

open Http (Answer CallError Fetched Sent Web)

namespace Polls

/-! ## Stories that come to their end -/

section Story

variable {plan : PollPlan} {receiving : Bool} {check : Check} {stage : PollStage} {past : Past}
variable {answer : Except CallError Fetched}

/-- A poll gets answers about its own check only. -/
theorem Story.check_eq (story : Story plan receiving check stage past) {check' : Check}
    (h : (check', answer) ∈ past.answers) : check' = check := by
  rcases story.answers_eq with none | ⟨_, one⟩
  · rw [none] at h
    cases h
  · rw [one] at h
    exact (Prod.mk.inj (List.mem_singleton.mp h)).1

/-- A poll sends a part from the front of what its answer gives. -/
theorem Story.prefix_sent (story : Story plan receiving check stage past)
    (known : ∀ check' answer', (check', answer') ∈ past.answers → answer' = answer) :
    past.sent <+: plan.given check answer := by
  induction story with
  | waiting | asking | failed => exact List.nil_prefix
  | panicked _ _ ih => exact ih known
  | @sending given heartbeats sent left good parts =>
      cases known check _ (List.mem_singleton.mpr rfl)
      rw [PollPlan.given, PollPlan.left_stageAfter good, ← parts]
      exact List.prefix_append ..
  | @finished given heartbeats good =>
      cases known check _ (List.mem_singleton.mpr rfl)
      simp only [PollPlan.given, PollPlan.left_stageAfter good, List.prefix_rfl]
  | @refused given heartbeats sent heartbeat left good parts =>
      cases known check _ (List.mem_singleton.mpr rfl)
      rw [PollPlan.given, PollPlan.left_stageAfter good, ← parts]
      exact List.prefix_append ..

/-- A poll that has ended without a panic counts exactly if it has sent a heartbeat of each
metric. -/
theorem Story.count_eq (story : Story plan receiving check stage past)
    (ended : stage.isEnded = true) (calm : past.panics = []) :
    stage = .ended (countOf past.sent) := by
  cases story with
  | waiting | asking | sending => cases ended
  | failed => rfl
  | finished good =>
      have three := PollPlan.length_of_good good
      rw [countOf, if_pos three, three]
  | @refused given heartbeats sent heartbeat left good parts =>
      have whole := PollPlan.length_of_good good
      rw [← parts, List.length_append, List.length_cons] at whole
      have short : sent.length ≠ Metric.all.length := by omega
      rw [countOf, if_neg short]
  | panicked => cases calm

/-- While somebody takes heartbeats, a poll that does not panic ends only when it has sent what its
answer gives. -/
theorem Story.sent_eq (story : Story plan true check stage past) (ended : stage.isEnded = true)
    (calm : past.panics = [])
    (known : ∀ check' answer', (check', answer') ∈ past.answers → answer' = answer) :
    past.sent = plan.given check answer := by
  cases story with
  | waiting | asking | sending => cases ended
  | failed nothing =>
      cases known check _ (List.mem_singleton.mpr rfl)
      rw [PollPlan.given, nothing]
      rfl
  | @finished given heartbeats good =>
      cases known check _ (List.mem_singleton.mpr rfl)
      rw [PollPlan.given, PollPlan.left_stageAfter good]
  | refused _ _ gone => cases gone
  | panicked => cases calm

end Story

/-! ## Ticks among others -/

theorem about_eq_filter {A : Type} (j : Nat) (told : List (Nat × A)) :
    about j told = (told.filter fun (k, _) => k == j).map Prod.snd := by
  induction told with
  | nil => rfl
  | cons first rest ih =>
      obtain ⟨k, a⟩ := first
      rw [← List.singleton_append, about_append, ih, List.filter_append, List.map_append]
      by_cases hk : k = j
      · simp [hk]
      · simp [about_other hk, hk]

/-- What concerns a row of polls is what concerns each of them. -/
theorem among_perm {A : Type} (told : List (Nat × A)) (first n : Nat) :
    ((told.filter fun (j, _) => first ≤ j && j < first + n).map Prod.snd).Perm
      ((List.range n).map fun i => about (first + i) told).flatten := by
  induction n with
  | zero =>
      have nobody : (told.filter fun (j, _) => first ≤ j && j < first + 0) = [] := by
        rw [List.filter_eq_nil_iff]
        rintro ⟨j, _⟩ -
        simp
      rw [nobody]
      exact .refl _
  | succ n ih =>
      have parts := (List.filter_append_perm (fun (j, _) => j < first + n)
        (told.filter fun (j, _) => first ≤ j && j < first + (n + 1))).map Prod.snd
      have low : (told.filter fun (j, _) => first ≤ j && j < first + (n + 1)).filter
          (fun (j, _) => j < first + n) =
            told.filter fun (j, _) => first ≤ j && j < first + n := by
        rw [List.filter_filter]
        apply List.filter_congr
        rintro ⟨j, _⟩ -
        rw [Bool.eq_iff_iff]
        simp only [Bool.and_eq_true, decide_eq_true_eq]
        omega
      have last : (told.filter fun (j, _) => first ≤ j && j < first + (n + 1)).filter
          (fun (j, _) => !decide (j < first + n)) = told.filter fun (j, _) => j == first + n := by
        rw [List.filter_filter]
        apply List.filter_congr
        rintro ⟨j, _⟩ -
        rw [Bool.eq_iff_iff]
        simp only [Bool.and_eq_true, Bool.not_eq_true', decide_eq_true_eq, decide_eq_false_iff_not,
          beq_iff_eq]
        omega
      rw [List.map_append, low, last, ← about_eq_filter] at parts
      rw [List.range_succ, List.map_append, List.flatten_append, List.map_singleton,
        List.flatten_singleton]
      exact parts.symm.trans (ih.append_right _)

/-- A run in which a tick over some checks is marked. All answers are those of a provider whose
answers depend on nothing but the request, and no poll panics. -/
structure TickRun (plan : PollPlan) (reply : Sent → Answer) (checks : List Check) where
  limit : Option Nat
  before : List Event
  after : List Event
  state : Polls
  run : Run (Step plan) (start limit) (before ++ .tick checks :: after) state
  answers : ∀ j check answer,
    (j, check, answer) ∈ answered (before ++ .tick checks :: after) →
      ∃ earlier, answer = (Http.call (.steady reply) earlier (plan.request check)).1
  calm : panicked (before ++ .tick checks :: after) = []

namespace TickRun

variable {plan : PollPlan} {reply : Sent → Answer} {checks : List Check}
variable (tick : TickRun plan reply checks)

/-- All that happens. -/
def trace : List Event := tick.before ++ .tick checks :: tick.after

/-- The number of the tick's first poll. -/
def first : Nat := (ticks tick.before).flatten.length

/-- The polls of the tick, as far as they have come. -/
def polls : List Poll := (tick.state.polls.drop tick.first).take checks.length

/-- What the channel took from the poll at some place of the list. -/
def taken (i : Nat) : List Heartbeat := about (tick.first + i) (sent tick.trace)

/-- What the channel took from all polls of the tick, in the order in which it took them. -/
def heartbeats : List Heartbeat :=
  ((sent tick.trace).filter fun (j, _) =>
    tick.first ≤ j && j < tick.first + checks.length).map Prod.snd

/-- Whether all polls of the tick have ended. -/
def IsOver : Prop := ∀ poll ∈ tick.polls, poll.stage.isEnded = true

/-- The report on the tick. -/
def report : TickReport :=
  (tick.polls.map fun poll => poll.stage.count).foldl TickReport.record .empty

/-- Every poll is about the check at its place. -/
theorem map_check : tick.polls.map Poll.check = checks := by
  have whole := map_check_of_run tick.run
  rw [ticks_append, List.flatten_append] at whole
  rw [polls, List.map_take, List.map_drop, whole, first, List.drop_left]
  simp [ticks, Event.tick?]

theorem length_polls : tick.polls.length = checks.length := by
  rw [← List.length_map Poll.check, tick.map_check]

variable {tick} in
/-- What is known of the poll at a place. -/
theorem found {i : Nat} (hi : i < checks.length) :
    ∃ poll, tick.polls[i]? = some poll ∧ tick.state.polls[tick.first + i]? = some poll ∧
      poll.check = checks[i] := by
  have hpolls : i < tick.polls.length := by rwa [tick.length_polls]
  have same : tick.polls[i]? = tick.state.polls[tick.first + i]? := by
    rw [polls, List.getElem?_take_of_lt hi, List.getElem?_drop]
  refine ⟨tick.polls[i], List.getElem?_eq_getElem hpolls, ?_, ?_⟩
  · rw [← same, List.getElem?_eq_getElem hpolls]
  · have hcheck := congrArg (·[i]?) tick.map_check
    simpa [List.getElem?_eq_getElem hpolls, List.getElem?_eq_getElem hi] using hcheck

variable {tick} in
/-- All answers to a poll are the one answer of the provider about its check. -/
theorem known {j : Nat} {poll : Poll} (found : tick.state.polls[j]? = some poll) (check : Check)
    (answer : Except CallError Fetched)
    (answered : (check, answer) ∈ (past j tick.trace).answers) :
    answer = providerAnswer reply plan poll.check := by
  have hmem := mem_about.mp answered
  obtain ⟨earlier, hanswer⟩ := tick.answers j check answer hmem
  have same := ((account_of_run tick.run).story j poll found).check_eq answered
  rw [hanswer, same, call_request reply plan (Web.fetchesAre_steady reply []) List.nil_prefix]

variable {tick} in
theorem panics_eq (j : Nat) : (past j tick.trace).panics = [] := by
  rw [past, trace, tick.calm, about_nil]

variable {tick} in
/-- The channel takes from a poll a part from the front of what its check gives alone. -/
theorem prefix_taken {i : Nat} (hi : i < checks.length) :
    tick.taken i <+: (solo reply plan checks[i]).sent := by
  obtain ⟨poll, -, found, hcheck⟩ := tick.found hi
  rw [(solo_eq reply plan checks[i]).1, ← hcheck]
  exact ((account_of_run tick.run).story _ poll found).prefix_sent (known found)

variable {tick} in
/-- A poll of the tick that has ended counts exactly if the channel took all three heartbeats. -/
theorem stage_eq (isOver : tick.IsOver) {i : Nat} {poll : Poll}
    (hpoll : tick.polls[i]? = some poll) :
    poll.stage = .ended (countOf (tick.taken i)) := by
  have hi : i < checks.length := by
    rw [← tick.length_polls]
    exact (List.getElem?_eq_some_iff.mp hpoll).1
  obtain ⟨_, hsame, found, -⟩ := tick.found hi
  cases hsame.symm.trans hpoll
  have story := (account_of_run tick.run).story _ poll found
  exact story.count_eq (isOver poll (List.mem_of_getElem? hpoll)) (panics_eq _)

variable {tick} in
/-- While somebody takes heartbeats, the channel takes from each poll what its check gives alone. -/
theorem taken_eq (isOver : tick.IsOver) (receiving : tick.state.poller.receiving = true) {i : Nat}
    (hi : i < checks.length) : tick.taken i = (solo reply plan checks[i]).sent := by
  obtain ⟨poll, hpoll, found, hcheck⟩ := tick.found hi
  have story := (account_of_run tick.run).story _ poll found
  rw [receiving] at story
  rw [(solo_eq reply plan checks[i]).1, ← hcheck]
  exact story.sent_eq (isOver poll (List.mem_of_getElem? hpoll)) (panics_eq _) (known found)

/-- What the channel took from each of the polls, in the order of the checks. -/
def takes : List (List Heartbeat) := (List.range checks.length).map tick.taken

theorem report_eq (isOver : tick.IsOver) :
    tick.report = ⟨checks.length, tick.takes.countP fun taken => (countOf taken).isSome,
      Metric.all.length * tick.takes.countP fun taken => (countOf taken).isSome⟩ := by
  have counts : tick.polls.map (fun poll => poll.stage.count) = tick.takes.map countOf := by
    apply List.ext_getElem?
    intro i
    rcases Nat.lt_or_ge i checks.length with hi | hi
    · obtain ⟨poll, hpoll, -⟩ := tick.found hi
      have hstage := stage_eq isOver hpoll
      simp [hpoll, hstage, takes, hi, PollStage.count]
    · have hnone : tick.polls[i]? = none := List.getElem?_eq_none (by rwa [tick.length_polls])
      simp [hnone, takes, hi]
  rw [report, counts, TickReport.foldl_record (n := Metric.all.length)]
  · simp [TickReport.empty, takes, List.countP_map, Function.comp_def]
  · intro count hcount
    obtain ⟨taken, -, rfl⟩ := List.mem_map.mp hcount
    exact countOf_cases taken

variable {tick} in
theorem takes_eq (isOver : tick.IsOver) (receiving : tick.state.poller.receiving = true) :
    tick.takes = checks.map fun check => (solo reply plan check).sent := by
  apply List.ext_getElem
  · simp [takes]
  · intro i _ hi
    rw [List.length_map] at hi
    simp [takes, taken_eq isOver receiving hi]

/-- What the channel took from the tick is what it took from each of the polls. -/
theorem heartbeats_perm : tick.heartbeats.Perm tick.takes.flatten :=
  among_perm (sent tick.trace) tick.first checks.length

variable {tick} in
/-- While somebody takes heartbeats, the tick comes to what its checks come to alone. -/
theorem of_receiving (isOver : tick.IsOver) (receiving : tick.state.poller.receiving = true) :
    tick.report = ⟨checks.length,
        checks.countP fun check => (solo reply plan check).report.succeeded == 1,
        Metric.all.length *
          checks.countP fun check => (solo reply plan check).report.succeeded == 1⟩ ∧
      tick.heartbeats.Perm (checks.flatMap fun check => (solo reply plan check).sent) := by
  have counted : tick.takes.countP (fun taken => (countOf taken).isSome) =
      checks.countP fun check => (solo reply plan check).report.succeeded == 1 := by
    rw [takes_eq isOver receiving, List.countP_map]
    apply List.countP_congr
    intro check _
    rw [succeeded_solo, Function.comp_apply]
  have whole := tick.heartbeats_perm
  rw [takes_eq isOver receiving, ← List.flatMap_def] at whole
  exact ⟨by rw [tick.report_eq isOver, counted], whole⟩

/-- A tick can always come to its end, without anything else happening meanwhile. -/
theorem exists_over (allowed : tick.limit ≠ some 0) :
    ∃ (later : TickRun plan reply checks) (more : List Event),
      later.limit = tick.limit ∧ later.before = tick.before ∧ later.after = tick.after ++ more ∧
        later.IsOver ∧ later.state.poller = tick.state.poller := by
  obtain ⟨more, state, run, -, ended, hpoller, calm, given⟩ :=
    exists_run_ended plan (providerAnswer reply plan) (permits_of_run tick.run) allowed
  have whole := tick.run.append run
  rw [List.append_assoc, List.cons_append] at whole
  refine ⟨⟨tick.limit, tick.before, tick.after ++ more, state, whole, ?_, ?_⟩, more, rfl, rfl, rfl,
    ?_, hpoller⟩
  · intro j check answer hmem
    rw [← List.cons_append, ← List.append_assoc, answered_append, List.mem_append] at hmem
    rcases hmem with early | late
    · exact tick.answers j check answer early
    · exact ⟨[], given j check answer late⟩
  · rw [← List.cons_append, ← List.append_assoc, panicked_append, tick.calm, calm, List.append_nil]
  · intro poll hmem
    exact ended poll (List.mem_of_mem_drop (List.mem_of_mem_take hmem))

/-- A tick that has only begun. -/
def begun (plan : PollPlan) (reply : Sent → Answer) (checks : List Check) (limit : Option Nat) :
    TickRun plan reply checks where
  limit := limit
  before := []
  after := []
  state := ⟨.start, limit, [] ++ Poll.spawn checks⟩
  run := .single (.tick rfl checks)
  answers := by simp [answered, Event.answered?]
  calm := rfl

end TickRun

/-- What a tick comes to, of a provider whose answers depend on nothing but the request. There is
such a tick under every limit that lets anybody ask. From each poll the channel takes a part from
the front of what its check gives alone, and the poll counts exactly if all was taken; the report
tells how many checks there are and how many polls count. A check gives alone what the provider's
answer about it gives, and succeeds if that is anything. While somebody takes heartbeats, those are
the checks that succeed alone, and what is taken is what they give alone; so another schedule and
another limit make no difference, polling the checks one after the other comes to the same, and the
tick over two lists comes to what the ticks over each of them come to. -/
theorem accounts_of_tick (plan : PollPlan) (reply : Sent → Answer) (checks : List Check) :
    (∀ limit, limit ≠ some 0 → ∃ tick : TickRun plan reply checks,
      tick.limit = limit ∧ tick.IsOver ∧ tick.state.poller.receiving = true) ∧
    ∀ tick : TickRun plan reply checks,
      tick.polls.map Poll.check = checks ∧
      (∀ i (hi : i < checks.length),
        tick.taken i <+: (solo reply plan checks[i]).sent) ∧
      (∀ check ∈ checks,
        ((solo reply plan check).report.succeeded = 1 ↔
          ∃ heartbeats, plan.Gives check (providerAnswer reply plan check) heartbeats) ∧
        (∀ heartbeats, plan.Gives check (providerAnswer reply plan check) heartbeats →
          (solo reply plan check).sent = heartbeats) ∧
        ((∀ heartbeats, ¬ plan.Gives check (providerAnswer reply plan check) heartbeats) →
          (solo reply plan check).sent = [])) ∧
      (tick.limit ≠ some 0 → ∃ (later : TickRun plan reply checks) (more : List Event),
        later.limit = tick.limit ∧ later.before = tick.before ∧ later.after = tick.after ++ more ∧
          later.IsOver ∧ later.state.poller = tick.state.poller) ∧
      (∀ more state, Run (Step plan) tick.state more state →
        (∀ e ∈ more, e.poll?.isSome = true) → more.length ≤ tick.state.work) ∧
      (tick.IsOver →
        (∀ i (poll : Poll), tick.polls[i]? = some poll →
          poll.stage = .ended (if (tick.taken i).length = 3 then some 3 else none)) ∧
        ∃ succeeded, succeeded = (List.range checks.length).countP
            (fun i => (tick.taken i).length = 3) ∧
          tick.report = ⟨checks.length, succeeded, 3 * succeeded⟩) ∧
      (tick.IsOver → tick.state.poller.receiving = true →
        tick.report.succeeded =
          checks.countP (fun check => (solo reply plan check).report.succeeded == 1) ∧
        tick.heartbeats.Perm (checks.flatMap fun check => (solo reply plan check).sent) ∧
        (∀ earlier,
          tick.report = (pollAll (.steady reply) plan true checks earlier).report ∧
          tick.heartbeats.Perm (pollAll (.steady reply) plan true checks earlier).sent) ∧
        (∀ again : TickRun plan reply checks,
          again.IsOver → again.state.poller.receiving = true →
            again.report = tick.report ∧ again.heartbeats.Perm tick.heartbeats) ∧
        ∀ (more : List Check) (other : TickRun plan reply more)
          (both : TickRun plan reply (checks ++ more)),
          other.IsOver → other.state.poller.receiving = true →
          both.IsOver → both.state.poller.receiving = true →
            both.report = ⟨tick.report.polled + other.report.polled,
              tick.report.succeeded + other.report.succeeded,
              tick.report.heartbeats + other.report.heartbeats⟩ ∧
            both.heartbeats.Perm (tick.heartbeats ++ other.heartbeats)) := by
  refine ⟨?_, fun tick => ⟨tick.map_check, fun i hi => TickRun.prefix_taken hi,
    fun check _ => gives_iff_succeeded reply plan check, tick.exists_over, ?_, ?_, ?_⟩⟩
  · intro limit allowed
    obtain ⟨later, _, hlimit, -, -, isOver, hpoller⟩ :=
      (TickRun.begun plan reply checks limit).exists_over allowed
    exact ⟨later, hlimit, isOver, by rw [hpoller]; rfl⟩
  · intro more state run acts
    exact Nat.le_of_add_right_le (length_le_work run acts)
  · intro isOver
    refine ⟨fun i poll hpoll => TickRun.stage_eq isOver hpoll, _, rfl, ?_⟩
    rw [tick.report_eq isOver, TickRun.takes, List.countP_map]
    have same : ∀ taken : List Heartbeat,
        (countOf taken).isSome = decide (taken.length = Metric.all.length) := by
      intro taken
      unfold countOf
      split <;> simp [*]
    simp only [Function.comp_def, same]
    rfl
  · intro isOver receiving
    obtain ⟨hreport, hheartbeats⟩ := TickRun.of_receiving isOver receiving
    refine ⟨by rw [hreport], hheartbeats, ?_, ?_, ?_⟩
    · intro earlier
      obtain ⟨hsent, hsame⟩ := pollAll_steady reply plan checks earlier
      exact ⟨by rw [hreport, hsame], by rw [hsent]; exact hheartbeats⟩
    · intro again isOver' receiving'
      obtain ⟨hreport', hheartbeats'⟩ := TickRun.of_receiving isOver' receiving'
      exact ⟨by rw [hreport, hreport'], hheartbeats'.trans hheartbeats.symm⟩
    · intro more other both overOther receivingOther overBoth receivingBoth
      obtain ⟨hreportOther, hheartbeatsOther⟩ := TickRun.of_receiving overOther receivingOther
      obtain ⟨hreportBoth, hheartbeatsBoth⟩ := TickRun.of_receiving overBoth receivingBoth
      constructor
      · rw [hreport, hreportOther, hreportBoth, List.length_append, List.countP_append,
          Nat.mul_add]
      · rw [List.flatMap_append] at hheartbeatsBoth
        exact hheartbeatsBoth.trans (hheartbeats.append hheartbeatsOther).symm

end Polls

end PulseBridge
