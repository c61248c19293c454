import PulseBridge.Proofs.Polls

/-!
# What the polls have done

Whatever the other polls do meanwhile, each poll asks once, about its own check, gets one answer,
and sends what that answer gave, in order, unless it panics on the way. The stage of a poll tells
how far it has come with this; the trace tells what it has done. The two always fit.
-/

namespace PulseBridge

open Http (CallError Fetched)

namespace Polls

variable {plan : PollPlan} {s t : Polls} {e : Event} {trace : List Event}
variable {poll : Poll} {stage : PollStage} {check : Check} {receiving : Bool} {j k : Nat}

/-- What one poll has done. -/
structure Past where
  asked : List Check
  answers : List (Check × Except CallError Fetched)
  sent : List Heartbeat
  /-- What it had left to send when it panicked. -/
  panics : List (List Heartbeat)

/-- What a poll has done at the beginning. -/
def Past.none : Past := ⟨[], [], [], []⟩

/-- What a trace tells of one poll. -/
def past (j : Nat) (trace : List Event) : Past :=
  ⟨about j (asked trace), about j (answered trace), about j (sent trace), about j (panicked trace)⟩

/-- The poll that acts. -/
def Event.poll? : Event → Option Nat
  | .ask j _ | .answer j .. | .send j _ | .refuse j | .finish j | .panic j _ => some j
  | .tick _ | .lose | .shutdown => none

theorem past_other (h : e.poll? ≠ some j) (trace : List Event) :
    past j (trace ++ [e]) = past j trace := by
  unfold past
  cases e with
  | ask k | answer k | send k | panic k =>
      have hk : k ≠ j := fun hk => h (congrArg some hk)
      simp [Event.asked?, Event.answered?, Event.sent?, Event.panicked?, about_other hk]
  | tick | refuse | finish | lose | shutdown =>
      simp [Event.asked?, Event.answered?, Event.sent?, Event.panicked?]

theorem past_ask (j : Nat) (check : Check) (trace : List Event) :
    past j (trace ++ [.ask j check]) =
      { past j trace with asked := (past j trace).asked ++ [check] } := by
  simp [past, Event.asked?, Event.answered?, Event.sent?, Event.panicked?]

theorem past_answer (j : Nat) (check : Check) (answer : Except CallError Fetched)
    (trace : List Event) :
    past j (trace ++ [.answer j check answer]) =
      { past j trace with answers := (past j trace).answers ++ [(check, answer)] } := by
  simp [past, Event.asked?, Event.answered?, Event.sent?, Event.panicked?]

theorem past_send (j : Nat) (heartbeat : Heartbeat) (trace : List Event) :
    past j (trace ++ [.send j heartbeat]) =
      { past j trace with sent := (past j trace).sent ++ [heartbeat] } := by
  simp [past, Event.asked?, Event.answered?, Event.sent?, Event.panicked?]

theorem past_refuse (j : Nat) (trace : List Event) :
    past j (trace ++ [.refuse j]) = past j trace := by
  simp [past, Event.asked?, Event.answered?, Event.sent?, Event.panicked?]

theorem past_finish (j : Nat) (trace : List Event) :
    past j (trace ++ [.finish j]) = past j trace := by
  simp [past, Event.asked?, Event.answered?, Event.sent?, Event.panicked?]

theorem past_panic (j : Nat) (left : List Heartbeat) (trace : List Event) :
    past j (trace ++ [.panic j left]) =
      { past j trace with panics := (past j trace).panics ++ [left] } := by
  simp [past, Event.asked?, Event.answered?, Event.sent?, Event.panicked?]

/-- How a stage and the past of a poll fit, for a poll of one check. -/
inductive Story (plan : PollPlan) (receiving : Bool) (check : Check) : PollStage → Past → Prop
  | waiting : Story plan receiving check .waiting .none
  | asking : Story plan receiving check .asking ⟨[check], [], [], []⟩
  /-- The answer gave nothing. -/
  | failed {answer} (nothing : plan.stageAfter check answer = .ended none) :
      Story plan receiving check (.ended none) ⟨[check], [(check, answer)], [], []⟩
  | sending {answer heartbeats sent left}
      (good : plan.heartbeatsOfAnswer check answer = .ok heartbeats)
      (parts : sent ++ left = heartbeats) :
      Story plan receiving check (.sending heartbeats.length left)
        ⟨[check], [(check, answer)], sent, []⟩
  | finished {answer heartbeats}
      (good : plan.heartbeatsOfAnswer check answer = .ok heartbeats) :
      Story plan receiving check (.ended (some heartbeats.length))
        ⟨[check], [(check, answer)], heartbeats, []⟩
  /-- Nobody took the heartbeats that were left. -/
  | refused {answer heartbeats sent heartbeat left}
      (good : plan.heartbeatsOfAnswer check answer = .ok heartbeats)
      (parts : sent ++ heartbeat :: left = heartbeats) (gone : receiving = false) :
      Story plan receiving check (.ended none) ⟨[check], [(check, answer)], sent, []⟩
  /-- Another story broke off with a panic. -/
  | panicked {stage past} (sofar : Story plan receiving check stage past)
      (going : stage.isEnded = false) :
      Story plan receiving check (.ended none) { past with panics := [stage.left] }

/-- An answer decides how a story goes on. -/
theorem story_stageAfter (answer : Except CallError Fetched) :
    Story plan receiving check (plan.stageAfter check answer)
      ⟨[check], [(check, answer)], [], []⟩ := by
  cases good : plan.heartbeatsOfAnswer check answer with
  | error failure =>
      have nothing : plan.stageAfter check answer = .ended none := by
        simp [PollPlan.stageAfter, good]
      rw [nothing]
      exact .failed nothing
  | ok heartbeats =>
      have sends : plan.stageAfter check answer = .sending heartbeats.length heartbeats := by
        simp [PollPlan.stageAfter, good]
      rw [sends]
      exact .sending good rfl

/-- A poll that has not ended has not panicked. -/
theorem Story.panics_eq {past : Past} (story : Story plan receiving check stage past)
    (going : stage.isEnded = false) : past.panics = [] := by
  cases story with
  | waiting | asking | sending => rfl
  | failed | finished | refused | panicked => cases going

/-- That nobody takes heartbeats any more changes no story. -/
theorem Story.lose {past : Past} (story : Story plan receiving check stage past) :
    Story plan false check stage past := by
  induction story with
  | waiting => exact .waiting
  | asking => exact .asking
  | failed nothing => exact .failed nothing
  | sending good parts => exact .sending good parts
  | finished good => exact .finished good
  | refused good parts _ => exact .refused good parts rfl
  | panicked _ going sofar => exact .panicked sofar going

/-- What the trace so far says of the polls. -/
structure Account (plan : PollPlan) (trace : List Event) (s : Polls) : Prop where
  story : ∀ j poll, s.polls[j]? = some poll →
    Story plan s.poller.receiving poll.check poll.stage (past j trace)
  /-- Of polls that are still to come the trace tells nothing. -/
  fresh : ∀ j, s.polls.length ≤ j → past j trace = .none

theorem account_start (limit : Option Nat) : Account plan [] (start limit) where
  story := by simp [start]
  fresh := fun _ _ => rfl

/-- A poll that acts goes on with its own story and leaves those of the others as they are. -/
theorem Account.move (h : Account plan trace s) (found : s.polls[j]? = some poll)
    (acts : e.poll? = some j)
    (story : Story plan s.poller.receiving poll.check stage (past j (trace ++ [e]))) :
    Account plan (trace ++ [e]) (s.move j poll stage) := by
  constructor
  · intro k other hk
    by_cases hsame : j = k
    · subst hsame
      cases (getElem?_move_self found stage).symm.trans hk
      exact story
    · rw [getElem?_move_other hsame] at hk
      rw [past_other (by simpa [acts] using hsame)]
      exact h.story k other hk
  · intro k hk
    rw [Polls.move, List.length_set] at hk
    have hj := (List.getElem?_eq_some_iff.mp found).1
    have hother : j ≠ k := by omega
    rw [past_other (by simpa [acts] using hother)]
    exact h.fresh k hk

/-- Every step keeps the account. -/
theorem Account.step (h : Account plan trace s) (step : Step plan s e t) :
    Account plan (trace ++ [e]) t := by
  cases step with
  | tick running snapshot =>
      constructor
      · intro j poll hj
        rw [past_other (by simp [Event.poll?])]
        rcases Nat.lt_or_ge j s.polls.length with old | new
        · rw [List.getElem?_append_left old] at hj
          exact h.story j poll hj
        · rw [List.getElem?_append_right new] at hj
          rw [Poll.stage_of_mem_spawn (List.mem_of_getElem? hj), h.fresh j new]
          exact .waiting
      · intro j hj
        rw [past_other (by simp [Event.poll?])]
        rw [List.length_append] at hj
        exact h.fresh j (Nat.le_of_add_right_le hj)
  | @ask j poll found stage permit =>
      have story := h.story j poll found
      apply h.move found rfl
      rw [past_ask]
      rw [stage] at story
      generalize past j trace = past at story ⊢
      cases story with
      | waiting => exact .asking
  | @answer j poll found stage answer =>
      have story := h.story j poll found
      apply h.move found rfl
      rw [past_answer]
      rw [stage] at story
      generalize past j trace = past at story ⊢
      cases story with
      | asking => exact story_stageAfter answer
  | @send j poll count heartbeat left found stage receiving =>
      have story := h.story j poll found
      apply h.move found rfl
      rw [past_send]
      rw [stage] at story
      generalize past j trace = past at story ⊢
      cases story with
      | sending good parts => exact .sending good (by simpa using parts)
  | @refuse j poll count heartbeat left found stage gone =>
      have story := h.story j poll found
      apply h.move found rfl
      rw [past_refuse]
      rw [stage] at story
      generalize past j trace = past at story ⊢
      cases story with
      | sending good parts => exact .refused good parts gone
  | @finish j poll count found stage =>
      have story := h.story j poll found
      apply h.move found rfl
      rw [past_finish]
      rw [stage] at story
      generalize past j trace = past at story ⊢
      cases story with
      | sending good parts =>
          rw [List.append_nil] at parts
          subst parts
          exact .finished good
  | @panic j poll found going =>
      have story := h.story j poll found
      apply h.move found rfl
      rw [past_panic, story.panics_eq going]
      exact .panicked story going
  | lose =>
      constructor
      · intro j poll found
        rw [past_other (by simp [Event.poll?])]
        exact (h.story j poll found).lose
      · intro j hj
        rw [past_other (by simp [Event.poll?])]
        exact h.fresh j hj
  | shutdown =>
      constructor
      · intro j poll found
        rw [past_other (by simp [Event.poll?])]
        exact h.story j poll found
      · intro j hj
        rw [past_other (by simp [Event.poll?])]
        exact h.fresh j hj

/-- The account is right after every run. -/
theorem account_of_run {limit : Option Nat} (run : Run (Step plan) (start limit) trace s) :
    Account plan trace s := by
  apply run.invariant (account_start limit)
  intro trace s e t _ h step
  exact h.step step

/-- A poll asks once, unless it still waits or has panicked while it waited. -/
theorem Story.asked_eq {past : Past} (story : Story plan receiving check stage past) :
    (stage = .waiting ∧ past.asked = []) ∨ (stage ≠ .waiting ∧ past.asked = [check]) ∨
      (stage = .ended none ∧ past.asked = [] ∧ [] ∈ past.panics) := by
  cases story with
  | waiting => exact .inl ⟨rfl, rfl⟩
  | asking | failed | sending | finished | refused => exact .inr (.inl ⟨nofun, rfl⟩)
  | panicked sofar going =>
      cases sofar with
      | waiting => exact .inr (.inr ⟨rfl, rfl, List.mem_singleton.mpr rfl⟩)
      | asking | sending => exact .inr (.inl ⟨nofun, rfl⟩)
      | failed | finished | refused | panicked => cases going

theorem mem_panicked {left : List Heartbeat} (h : left ∈ (past j trace).panics) :
    .panic j left ∈ trace := by
  obtain ⟨e, he, panics⟩ := List.mem_filterMap.mp (mem_about.mp h)
  cases e with
  | panic k rest =>
      cases panics
      exact he
  | tick | ask | answer | send | refuse | finish | lose | shutdown => cases panics

theorem Account.asked_eq (h : Account plan trace s) (found : s.polls[j]? = some poll) :
    (poll.stage = .waiting ∧ about j (asked trace) = []) ∨
      (poll.stage ≠ .waiting ∧ about j (asked trace) = [poll.check]) ∨
      (poll.stage = .ended none ∧ about j (asked trace) = [] ∧ .panic j [] ∈ trace) := by
  rcases (h.story j poll found).asked_eq with waits | asks | ⟨ended, nothing, panics⟩
  · exact .inl waits
  · exact .inr (.inl asks)
  · exact .inr (.inr ⟨ended, nothing, mem_panicked panics⟩)

/-- Every question is one of a poll about its check. -/
theorem Account.check_of_asked (h : Account plan trace s) (asks : (j, check) ∈ asked trace) :
    ∃ poll, s.polls[j]? = some poll ∧ poll.check = check := by
  have hmem := mem_about.mpr asks
  rcases Nat.lt_or_ge j s.polls.length with old | new
  · have found := List.getElem?_eq_getElem old
    refine ⟨_, found, ?_⟩
    rcases h.asked_eq found with ⟨_, hasked⟩ | ⟨_, hasked⟩ | ⟨_, hasked, _⟩
    · simp [hasked] at hmem
    · rw [hasked, List.mem_singleton] at hmem
      exact hmem.symm
    · simp [hasked] at hmem
  · have fresh := congrArg Past.asked (h.fresh j new)
    simp only [past, Past.none] at fresh
    simp [fresh] at hmem

/-- A poll keeps its check. -/
theorem map_check_move (found : s.polls[j]? = some poll) (stage : PollStage) :
    (s.move j poll stage).polls.map Poll.check = s.polls.map Poll.check := by
  obtain ⟨hj, rfl⟩ := List.getElem?_eq_some_iff.mp found
  have hmap : j < (s.polls.map Poll.check).length := by simpa using hj
  have same := List.set_getElem_self hmap
  rw [List.getElem_map] at same
  rw [move, List.map_set]
  exact same

/-- There is one poll for each place of the list of each tick, and none else. -/
theorem map_check_of_run {limit : Option Nat} (run : Run (Step plan) (start limit) trace s) :
    s.polls.map Poll.check = (ticks trace).flatten := by
  induction run with
  | start => rfl
  | snoc _ last ih =>
      rw [ticks_append, List.flatten_append, ← ih, ticks_singleton]
      cases last with
      | tick running snapshot => simp [Event.tick?, Poll.map_check_spawn]
      | ask found | answer found | send found | refuse found | finish found | panic found =>
          simp [Event.tick?, map_check_move found]
      | lose | shutdown => simp [Event.tick?]

end Polls

end PulseBridge
