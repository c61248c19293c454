import Mathlib.Data.List.Perm.Basic
import PulseBridge.Proofs.Polls.Stories
import PulseBridge.Proofs.Readings.Told

/-!
# The heartbeats of the polls

As long as somebody takes heartbeats from the channel, every heartbeat that an answer gave has been
sent or is still to be sent by the poll that got the answer, unless that poll panicked, and each
poll sends its own in order: response time, throughput, error rate.
-/

namespace PulseBridge

open Http (CallError Fetched)

namespace PollPlan

variable {plan : PollPlan} {check : Check} {answer : Except CallError Fetched}
variable {heartbeats : List Heartbeat}

theorem left_stageAfter (good : plan.heartbeatsOfAnswer check answer = .ok heartbeats) :
    (plan.stageAfter check answer).left = heartbeats := by
  simp [stageAfter, good]

/-- A good answer gives one heartbeat of each metric. -/
theorem length_of_good (good : plan.heartbeatsOfAnswer check answer = .ok heartbeats) :
    heartbeats.length = Metric.all.length := by
  obtain ⟨fetched, reading, name, -, -, -, -, -, rfl⟩ := heartbeatsOfAnswer_eq_ok_iff.mp good
  rfl

end PollPlan

namespace Polls

variable {plan : PollPlan} {s t : Polls} {e : Event} {trace : List Event} {limit : Option Nat}
variable {poll : Poll} {stage : PollStage} {check : Check} {receiving : Bool} {j : Nat}

/-! ## One poll -/

/-- The heartbeats that the answers to one poll gave. -/
theorem about_built (j : Nat) (plan : PollPlan) (trace : List Event) :
    about j (built plan trace) = (about j (answered trace)).flatMap fun (check, answer) =>
      (plan.stageAfter check answer).left := by
  unfold built
  induction answered trace with
  | nil => rfl
  | cons first rest ih =>
      obtain ⟨k, check, answer⟩ := first
      rw [List.flatMap_cons, about_append, ih, ← List.singleton_append, about_append]
      by_cases hk : k = j
      · subst hk
        simp [about, List.filterMap_map]
      · rw [about_other hk]
        simp [about, hk]

/-- What a poll has sent, what it has left and what it had left when it panicked is what it was
given. -/
theorem Story.sent_append_left {past : Past} (story : Story plan true check stage past) :
    past.sent ++ stage.left ++ past.panics.flatten =
      past.answers.flatMap fun (check, answer) => (plan.stageAfter check answer).left := by
  induction story with
  | waiting | asking => rfl
  | failed nothing => simp [nothing]
  | sending good parts => simpa [PollPlan.left_stageAfter good] using parts
  | finished good => simp [PollPlan.left_stageAfter good]
  | refused _ _ gone => simp at gone
  | panicked sofar going ih => simpa [sofar.panics_eq going] using ih

/-- A poll gets no answer, or one, which is about its check. -/
theorem Story.answers_eq {past : Past} (story : Story plan receiving check stage past) :
    past.answers = [] ∨ ∃ answer, past.answers = [(check, answer)] := by
  induction story with
  | waiting | asking => exact .inl rfl
  | failed | sending | finished | refused => exact .inr ⟨_, rfl⟩
  | panicked _ _ ih => exact ih

/-- While somebody takes heartbeats, a poll that does not panic with something left has sent or has
left what it was given. -/
theorem Account.sent_append_left (h : Account plan trace s)
    (receiving : s.poller.receiving = true) (found : s.polls[j]? = some poll)
    (nothing : (about j (panicked trace)).flatten = []) :
    about j (sent trace) ++ poll.stage.left = about j (built plan trace) := by
  have story := h.story j poll found
  rw [receiving] at story
  have whole := story.sent_append_left
  simp only [past, nothing, List.append_nil] at whole
  rw [about_built]
  exact whole

/-- A poll is given what an answer about its check gives, and nothing if it got no answer or one
that gives nothing. -/
theorem Account.built_eq (h : Account plan trace s) (found : s.polls[j]? = some poll) :
    (∀ answer heartbeats, (j, poll.check, answer) ∈ answered trace →
        plan.Gives poll.check answer heartbeats → about j (built plan trace) = heartbeats) ∧
      (about j (built plan trace) = [] ∨ ∃ answer, (j, poll.check, answer) ∈ answered trace ∧
        plan.Gives poll.check answer (about j (built plan trace))) := by
  simp only [about_built, ← mem_about, ← PollPlan.heartbeatsOfAnswer_eq_ok_iff]
  rcases (h.story j poll found).answers_eq with none | ⟨answer, one⟩
  · have nothing : about j (answered trace) = [] := none
    rw [nothing]
    exact ⟨fun _ _ mem => absurd mem List.not_mem_nil, .inl rfl⟩
  · have alone : about j (answered trace) = [(poll.check, answer)] := one
    rw [alone, List.flatMap_singleton]
    constructor
    · intro answer' heartbeats mem good
      cases List.mem_singleton.mp mem
      exact PollPlan.left_stageAfter good
    · cases good : plan.heartbeatsOfAnswer poll.check answer with
      | error failure =>
          left
          simp [PollPlan.stageAfter, good]
      | ok heartbeats =>
          right
          refine ⟨answer, List.mem_singleton_self _, ?_⟩
          rw [good, PollPlan.left_stageAfter good]

/-! ## All polls -/

/-- A poll that goes on changes what is to be sent by its own share. -/
theorem unsent_move (found : s.polls[j]? = some poll) (stage : PollStage) :
    ((s.move j poll stage).unsent ++ poll.stage.left).Perm (s.unsent ++ stage.left) := by
  obtain ⟨hj, rfl⟩ := List.getElem?_eq_some_iff.mp found
  have after := (List.set_perm_cons_eraseIdx hj { s.polls[j] with stage }).flatMap_right
    fun poll => poll.stage.left
  have before := (List.getElem_cons_eraseIdx_perm hj).flatMap_right fun poll => poll.stage.left
  rw [List.flatMap_cons] at after before
  calc
    ((s.move j s.polls[j] stage).unsent ++ s.polls[j].stage.left).Perm
        (stage.left ++ (s.polls.eraseIdx j).flatMap (fun poll => poll.stage.left) ++
          s.polls[j].stage.left) := after.append_right _
    List.Perm _ (stage.left ++ (s.polls[j].stage.left ++
          (s.polls.eraseIdx j).flatMap fun poll => poll.stage.left)) := by
      rw [List.append_assoc]
      exact List.perm_append_comm.append_left _
    List.Perm _ (stage.left ++ s.unsent) := before.append_left _
    List.Perm _ (s.unsent ++ stage.left) := List.perm_append_comm

theorem unsent_spawn (snapshot : List Check) :
    ((Poll.spawn snapshot).flatMap fun poll => poll.stage.left) = [] := by
  simp [Poll.spawn]

/-- The heartbeats that polls had left when they panicked. -/
def abandoned (trace : List Event) : List Heartbeat := (panicked trace).flatMap Prod.snd

@[simp] theorem abandoned_append (before after : List Event) :
    abandoned (before ++ after) = abandoned before ++ abandoned after := by
  simp [abandoned]

/-- A step that leaves somebody to take heartbeats has found somebody, and nobody gives up. -/
theorem Step.found_receiving (step : Step plan s e t) (receiving : t.poller.receiving = true) :
    s.poller.receiving = true ∧ ∀ j, e ≠ .refuse j := by
  cases step with
  | tick | ask | answer | send | finish | panic | shutdown => exact ⟨receiving, by simp⟩
  | lose => simp at receiving
  | refuse _ _ gone =>
      rw [move, gone] at receiving
      simp at receiving

/-- No step loses a heartbeat or makes one but by an answer. -/
theorem Step.conserves (step : Step plan s e t) (kept : ∀ j, e ≠ .refuse j) :
    ((sent [e]).map Prod.snd ++ (t.unsent ++ abandoned [e])).Perm
      (s.unsent ++ (built plan [e]).map Prod.snd) := by
  cases step with
  | tick running snapshot =>
      simp [Event.sent?, built, Event.answered?, abandoned, Event.panicked?, unsent, unsent_spawn]
  | ask found stage =>
      have moved := unsent_move found .asking
      simpa [Event.sent?, built, Event.answered?, abandoned, Event.panicked?, stage] using moved
  | @answer j poll found stage answer =>
      have moved := unsent_move found (plan.stageAfter poll.check answer)
      simpa [Event.sent?, built, Event.answered?, abandoned, Event.panicked?, stage,
        PollStage.left, Function.comp_def] using moved
  | @send j poll count heartbeat left found stage =>
      have moved := unsent_move found (.sending count left)
      rw [stage] at moved
      simp only [PollStage.left_sending] at moved
      have shared : (heartbeat :: (s.move j poll (.sending count left)).unsent ++ left).Perm
          (s.unsent ++ left) :=
        List.perm_middle.symm.trans moved
      simpa [Event.sent?, built, Event.answered?, abandoned, Event.panicked?]
        using (List.perm_append_right_iff left).mp shared
  | refuse => exact absurd rfl (kept _)
  | @finish j poll count found stage =>
      have moved := unsent_move found (.ended (some count))
      simpa [Event.sent?, built, Event.answered?, abandoned, Event.panicked?, stage] using moved
  | @panic j poll found going =>
      have moved := unsent_move found (.ended none)
      simpa [Event.sent?, built, Event.answered?, abandoned, Event.panicked?] using moved
  | lose | shutdown =>
      simp [Event.sent?, built, Event.answered?, abandoned, Event.panicked?, unsent]

/-- While somebody takes heartbeats, all that the answers gave has been sent, is still to be sent,
or was left by a poll that panicked. -/
theorem conserved_of_run (run : Run (Step plan) (start limit) trace s)
    (receiving : s.poller.receiving = true) :
    ((built plan trace).map Prod.snd).Perm
      ((sent trace).map Prod.snd ++ (s.unsent ++ abandoned trace)) := by
  induction run with
  | start => exact .refl _
  | @snoc trace t e u run last ih =>
      obtain ⟨receiving, kept⟩ := last.found_receiving receiving
      have earlier := ih receiving
      have one := last.conserves kept
      rw [built_append, sent_append, abandoned_append, List.map_append, List.map_append]
      generalize (sent trace).map Prod.snd = before at earlier ⊢
      generalize (sent [e]).map Prod.snd = now at one ⊢
      generalize (built plan [e]).map Prod.snd = more at one ⊢
      calc
        ((built plan trace).map Prod.snd ++ more).Perm
            (before ++ (t.unsent ++ abandoned trace) ++ more) := earlier.append_right _
        List.Perm _ (before ++ (t.unsent ++ more) ++ abandoned trace) := by
          simp only [List.append_assoc]
          exact (List.perm_append_comm.append_left _).append_left _
        List.Perm _ (before ++ (now ++ (u.unsent ++ abandoned [e])) ++ abandoned trace) :=
          (one.symm.append_left _).append_right _
        List.Perm _ (before ++ now ++ (u.unsent ++ (abandoned trace ++ abandoned [e]))) := by
          simp only [List.append_assoc]
          exact ((List.perm_append_comm.append_left _).append_left _).append_left _

end Polls

end PulseBridge
