import Mathlib.Algebra.Ring.Nat
import PulseBridge.Proofs.Polls.Heartbeats

/-!
# Permits and progress

Where there is a limit, the permits that are free and those that the polls hold are together as many
as there are. So a poll that waits in vain waits for one that can go on, and as every poll has only
so many steps before it, the polls come to their end in whatever order they act.
-/

namespace PulseBridge

open Http (CallError Fetched)

/-- How many steps a poll may still take. -/
def PollStage.work : PollStage → Nat
  | .waiting => Metric.all.length + 3
  | .asking => Metric.all.length + 2
  | .sending _ left => left.length + 1
  | .ended _ => 0

/-- A poll that has not ended has something to do. -/
theorem PollStage.work_pos {stage : PollStage} (going : stage.isEnded = false) :
    0 < stage.work := by
  cases stage with
  | waiting | asking | sending => exact Nat.succ_pos _
  | ended => cases going

/-- An answer leaves a poll with less to do than before. -/
theorem PollPlan.work_stageAfter (plan : PollPlan) (check : Check)
    (answer : Except CallError Fetched) :
    (plan.stageAfter check answer).work < PollStage.asking.work := by
  cases good : plan.heartbeatsOfAnswer check answer with
  | error failure =>
      rw [stageAfter, good]
      exact Nat.succ_pos _
  | ok heartbeats =>
      rw [stageAfter, good]
      exact Nat.succ_lt_succ (length_of_good good ▸ Nat.lt_succ_self _)

/-- A poll holds one permit at most. -/
theorem PollStage.permits_le_one (stage : PollStage) : stage.permits ≤ 1 := by
  cases stage <;> simp [permits]

namespace Polls

variable {plan : PollPlan} {s t : Polls} {e : Event} {trace : List Event} {limit : Option Nat}
variable {poll : Poll} {stage : PollStage} {j : Nat}

/-- The sum of a figure of the stages over all polls. -/
def total (figure : PollStage → Nat) (s : Polls) : Nat :=
  (s.polls.map fun poll => figure poll.stage).sum

/-- A poll that goes on changes a sum by its own share. -/
theorem total_move (figure : PollStage → Nat) (found : s.polls[j]? = some poll)
    (stage : PollStage) :
    total figure (s.move j poll stage) + figure poll.stage = total figure s + figure stage := by
  obtain ⟨hj, rfl⟩ := List.getElem?_eq_some_iff.mp found
  have before := ((List.getElem_cons_eraseIdx_perm hj).map fun poll => figure poll.stage).sum_nat
  have after := ((List.set_perm_cons_eraseIdx hj { s.polls[j] with stage }).map
    fun poll => figure poll.stage).sum_nat
  simp only [List.map_cons, List.sum_cons] at before after
  unfold total
  rw [move, after, ← before]
  omega

theorem total_append (figure : PollStage → Nat) (s : Polls) (polls : List Poll) :
    total figure { s with polls := s.polls ++ polls } =
      total figure s + (polls.map fun poll => figure poll.stage).sum := by
  simp [total]

/-! ## Permits -/

/-- How many permits the polls hold. -/
def held (s : Polls) : Nat := total PollStage.permits s

/-- A poll that goes on takes a permit or gives it back. -/
theorem permits_move (found : s.polls[j]? = some poll)
    (enough : ∀ n, s.free = some n → stage.permits ≤ n + poll.stage.permits) :
    ((s.move j poll stage).free.map (· + (s.move j poll stage).held)) =
      s.free.map (· + s.held) := by
  have moved := total_move PollStage.permits found stage
  have hfree : (s.move j poll stage).free =
      s.free.map fun n => n + poll.stage.permits - stage.permits := rfl
  rw [hfree]
  cases free : s.free with
  | none => rfl
  | some n =>
      have hn := enough n free
      simp only [Option.map_some, held, Option.some.injEq]
      omega

theorem Step.permits (step : Step plan s e t) :
    t.free.map (· + t.held) = s.free.map (· + s.held) := by
  cases step with
  | tick running snapshot =>
      have none : ((Poll.spawn snapshot).map fun poll => poll.stage.permits).sum = 0 := by
        simp [Poll.spawn, Function.comp_def, PollStage.permits]
      simp [held, total_append, none]
  | @ask j poll found stage permit =>
      apply permits_move found
      intro n free
      have hn : n ≠ 0 := fun h => permit (by rw [free, h])
      rw [stage]
      simp only [PollStage.permits]
      omega
  | @answer j poll found stage answer =>
      apply permits_move found
      intro n _
      rw [stage]
      exact Nat.le_trans (PollStage.permits_le_one _) (Nat.le_add_left 1 n)
  | send found stage | refuse found stage | finish found stage =>
      apply permits_move found
      intro n _
      simp [stage, PollStage.permits]
  | panic found =>
      apply permits_move found
      intro n _
      exact Nat.zero_le _
  | lose | shutdown => rfl

/-- The permits that are free and those that are held are as many as there are. -/
theorem permits_of_run (run : Run (Step plan) (start limit) trace s) :
    s.free.map (· + s.held) = limit := by
  induction run with
  | start => cases limit <;> simp [start, held, total]
  | snoc _ last ih => rw [last.permits, ih]

/-! ## Progress -/

/-- How many steps the polls may still take. -/
def work (s : Polls) : Nat := total PollStage.work s

/-- Every step of a poll leaves less to do. -/
theorem Step.work_lt (step : Step plan s e t) (acts : e.poll?.isSome = true) :
    t.work < s.work := by
  have less : ∀ {j poll stage}, s.polls[j]? = some poll → stage.work < poll.stage.work →
      (s.move j poll stage).work < s.work := by
    intro j poll stage found hless
    have moved := total_move PollStage.work found stage
    unfold work
    omega
  cases step with
  | tick | lose | shutdown => cases acts
  | ask found stage =>
      apply less found
      rw [stage]
      exact Nat.lt_succ_self _
  | answer found stage answer =>
      apply less found
      rw [stage]
      exact plan.work_stageAfter _ answer
  | send found stage | refuse found stage | finish found stage =>
      apply less found
      rw [stage]
      simp [PollStage.work]
  | panic found going => exact less found (PollStage.work_pos going)

/-- Polls alone do not go on for ever. -/
theorem length_le_work (run : Run (Step plan) s trace t)
    (acts : ∀ e ∈ trace, e.poll?.isSome = true) : trace.length + t.work ≤ s.work := by
  induction run with
  | start => simp
  | @snoc trace t e u _ last ih =>
      have earlier := ih fun e he => acts e (List.mem_append_left _ he)
      have less := last.work_lt (acts e (by simp))
      rw [List.length_append, List.length_singleton]
      omega

variable (plan) in
/-- As long as a poll has not ended some poll can act without a panic, whatever the answers are. -/
theorem exists_step (answers : Check → Except CallError Fetched)
    (permits : s.free.map (· + s.held) = limit) (allowed : limit ≠ some 0)
    (unended : ∃ poll ∈ s.polls, poll.stage.isEnded = false) :
    ∃ e t, Step plan s e t ∧ e.poll?.isSome = true ∧ panicked [e] = [] ∧
      ∀ j check answer, (j, check, answer) ∈ answered [e] → answer = answers check := by
  by_cases holding : ∃ poll ∈ s.polls, poll.stage.permits = 1
  · obtain ⟨poll, hmem, holds⟩ := holding
    obtain ⟨j, found⟩ := List.mem_iff_getElem?.mp hmem
    cases stage : poll.stage with
    | waiting | ended => simp [stage, PollStage.permits] at holds
    | asking =>
        refine ⟨_, _, .answer found stage (answers poll.check), rfl, rfl, ?_⟩
        intro k check answer hmem
        simp only [answered_singleton, Event.answered?, Option.toList_some, List.mem_singleton,
          Prod.mk.injEq] at hmem
        rw [hmem.2.1, hmem.2.2]
    | sending count left =>
        cases left with
        | nil => exact ⟨_, _, .finish found stage, rfl, rfl, by simp [Event.answered?]⟩
        | cons heartbeat left =>
            cases receiving : s.poller.receiving with
            | true => exact ⟨_, _, .send found stage receiving, rfl, rfl, by simp [Event.answered?]⟩
            | false =>
                exact ⟨_, _, .refuse found stage receiving, rfl, rfl, by simp [Event.answered?]⟩
  · -- Nobody holds a permit, so all of them are free and a poll that waits may ask.
    obtain ⟨poll, hmem, going⟩ := unended
    obtain ⟨j, found⟩ := List.mem_iff_getElem?.mp hmem
    have nobody : s.held = 0 := by
      rw [held, total, List.sum_eq_zero_iff_forall_eq_nat]
      intro n hn
      obtain ⟨other, hother, rfl⟩ := List.mem_map.mp hn
      have idle := fun h => holding ⟨other, hother, h⟩
      cases stage : other.stage <;> simp [stage, PollStage.permits] at idle ⊢
    have permit : s.free ≠ some 0 := by
      intro h
      rw [h, nobody] at permits
      exact allowed permits.symm
    have waits : poll.stage = .waiting := by
      have idle := fun h => holding ⟨poll, hmem, h⟩
      cases stage : poll.stage <;>
        simp [stage, PollStage.permits, PollStage.isEnded] at idle going ⊢
    exact ⟨_, _, .ask found waits permit, rfl, rfl, by simp [Event.answered?]⟩

/-- A step of a poll leaves the poller as it is. -/
theorem Step.poller_eq (step : Step plan s e t) (acts : e.poll?.isSome = true) :
    t.poller = s.poller := by
  cases step with
  | tick | lose | shutdown => cases acts
  | ask | answer | send | refuse | finish | panic => rfl

variable (plan) in
/-- The polls can always come to their end without a panic. -/
theorem exists_run_ended (answers : Check → Except CallError Fetched)
    (permits : s.free.map (· + s.held) = limit) (allowed : limit ≠ some 0) :
    ∃ trace t, Run (Step plan) s trace t ∧ (∀ e ∈ trace, e.poll?.isSome = true) ∧
      (∀ poll ∈ t.polls, poll.stage.isEnded = true) ∧ t.poller = s.poller ∧
      panicked trace = [] ∧
      ∀ j check answer, (j, check, answer) ∈ answered trace → answer = answers check := by
  induction hwork : s.work using Nat.strongRecOn generalizing s with
  | _ n ih =>
      by_cases unended : ∃ poll ∈ s.polls, poll.stage.isEnded = false
      · obtain ⟨e, next, step, acts, calm, given⟩ :=
          exists_step plan answers permits allowed unended
        have less := step.work_lt acts
        obtain ⟨trace, t, run, hacts, hended, hpoller, hcalm, hgiven⟩ :=
          ih next.work (hwork ▸ less) (step.permits.trans permits) rfl
        refine ⟨e :: trace, t, .cons step run, List.forall_mem_cons.mpr ⟨acts, hacts⟩, hended,
          hpoller.trans (step.poller_eq acts), ?_, ?_⟩
        · rw [← List.singleton_append, panicked_append, calm, hcalm, List.append_nil]
        · intro j check answer hmem
          rw [← List.singleton_append, answered_append, List.mem_append] at hmem
          exact hmem.elim (given j check answer) (hgiven j check answer)
      · refine ⟨[], s, .start, by simp, ?_, rfl, rfl, by simp [answered]⟩
        intro poll hmem
        by_contra h
        exact unended ⟨poll, hmem, Bool.eq_false_iff.mpr h⟩

end Polls

end PulseBridge
