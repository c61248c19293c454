import PulseBridge.Proofs.NudgerLine
import PulseBridge.Proofs.Station.Delivery

/-!
# A round comes to its end

After a tick the nudger can always go on until every poll has ended and every heartbeat has been
delivered: a heartbeat in hand is delivered, one in the channel is taken up, and with the channel
empty some poll can act. Each of these leaves less to do.
-/

namespace PulseBridge

open Http (Answer Sent Web)
open Settings (Nudging)

namespace NudgerLine

variable {web : Web} {settings : Nudging} {s t : NudgerLine} {trace : List Event}
variable {limit : Option Nat}

/-- Whether all that was asked has been answered and delivered, and the courier still runs. -/
structure IsDrained (s : NudgerLine) : Prop where
  ended : ∀ poll ∈ s.line.polls.polls, poll.stage.isEnded = true
  queue : s.line.station.queue = []
  hands : s.line.station.hands = none
  running : s.line.station.courier.running = true

/-- Whether nothing stands in the way of the polls and the courier. -/
structure IsOpen (limit : Option Nat) (s : NudgerLine) : Prop where
  receiving : s.line.polls.poller.receiving = true
  permits : s.line.polls.free.map (· + s.line.polls.held) = limit
  running : s.line.station.courier.running = true
  producers : 0 < s.line.station.producers
  room : 0 < s.line.station.capacity

/-- How many steps there may still be. A heartbeat is sent, taken up and delivered. -/
def load (s : NudgerLine) : Nat :=
  3 * s.line.polls.work + 2 * s.line.station.queue.length + s.line.station.hands.toList.length

/-- An event of a poll goes together with what it means for the others. -/
theorem exists_step_of_poll (h : s.IsOpen limit) {e : Polls.Event} {polls : Polls}
    (step : Polls.Step settings.pollPlan s.line.polls e polls) (acts : e.poll?.isSome = true)
    (given : ∀ j check answer, (j, check, answer) ∈ Polls.answered [e] →
      answer = (Http.call web s.log (settings.pollPlan.request check)).1)
    (calm : Polls.panicked [e] = [])
    (empty : s.line.station.queue = []) :
    ∃ e t, Step web settings s e t ∧ t.IsOpen limit ∧ t.load < s.load ∧
      e.isRefresh = false ∧ e.tick? = none := by
  have less := step.work_lt acts
  have kept := step.poller_eq acts
  have permits := step.permits.trans h.permits
  -- The polls have gone on, and the channel holds at most one heartbeat more.
  have goesOn : ∀ (t : NudgerLine) (queue : List Heartbeat) (world : List Sent),
      t.line.polls = polls → t.line.station = { s.line.station with queue, world } →
      queue.length ≤ 1 → t.IsOpen limit ∧ t.load < s.load := by
    intro t queue world hpolls hstation hqueue
    constructor
    · refine ⟨?_, ?_, ?_, ?_, ?_⟩
      · rw [hpolls, kept, h.receiving]
      · rw [hpolls, permits]
      · rw [hstation]
        exact h.running
      · rw [hstation]
        exact h.producers
      · rw [hstation]
        exact h.room
    · simp only [load, hpolls, hstation, empty, List.length_nil]
      omega
  have few : s.line.station.queue.length ≤ 1 := by simp [empty]
  cases e with
  | tick | lose | shutdown => cases acts
  | panic => cases calm
  | ask j check =>
      refine ⟨.line (.poll (.ask j check)), { s with line := { s.line with polls } },
        .line rfl (.poll rfl step), ?_⟩
      obtain ⟨opened, lighter⟩ := goesOn { s with line := { s.line with polls } } _ _ rfl rfl few
      exact ⟨opened, lighter, rfl, rfl⟩
  | answer j check answer =>
      rw [given j check answer (List.mem_singleton.mpr rfl)] at step
      have one : Step web settings s _ _ := .answer step
      generalize Http.call web s.log (settings.pollPlan.request check) = called at one
      obtain ⟨opened, lighter⟩ := goesOn
        { s with line := sentOn { s.line with polls } called.2 } _ _ rfl rfl few
      exact ⟨_, _, one, opened, lighter, rfl, rfl⟩
  | send j heartbeat =>
      have room : s.line.station.queue.length < s.line.station.capacity := by
        rw [empty]
        exact h.room
      obtain ⟨opened, lighter⟩ := goesOn
        { s with
          line := ⟨polls, { s.line.station with queue := s.line.station.queue ++ [heartbeat] }⟩ }
        _ _ rfl rfl (by simp [empty])
      exact ⟨_, _, .line rfl (.pass step (.accept h.running h.producers room)), opened, lighter,
        rfl, rfl⟩
  | refuse j =>
      cases step with
      | refuse _ _ gone =>
          rw [h.receiving] at gone
          cases gone
  | finish j =>
      refine ⟨.line (.poll (.finish j)), { s with line := { s.line with polls } },
        .line rfl (.poll rfl step), ?_⟩
      obtain ⟨opened, lighter⟩ := goesOn { s with line := { s.line with polls } } _ _ rfl rfl few
      exact ⟨opened, lighter, rfl, rfl⟩

/-- As long as something is left to do, something can be done, and less is left then. -/
theorem exists_step (h : s.IsOpen limit) (allowed : limit ≠ some 0) (undrained : ¬ s.IsDrained) :
    ∃ e t, Step web settings s e t ∧ t.IsOpen limit ∧ t.load < s.load ∧
      e.isRefresh = false ∧ e.tick? = none := by
  cases held : s.line.station.hands with
  | some item =>
      refine ⟨_, _, .line rfl (.serve rfl (.conclude held)),
        ⟨h.receiving, h.permits, ?_, h.producers, h.room⟩, ?_, rfl, rfl⟩
      · rw [Courier.fst_deliver]
        exact h.running
      · simp [load, held]
  | none =>
      cases queue : s.line.station.queue with
      | cons item rest =>
          have free : s.line.station.isFree = true := Station.isFree_iff.mpr ⟨h.running, held⟩
          refine ⟨_, _, .line rfl (.serve rfl (.pick free queue)),
            ⟨h.receiving, h.permits, h.running, h.producers, h.room⟩, ?_, rfl, rfl⟩
          simp [load, held, queue]
          omega
      | nil =>
          have unended : ∃ poll ∈ s.line.polls.polls, poll.stage.isEnded = false := by
            by_contra all
            refine undrained ⟨fun poll hpoll => ?_, queue, held, h.running⟩
            by_contra going
            exact all ⟨poll, hpoll, Bool.eq_false_iff.mpr going⟩
          obtain ⟨e, polls, step, acts, calm, given⟩ := Polls.exists_step settings.pollPlan
            (fun check => (Http.call web s.log (settings.pollPlan.request check)).1)
            h.permits allowed unended
          exact exists_step_of_poll h step acts given calm queue

/-- The nudger can always go on until nothing is left to do. -/
theorem exists_run_drained (h : s.IsOpen limit) (allowed : limit ≠ some 0) :
    ∃ trace t, Run (Step web settings) s trace t ∧ t.IsDrained ∧
      (∀ e ∈ trace, e.isRefresh = false) ∧ ticks trace = [] := by
  induction hload : s.load using Nat.strongRecOn generalizing s with
  | _ n ih =>
      by_cases drained : s.IsDrained
      · exact ⟨[], s, .start, drained, by simp, rfl⟩
      · obtain ⟨e, next, step, stillOpen, less, later, noTick⟩ := exists_step h allowed drained
        obtain ⟨trace, t, run, hdrained, hlater, hticks⟩ :=
          ih next.load (hload ▸ less) stillOpen rfl
        refine ⟨e :: trace, t, .cons step run, hdrained, List.forall_mem_cons.mpr ⟨later, hlater⟩,
          ?_⟩
        rw [← List.singleton_append, ticks_append, hticks, ticks_singleton, noTick]
        rfl

theorem isOpen_start {handles : Nat} (room : settings.room ≠ 0) :
    (start settings handles).IsOpen (settings.pollLimit.map (·.toNat)) where
  receiving := rfl
  permits := Polls.permits_of_run (.start : Run (Polls.Step settings.pollPlan) _ [] _)
  running := rfl
  producers := Nat.one_pos
  room := by
    rw [Nat.pos_iff_ne_zero]
    exact fun none => room (UInt64.toNat.inj none)

/-- Neither a refresh nor a tick stands in the way. -/
theorem IsOpen.goOn (h : s.IsOpen limit) {e : Event} (step : Step web settings s e t)
    (begins : e.isRefresh = true ∨ e.tick?.isSome = true) : t.IsOpen limit := by
  cases step with
  | refresh => exact ⟨h.receiving, h.permits, h.running, h.producers, h.room⟩
  | tick step =>
      have permits := step.permits.trans h.permits
      cases step
      exact ⟨h.receiving, permits, h.running, h.producers, h.room⟩
  | answer | line => exact begins.elim nofun nofun

/-- After a refresh, a tick can be carried through until all heartbeats have been delivered. -/
theorem exists_round (web : Web) (settings : Nudging) (handles : Nat)
    (allowed : settings.pollLimit ≠ some 0) (room : settings.room ≠ 0) :
    ∃ rest s, Run (Step web settings) (start settings handles) (.refresh :: rest) s ∧
      (∀ e ∈ rest, e.isRefresh = false) ∧ (ticks rest).length = 1 ∧ s.IsDrained := by
  have first : Step web settings (start settings handles) .refresh _ := .refresh
  generalize hmid : NudgerLine.mk _ _ = mid at first
  have second : Step web settings mid (.tick mid.keeper.checks) _ :=
    .tick (.tick (by rw [← hmid]; rfl) _)
  generalize NudgerLine.mk _ _ = next at second
  have opened := ((isOpen_start room).goOn first (.inl rfl)).goOn second (.inr rfl)
  have limited : settings.pollLimit.map (·.toNat) ≠ some 0 := by
    intro none
    obtain ⟨n, hn, zero⟩ := Option.map_eq_some_iff.mp none
    exact allowed (hn.trans (congrArg some (UInt64.toNat.inj zero)))
  obtain ⟨trace, s, run, drained, later, hticks⟩ := exists_run_drained opened limited
  refine ⟨.tick mid.keeper.checks :: trace, s, .cons first (.cons second run), ?_, ?_, drained⟩
  · exact List.forall_mem_cons.mpr ⟨rfl, later⟩
  · rw [← List.singleton_append, ticks_append, hticks]
    rfl

end NudgerLine

end PulseBridge
