import PulseBridge.Proofs.Station.Delivery

/-!
# Schedules of a station

Delivering one item after the other, as `Courier.deliverAll` does, is one of the runs of a station.
From any state whose producers are gone the courier can so come to its end, and whether anybody
still holds a handle of it makes no difference to what it does on its own.
-/

namespace PulseBridge

/-- However many deliveries there are, none of them stops the courier. -/
theorem Courier.running_deliverAll {σ α : Type} (sink : Sink σ α) (items : List α)
    (courier : Courier) (world : σ) :
    (courier.deliverAll sink world items).1.running = courier.running := by
  induction items generalizing courier world with
  | nil => rfl
  | cons item items ih => exact ih _ _

namespace Station

variable {σ α : Type} {sink : Sink σ α} {s t : Station σ α}
variable {e : Event α} {trace : List (Event α)}

/-! ## Handles -/

/-- Whether an event needs a handle of the courier. -/
def Event.ofHandle : Event α → Bool
  | .send _ | .share | .drop => true
  | _ => false

/-- The station with another number of handles. -/
def withHandles (s : Station σ α) (n : Nat) : Station σ α := { s with handles := n }

/-- What needs no handle happens whoever holds one. -/
theorem Step.withHandles (step : Step sink s e t) (he : e.ofHandle = false) (n : Nat) :
    Step sink (s.withHandles n) e (t.withHandles n) := by
  cases step with
  | accept running somebody room => exact .accept running somebody room
  | pick free first => exact .pick free first
  | conclude held => exact @Step.conclude _ _ sink (s.withHandles n) _ held
  | reply free first told => exact .reply free first told
  | dismiss free first => exact @Step.dismiss _ _ sink (s.withHandles n) _ free first
  | runDry free empty nobody => exact @Step.runDry _ _ sink (s.withHandles n) free empty nobody
  | join somebody => exact @Step.join _ _ sink (s.withHandles n) somebody
  | leave somebody => exact @Step.leave _ _ sink (s.withHandles n) somebody
  | drift world => exact @Step.drift _ _ sink (s.withHandles n) world
  | send | share | drop => simp [Event.ofHandle] at he

theorem run_withHandles (run : Run (Step sink) s trace t)
    (aside : ∀ e ∈ trace, e.ofHandle = false) (n : Nat) :
    Run (Step sink) (s.withHandles n) trace (t.withHandles n) := by
  induction run with
  | start => exact .start
  | snoc _ last ih =>
      have hlast := last.withHandles (aside _ (by simp)) n
      exact (ih fun e he => aside e (by simp [he])).snoc hlast

/-- The handles can be dropped one after the other, until nobody holds one. -/
theorem run_drop (s : Station σ α) (n : Nat) :
    Run (Step sink) (s.withHandles n) (List.replicate n .drop) (s.withHandles 0) := by
  induction n with
  | zero => exact .start
  | succ n ih =>
      have step : Step sink (s.withHandles (n + 1)) .drop _ := .drop (Nat.succ_pos n)
      exact .cons step ih

/-- When nobody holds a handle, nothing happens that needs one. -/
theorem ofHandle_eq_false (run : Run (Step sink) s trace t) (nobody : s.handles = 0) :
    (∀ e ∈ trace, e.ofHandle = false) ∧ t.handles = 0 := by
  induction run with
  | start => exact ⟨by simp, nobody⟩
  | snoc _ last ih =>
      obtain ⟨aside, hnobody⟩ := ih
      cases last with
      | send _ somebody | share somebody | drop somebody => omega
      | accept | pick | conclude | reply | dismiss | runDry | join | leave | drift =>
          exact ⟨by simpa [or_imp, forall_and, Event.ofHandle] using aside, hnobody⟩

/-- Without handles the station does exactly what it can do while nobody uses one. -/
theorem run_without_handles_iff :
    Run (Step sink) (s.withHandles 0) trace t ↔
      (∀ e ∈ trace, e.ofHandle = false) ∧ t.handles = 0 ∧
        Run (Step sink) s trace (t.withHandles s.handles) := by
  constructor
  · intro run
    obtain ⟨aside, nobody⟩ := ofHandle_eq_false run rfl
    exact ⟨aside, nobody, run_withHandles run aside s.handles⟩
  · rintro ⟨aside, nobody, run⟩
    have same : (t.withHandles s.handles).withHandles 0 = t := by
      rw [← nobody]
      rfl
    exact same ▸ run_withHandles run aside 0

/-! ## One item after the other -/

/-- Whether an event is the beginning or the end of a delivery. -/
def Event.ofDelivery : Event α → Bool
  | .pick _ | .conclude .. => true
  | _ => false

/-- One delivery, from the channel to its end. -/
theorem run_deliver {item : α} {rest : List α} (free : s.isFree = true)
    (first : s.queue = item :: rest) :
    Run (Step sink) s [.pick item, .conclude item (sink.deliver s.world item).1]
      { s with
        queue := rest
        courier := (s.courier.deliver sink s.world item).1
        world := (s.courier.deliver sink s.world item).2.2 } := by
  obtain ⟨_, hands⟩ := isFree_iff.mp free
  have picked : Step sink s (.pick item) { s with queue := rest, hands := some item } :=
    .pick free first
  have ended := @Step.conclude _ _ sink { s with queue := rest, hands := some item } item rfl
  simpa only [hands] using Run.cons picked (.single ended)

/-- Delivering all that waits, one item after the other, is a run. -/
theorem exists_run_deliverAll (free : s.isFree = true) :
    ∃ trace, Run (Step sink) s trace
      { s with
        queue := []
        courier := (s.courier.deliverAll sink s.world s.queue).1
        world := (s.courier.deliverAll sink s.world s.queue).2.2 } ∧
      (∀ e ∈ trace, e.ofDelivery = true) ∧ given trace = s.queue ∧
      (concluded trace).map Prod.fst = s.queue := by
  generalize hqueue : s.queue = queue
  induction queue generalizing s with
  | nil =>
      refine ⟨[], ?_, by simp, rfl, rfl⟩
      have hs : s = { s with queue := [] } := by rw [← hqueue]
      simpa only [Courier.deliverAll, ← hs] using Run.start
  | cons item rest ih =>
      have one : Run (Step sink) s _ _ := run_deliver free hqueue
      have stillFree : isFree { s with
          queue := rest
          courier := (s.courier.deliver sink s.world item).1
          world := (s.courier.deliver sink s.world item).2.2 } = true := free
      obtain ⟨trace, run, aside, hgiven, hconcluded⟩ := ih stillFree rfl
      refine ⟨_, one.append run, ?_, ?_, ?_⟩
      · simpa [Event.ofDelivery] using aside
      · rw [given_append, hgiven]
        rfl
      · rw [concluded_append, List.map_append, hconcluded]
        rfl

/-- How the courier comes to an end by itself: nobody uses a handle, nobody tells it to stop, and
it delivers all that was left. -/
structure Ending (sink : Sink σ α) (s : Station σ α) (trace : List (Event α)) (t : Station σ α) :
    Prop where
  run : Run (Step sink) s trace t
  stopped : t.courier.running = false
  aside : ∀ e ∈ trace, e.ofHandle = false
  unasked : Event.dismiss ∉ trace
  delivers : (concluded trace).map Prod.fst = s.hands.toList ++ s.queue

/-- Once nobody can put items into the channel, a free courier can deliver what is left and stop. -/
theorem exists_ending_of_isFree (free : s.isFree = true) (nobody : s.producers = 0) :
    ∃ trace t, Ending sink s trace t := by
  obtain ⟨running, hands⟩ := isFree_iff.mp free
  obtain ⟨trace, run, deliveries, _, hconcluded⟩ := @exists_run_deliverAll _ _ sink s free
  have keeps := Courier.running_deliverAll sink s.queue s.courier s.world
  refine ⟨_, _, run.snoc (.runDry ?_ rfl nobody), rfl, ?_, ?_, ?_⟩
  · exact isFree_iff.mpr ⟨keeps.trans running, hands⟩
  · intro e he
    rcases List.mem_append.mp he with he | he
    · have delivery := deliveries e he
      cases e <;> first | rfl | simp [Event.ofDelivery] at delivery
    · rw [List.mem_singleton.mp he]
      rfl
  · intro told
    rcases List.mem_append.mp told with told | told
    · simpa [Event.ofDelivery] using deliveries _ told
    · simp at told
  · simpa [hands, Event.concluded?] using hconcluded

/-- Once nobody can put items into the channel, the courier can deliver what is left and stop. -/
theorem exists_ending (running : s.courier.running = true) (nobody : s.producers = 0) :
    ∃ trace t, Ending sink s trace t := by
  cases hands : s.hands with
  | none => exact exists_ending_of_isFree (isFree_iff.mpr ⟨running, hands⟩) nobody
  | some item =>
      have first : Step sink s _ _ := Step.conclude hands
      obtain ⟨trace, t, ending⟩ := @exists_ending_of_isFree _ _ sink
        { s with
          hands := none
          courier := (s.courier.deliver sink s.world item).1
          world := (s.courier.deliver sink s.world item).2.2 }
        (isFree_iff.mpr ⟨running, rfl⟩) nobody
      refine ⟨_, t, ending.run.cons first, ending.stopped, ?_, ?_, ?_⟩
      · simpa [Event.ofHandle] using ending.aside
      · simpa using ending.unasked
      · rw [← List.singleton_append, concluded_append, List.map_append, ending.delivers, hands]
        rfl

end Station

end PulseBridge
