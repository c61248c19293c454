import Mathlib.Data.List.Induction
import PulseBridge.Proofs.Station

/-!
# What a station delivers

Whatever order the courier takes items and orders in, it gives the sink what the channel took, in
the order in which the channel took it and each item once. Its tally is that of the deliveries that
have ended, and it loses items only when it is told to stop.
-/

namespace PulseBridge

namespace Tally

/-- The tally of some deliveries. -/
def of (deliveries : List Delivery) : Tally := deliveries.foldl record empty

theorem of_concat (deliveries : List Delivery) (d : Delivery) :
    of (deliveries ++ [d]) = (of deliveries).record d := by
  simp [of]

theorem delivered_record (tally : Tally) (d : Delivery) :
    (tally.record d).delivered = tally.delivered + if d.succeeded then 1 else 0 := by
  cases h : d.succeeded <;> simp [record, h]

theorem failed_record (tally : Tally) (d : Delivery) :
    (tally.record d).failed = tally.failed + if d.succeeded then 0 else 1 := by
  cases h : d.succeeded <;> simp [record, h]

theorem last_record (tally : Tally) (d : Delivery) : (tally.record d).last = some d := by
  cases h : d.succeeded <;> simp [record, h]

/-- A tally counts every delivery once. -/
theorem total_of (deliveries : List Delivery) :
    (of deliveries).delivered + (of deliveries).failed = deliveries.length := by
  induction deliveries using List.reverseRecOn with
  | nil => rfl
  | append_singleton ds d ih =>
      rw [of_concat, delivered_record, failed_record, List.length_append, List.length_singleton]
      cases d.succeeded <;> simp <;> omega

/-- A tally counts those that succeeded. -/
theorem delivered_of (deliveries : List Delivery) :
    (of deliveries).delivered = deliveries.countP Delivery.succeeded := by
  induction deliveries using List.reverseRecOn with
  | nil => rfl
  | append_singleton ds d ih =>
      rw [of_concat, delivered_record, ih, List.countP_append, List.countP_singleton]

/-- A tally keeps the latest delivery. -/
theorem last_of (deliveries : List Delivery) : (of deliveries).last = deliveries.getLast? := by
  induction deliveries using List.reverseRecOn with
  | nil => rfl
  | append_singleton ds d _ => rw [of_concat, last_record, List.getLast?_concat]

end Tally

namespace Courier

variable {σ α : Type}

/-- A delivery changes the tally by its result, and nothing else of the courier. -/
theorem fst_deliver (sink : Sink σ α) (courier : Courier) (world : σ) (item : α) :
    (courier.deliver sink world item).1 =
      { courier with
        tally := courier.tally.record (Delivery.ofOutcome (sink.deliver world item).1) } :=
  rfl

end Courier

namespace Station

variable {σ α : Type} {capacity producers handles : Nat} {world : σ} {sink : Sink σ α}
variable {s t u : Station σ α} {e : Event α} {trace before after : List (Event α)}

@[simp] theorem results_append (before after : List (Event α)) :
    results (before ++ after) = results before ++ results after := by
  simp [results]

/-- What the trace so far says of the state. -/
structure Account (trace : List (Event α)) (s : Station σ α) : Prop where
  /-- What was given to the sink has been delivered, one item after the other, or is in hand. -/
  given_eq : given trace = (concluded trace).map Prod.fst ++ s.hands.toList
  /-- What the channel took was given to the sink or waits in the channel, unless the courier was
  told to stop. -/
  accepted_eq : ∃ lost, accepted trace = given trace ++ s.queue ++ lost ∧
    (s.courier.running = true ∨ Event.dismiss ∉ trace → lost = [])
  tally_eq : s.courier.tally = Tally.of (results trace)
  room : s.queue.length ≤ s.capacity
  stopped : s.courier.running = false → s.hands = none ∧ s.queue = []

theorem account_start :
    Account [] (start capacity producers handles world : Station σ α) where
  given_eq := rfl
  accepted_eq := ⟨[], rfl, fun _ => rfl⟩
  tally_eq := rfl
  room := Nat.zero_le _
  stopped := by simp [start, Courier.start]

theorem isFree_iff : s.isFree = true ↔ s.courier.running = true ∧ s.hands = none := by
  simp [isFree]

/-- While the courier runs, nothing that the channel took is lost. -/
theorem Account.line (h : Account trace s) (running : s.courier.running = true) :
    accepted trace = given trace ++ s.queue := by
  obtain ⟨lost, heq, hlost⟩ := h.accepted_eq
  rw [heq, hlost (Or.inl running), List.append_nil]

/-- What the channel took first is given to the sink first. -/
theorem Account.given_prefix (h : Account trace s) : given trace <+: accepted trace := by
  obtain ⟨lost, hline, _⟩ := h.accepted_eq
  rw [hline, List.append_assoc]
  exact List.prefix_append _ _

/-- A courier that delivers something runs. -/
theorem Account.running_of_held {item : α} (h : Account trace s) (held : s.hands = some item) :
    s.courier.running = true := by
  by_contra hstop
  have hnone := (h.stopped (by simpa using hstop)).1
  simp [held] at hnone

/-- Whether an event concerns neither an item nor the courier's end. -/
def Event.isAside : Event α → Bool
  | .accept _ | .pick _ | .conclude .. | .dismiss | .runDry => false
  | _ => true

/-- An event aside leaves the account as it is. -/
theorem Account.aside (h : Account trace s) (he : e.isAside = true) (hands : t.hands = s.hands)
    (queue : t.queue = s.queue) (courier : t.courier = s.courier)
    (capacity : t.capacity = s.capacity) : Account (trace ++ [e]) t := by
  have hnone : e.accepted? = none ∧ e.given? = none ∧ e.concluded? = none ∧ .dismiss ≠ e := by
    cases e <;>
      simp_all [Event.isAside, Event.accepted?, Event.given?, Event.concluded?]
  obtain ⟨haccepted, hgiven, hconcluded, hdismiss⟩ := hnone
  obtain ⟨lost, hline, hlost⟩ := h.accepted_eq
  refine ⟨?_, ⟨lost, ?_, ?_⟩, ?_, ?_, ?_⟩
  · simpa [hgiven, hconcluded, hands] using h.given_eq
  · simpa [haccepted, hgiven, queue] using hline
  · simpa [courier, hdismiss] using hlost
  · simpa [results, hconcluded, courier] using h.tally_eq
  · simpa [queue, capacity] using h.room
  · simpa [hands, queue, courier] using h.stopped

/-- Every step keeps the account. -/
theorem Account.step (h : Account trace s) (step : Step sink s e t) :
    Account (trace ++ [e]) t := by
  cases step with
  | @accept item running _ room =>
      have hline := h.line running
      refine ⟨?_, ⟨[], ?_, fun _ => rfl⟩, ?_, ?_, ?_⟩
      · simpa [Event.given?, Event.concluded?] using h.given_eq
      · simp [hline, Event.accepted?, Event.given?]
      · simpa [results, Event.concluded?] using h.tally_eq
      · simpa using Nat.succ_le_of_lt room
      · intro stopped
        simp [running] at stopped
  | @pick item rest free first =>
      obtain ⟨running, hands⟩ := isFree_iff.mp free
      have hline := h.line running
      refine ⟨?_, ⟨[], ?_, fun _ => rfl⟩, ?_, ?_, ?_⟩
      · simpa [hands, Event.given?, Event.concluded?] using h.given_eq
      · simp [hline, first, Event.accepted?, Event.given?]
      · simpa [results, Event.concluded?] using h.tally_eq
      · have hroom := h.room
        rw [first, List.length_cons] at hroom
        exact Nat.le_of_succ_le hroom
      · intro stopped
        simp [running] at stopped
  | @conclude item held =>
      have running := h.running_of_held held
      have hline := h.line running
      refine ⟨?_, ⟨[], ?_, fun _ => rfl⟩, ?_, h.room, ?_⟩
      · simpa [held, Event.given?, Event.concluded?] using h.given_eq
      · simpa [Event.accepted?, Event.given?] using hline
      · rw [Courier.fst_deliver, results_append, h.tally_eq]
        exact (Tally.of_concat _ _).symm
      · intro stopped
        rw [Courier.fst_deliver] at stopped
        simp [running] at stopped
  | @dismiss rest free _ =>
      obtain ⟨running, hands⟩ := isFree_iff.mp free
      refine ⟨?_, ⟨s.queue, ?_, ?_⟩, ?_, Nat.zero_le _, fun _ => ⟨hands, rfl⟩⟩
      · simpa [closed, Event.given?, Event.concluded?] using h.given_eq
      · simpa [closed, Event.accepted?, Event.given?] using h.line running
      · rintro (stopped | absent)
        · simp [closed, Courier.stop] at stopped
        · simp at absent
      · simpa [closed, Courier.stop, results, Event.concluded?] using h.tally_eq
  | runDry free empty nobody =>
      obtain ⟨running, hands⟩ := isFree_iff.mp free
      refine ⟨?_, ⟨[], ?_, fun _ => rfl⟩, ?_, Nat.zero_le _, fun _ => ⟨hands, rfl⟩⟩
      · simpa [closed, Event.given?, Event.concluded?] using h.given_eq
      · simpa [closed, empty, Event.accepted?, Event.given?] using h.line running
      · simpa [closed, Courier.stop, results, Event.concluded?] using h.tally_eq
  | send | reply | join | leave | share | drop | drift => exact h.aside rfl rfl rfl rfl rfl

/-- The account is right after every run. -/
theorem account_of_run
    (run : Run (Step sink) (start capacity producers handles world) trace s) :
    Account trace s := by
  apply run.invariant account_start
  intro trace s e t _ h step
  exact h.step step

/-- The channel keeps its capacity. -/
theorem capacity_of_run
    (run : Run (Step sink) (start capacity producers handles world) trace s) :
    s.capacity = capacity := by
  induction run with
  | start => rfl
  | snoc _ last ih => cases last <;> exact ih

/-! ## The end of the courier -/

/-- A step after the courier has stopped concerns no item, and the courier does not begin again. -/
theorem Step.after_end (step : Step sink s e t) (stopped : s.courier.running = false)
    (hands : s.hands = none) :
    e.isAside = true ∧ t.courier.running = false ∧ t.hands = none := by
  have notFree : s.isFree = false := by simp [isFree, stopped]
  cases step with
  | accept running => simp [stopped] at running
  | pick free => simp [notFree] at free
  | conclude held => simp [hands] at held
  | send running => simp [stopped] at running
  | reply free => simp [notFree] at free
  | dismiss free => simp [notFree] at free
  | runDry free => simp [notFree] at free
  | join | leave | share | drop | drift => exact ⟨rfl, stopped, hands⟩

/-- After the courier has stopped nothing concerns an item any more. -/
theorem aside_of_end (run : Run (Step sink) s trace t) (stopped : s.courier.running = false)
    (hands : s.hands = none) :
    (∀ e ∈ trace, e.isAside = true) ∧ t.courier.running = false ∧ t.hands = none := by
  induction run with
  | start => exact ⟨by simp, stopped, hands⟩
  | snoc _ last ih =>
      obtain ⟨aside, hstopped, hhands⟩ := ih
      obtain ⟨he, ht⟩ := last.after_end hstopped hhands
      exact ⟨by simpa [or_imp, forall_and] using ⟨aside, he⟩, ht⟩

theorem given_eq_nil (aside : ∀ e ∈ trace, e.isAside = true) : given trace = [] := by
  apply List.filterMap_eq_nil_iff.mpr
  intro e he
  have h := aside e he
  cases e <;> simp_all [Event.isAside, Event.given?]

theorem concluded_eq_nil (aside : ∀ e ∈ trace, e.isAside = true) : concluded trace = [] := by
  apply List.filterMap_eq_nil_iff.mpr
  intro e he
  have h := aside e he
  cases e <;> simp_all [Event.isAside, Event.concluded?]

/-- The courier is told to stop only by somebody who has given that order. -/
theorem stop_sent_of_run
    (run : Run (Step sink) (start capacity producers handles world) trace s)
    (h : Order.stop ∈ s.orders ∨ Event.dismiss ∈ trace) : Event.send .stop ∈ trace := by
  induction run with
  | start => simp [start] at h
  | snoc _ last ih =>
      cases last with
      | send =>
          rcases h with h | h
          · rcases List.mem_append.mp h with h | h
            · simp [ih (Or.inl h)]
            · simp [List.mem_singleton.mp h]
          · simp at h
            simp [ih (Or.inr h)]
      | reply _ first =>
          have h := h.imp (List.mem_cons_of_mem .tally) id
          simp only [List.mem_append, List.mem_singleton, reduceCtorEq, or_false, ← first] at h
          simp [ih h]
      | dismiss _ first => simp [ih (Or.inl (by simp [first]))]
      | runDry =>
          simp [closed] at h
          simp [ih (Or.inr h)]
      | accept | pick | conclude | join | leave | share | drop | drift =>
          simp only [List.mem_append, List.mem_singleton, reduceCtorEq, or_false] at h
          simp [ih h]

/-- When the courier has stopped without being told to, it has delivered all that the channel
took. -/
theorem delivered_of_end
    (run : Run (Step sink) (start capacity producers handles world) trace s)
    (stopped : s.courier.running = false) (unasked : Event.send .stop ∉ trace) :
    (concluded trace).map Prod.fst = accepted trace := by
  have account := account_of_run run
  obtain ⟨hands, queue⟩ := account.stopped stopped
  obtain ⟨lost, hline, hlost⟩ := account.accepted_eq
  have htold : Event.dismiss ∉ trace := fun told => unasked (stop_sent_of_run run (Or.inr told))
  rw [hline, hlost (Or.inr htold), account.given_eq, hands, queue]
  simp

end Station

end PulseBridge
