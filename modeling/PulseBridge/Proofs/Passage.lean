import Mathlib.Tactic.SplitIfs
import PulseBridge.Relay
import PulseBridge.Proofs.Run

/-!
# The passage of alerts

Alerts come with inquiries, pass through the intake and are received at its end. Those that bring
them, those that wait outside and whoever receives them all act on their own: at any time somebody
may ask, one of those outside may be admitted or enter, or the first of the channel may be received.

## Implementation notes

That an alert has found the channel full shows in what is told about its inquiry. The places of
those outside have no order here, so that every order in which they may come to enter is included.
-/

namespace PulseBridge

namespace Relay

/-- The alert that an inquiry brings, if it brings one that is active. -/
def Inquiry.alert? (inquiry : Inquiry) : Option Alert :=
  if route? (pathOf inquiry.target) = some .alerts ∧ inquiry.method = "POST" ∧
      inquiry.body.length ≤ bodyLimit then
    match Alert.decode inquiry.body with
    | .ok alert => if alert.isActive then some alert else none
    | .error _ => none
  else none

variable {now : String} {intake : Intake} {inquiry : Inquiry} {alert : Alert}

/-- The alert that an inquiry brings is offered to the intake. -/
theorem answer_of_alert (h : inquiry.alert? = some alert) :
    (answer now intake inquiry).2 = intake.offer alert := by
  unfold Inquiry.alert? at h
  split at h
  case isTrue hpost =>
      obtain ⟨hroute, hmethod, hlength⟩ := hpost
      cases hdecode : Alert.decode inquiry.body with
      | error e => simp [hdecode] at h
      | ok decoded =>
          simp only [hdecode, Option.ite_none_right_eq_some, Option.some.injEq] at h
          obtain ⟨hactive, rfl⟩ := h
          simp [answer, hroute, hmethod, receiveAlert, Nat.not_lt.mpr hlength, hdecode, hactive]
  case isFalse => simp at h

/-- An inquiry that brings no active alert leaves the intake as it is, and has not found it full. -/
theorem answer_of_no_alert (h : inquiry.alert? = none) :
    (answer now intake inquiry).2.1 = intake ∧
      Notice.intakeFull ∉ (answer now intake inquiry).2.2 := by
  cases hroute : route? (pathOf inquiry.target) with
  | none => simp [answer, hroute]
  | some route =>
      cases route with
      | health =>
          simp only [answer, hroute]
          split_ifs <;> simp
      | commands =>
          simp only [answer, hroute]
          split_ifs <;> simp
      | alerts =>
          by_cases hmethod : inquiry.method = "POST"
          · by_cases hlength : inquiry.body.length ≤ bodyLimit
            · rw [Inquiry.alert?, if_pos ⟨hroute, hmethod, hlength⟩] at h
              cases hdecode : Alert.decode inquiry.body with
              | error e =>
                  simp [answer, hroute, hmethod, receiveAlert, Nat.not_lt.mpr hlength, hdecode]
              | ok decoded =>
                  have hactive : decoded.isActive = false := by simpa [hdecode] using h
                  simp [answer, hroute, hmethod, receiveAlert, Nat.not_lt.mpr hlength, hdecode,
                    hactive]
            · simp [answer, hroute, hmethod, receiveAlert, Nat.lt_of_not_le hlength]
          · simp [answer, hroute, hmethod]

end Relay

namespace Intake

open Relay (Inquiry Response)

/-- What happens at an intake. -/
inductive Event where
  /-- An inquiry is answered, and something is told about it. -/
  | ask (inquiry : Inquiry) (response : Response) (notices : List Notice)
  /-- A place is kept for one of those outside. -/
  | allot
  /-- One of those outside enters the channel. -/
  | enter (alert : Alert)
  /-- The first alert of the channel is received. -/
  | receive (alert : Alert)

/-- What an intake does at once. -/
inductive Step : Intake → Event → Intake → Prop
  | ask {s} (now : String) (inquiry : Inquiry) :
      Step s
        (.ask inquiry (Relay.answer now s inquiry).1 (Relay.answer now s inquiry).2.2)
        (Relay.answer now s inquiry).2.1
  | allot {s t i} (taken : s.allot? i = some t) : Step s .allot t
  | enter {s t alert i} (taken : s.enter? i = some (alert, t)) : Step s (.enter alert) t
  | receive {s t alert} (taken : s.receive? = some (alert, t)) : Step s (.receive alert) t

/-! ## What a trace tells -/

/-- The active alert that comes. -/
def Event.arrived? : Event → Option Alert
  | .ask inquiry _ _ => inquiry.alert?
  | _ => none

/-- Whether an alert comes and finds the channel full. -/
def Event.foundFull : Event → Bool
  | .ask _ _ notices => decide (Notice.intakeFull ∈ notices)
  | _ => false

/-- The alert that comes and finds a place at once. -/
def Event.direct? (e : Event) : Option Alert := if e.foundFull then none else e.arrived?

/-- The alert that enters the channel, and whether it has not waited outside. -/
def Event.entered? : Event → Option (Alert × Bool)
  | .enter alert => some (alert, false)
  | e => e.direct?.map fun alert => (alert, true)

/-- The alert that is received. -/
def Event.received? : Event → Option Alert
  | .receive alert => some alert
  | _ => none

/-- The active alerts that came, in their order. -/
def arrivals (trace : List Event) : List Alert := trace.filterMap Event.arrived?

/-- Those of them that found a place at once. -/
def directs (trace : List Event) : List Alert := trace.filterMap Event.direct?

/-- The alerts that entered the channel, in their order. -/
def entered (trace : List Event) : List (Alert × Bool) := trace.filterMap Event.entered?

/-- The alerts that were received, in their order. -/
def received (trace : List Event) : List Alert := trace.filterMap Event.received?

@[simp] theorem arrivals_append (before after : List Event) :
    arrivals (before ++ after) = arrivals before ++ arrivals after :=
  List.filterMap_append

@[simp] theorem directs_append (before after : List Event) :
    directs (before ++ after) = directs before ++ directs after :=
  List.filterMap_append

@[simp] theorem entered_append (before after : List Event) :
    entered (before ++ after) = entered before ++ entered after :=
  List.filterMap_append

@[simp] theorem received_append (before after : List Event) :
    received (before ++ after) = received before ++ received after :=
  List.filterMap_append

@[simp] theorem arrivals_singleton (e : Event) : arrivals [e] = e.arrived?.toList :=
  filterMap_single ..

@[simp] theorem directs_singleton (e : Event) : directs [e] = e.direct?.toList :=
  filterMap_single ..

@[simp] theorem entered_singleton (e : Event) : entered [e] = e.entered?.toList :=
  filterMap_single ..

@[simp] theorem received_singleton (e : Event) : received [e] = e.received?.toList :=
  filterMap_single ..

/-- What has entered at once is what has found a place at once. -/
theorem entered_filter (trace : List Event) :
    ((entered trace).filter Prod.snd).map Prod.fst = directs trace := by
  induction trace with
  | nil => rfl
  | cons e trace ih =>
      rw [← List.singleton_append, entered_append, directs_append, List.filter_append,
        List.map_append, ih]
      congr 1
      cases e with
      | ask inquiry response notices =>
          rw [entered_singleton, directs_singleton]
          cases h : (Event.ask inquiry response notices).direct? <;> simp [Event.entered?, h]
      | allot | enter | receive => rfl

/-! ## What a step amounts to -/

/-- What a step amounts to while somebody receives. -/
inductive Move (s : Intake) : Event → Intake → Prop
  /-- No active alert comes. -/
  | pass {inquiry response notices} (nothing : inquiry.alert? = none)
      (unfilled : Notice.intakeFull ∉ notices) : Move s (.ask inquiry response notices) s
  /-- An alert comes, and there is a place for it. -/
  | direct {inquiry response alert} (brought : inquiry.alert? = some alert)
      (room : s.queued < s.capacity) :
      Move s (.ask inquiry response []) { s with queue := s.queue ++ [alert] }
  /-- An alert comes and has to wait. -/
  | defer {inquiry response alert} (brought : inquiry.alert? = some alert)
      (full : s.capacity ≤ s.queued) :
      Move s (.ask inquiry response [.intakeFull]) { s with waiting := s.waiting ++ [alert] }
  | allot {i alert} (found : s.waiting[i]? = some alert) (room : s.queued < s.capacity) :
      Move s .allot
        { s with admitted := s.admitted ++ [alert], waiting := s.waiting.eraseIdx i }
  | enter {i alert} (found : s.admitted[i]? = some alert) :
      Move s (.enter alert)
        { s with queue := s.queue ++ [alert], admitted := s.admitted.eraseIdx i }
  | receive {alert rest} (first : s.queue = alert :: rest) :
      Move s (.receive alert) { s with queue := rest }

variable {s t : Intake} {e : Event} {alert : Alert} {i : Nat}

theorem offer_of_room (receiving : s.receiving = true) (room : s.queued < s.capacity) :
    s.offer alert = ({ s with queue := s.queue ++ [alert] }, []) := by
  simp [offer, receiving, hasRoom, room]

theorem offer_of_full (receiving : s.receiving = true) (full : s.capacity ≤ s.queued) :
    s.offer alert = ({ s with waiting := s.waiting ++ [alert] }, [.intakeFull]) := by
  simp [offer, receiving, hasRoom, Nat.not_lt.mpr full]

/-- An active alert for which there is a place enters the channel at once. -/
theorem step_of_room {inquiry : Inquiry} (now : String) (brought : inquiry.alert? = some alert)
    (receiving : s.receiving = true) (room : s.queued < s.capacity) :
    Step s (.ask inquiry (Relay.answer now s inquiry).1 [])
      { s with queue := s.queue ++ [alert] } := by
  have step := @Step.ask s now inquiry
  rwa [Relay.answer_of_alert brought, offer_of_room receiving room] at step

/-- An active alert for which there is no place has to wait outside. -/
theorem step_of_full {inquiry : Inquiry} (now : String) (brought : inquiry.alert? = some alert)
    (receiving : s.receiving = true) (full : s.capacity ≤ s.queued) :
    Step s (.ask inquiry (Relay.answer now s inquiry).1 [.intakeFull])
      { s with waiting := s.waiting ++ [alert] } := by
  have step := @Step.ask s now inquiry
  rwa [Relay.answer_of_alert brought, offer_of_full receiving full] at step

theorem move_of_allot (taken : s.allot? i = some t) : Move s .allot t := by
  unfold allot? at taken
  cases found : s.waiting[i]? with
  | none => simp [found] at taken
  | some alert =>
      simp only [found, hasRoom, decide_eq_true_eq, Option.ite_none_right_eq_some,
        Option.some.injEq] at taken
      obtain ⟨room, rfl⟩ := taken
      exact .allot found room

theorem move_of_enter (taken : s.enter? i = some (alert, t)) : Move s (.enter alert) t := by
  unfold enter? at taken
  cases found : s.admitted[i]? with
  | none => simp [found] at taken
  | some first =>
      simp only [found, Option.some.injEq, Prod.mk.injEq] at taken
      obtain ⟨rfl, rfl⟩ := taken
      exact .enter found

theorem move_of_receive (taken : s.receive? = some (alert, t)) : Move s (.receive alert) t := by
  unfold receive? at taken
  cases first : s.queue with
  | nil => simp [first] at taken
  | cons head rest =>
      simp only [first, Option.some.injEq, Prod.mk.injEq] at taken
      obtain ⟨rfl, rfl⟩ := taken
      exact .receive first

/-- Every step is one of these, while somebody receives. -/
theorem Step.move (step : Step s e t) (receiving : s.receiving = true) : Move s e t := by
  cases step with
  | ask now inquiry =>
      cases h : inquiry.alert? with
      | none =>
          obtain ⟨same, unfilled⟩ := Relay.answer_of_no_alert h
          rw [same]
          exact .pass h unfilled
      | some alert =>
          rw [Relay.answer_of_alert h]
          rcases Nat.lt_or_ge s.queued s.capacity with room | full
          · rw [offer_of_room receiving room]
            exact .direct h room
          · rw [offer_of_full receiving full]
            exact .defer h full
  | allot taken => exact move_of_allot taken
  | enter taken => exact move_of_enter taken
  | receive taken => exact move_of_receive taken

/-! ## The intake left to itself -/

/-- Letting in those outside, one after the other, is a run. -/
theorem exists_run_letIn (n : Nat) (s : Intake) :
    ∃ trace, Run Step s trace (s.letIn n) ∧ received trace = [] ∧ arrivals trace = [] := by
  induction n generalizing s with
  | zero => exact ⟨[], .start, rfl, rfl⟩
  | succ n ih =>
      cases h : (s.allot? 0).bind (·.enter? 0) with
      | none =>
          refine ⟨[], ?_, rfl, rfl⟩
          simpa only [letIn, h] using Run.start
      | some entry =>
          obtain ⟨alert, t⟩ := entry
          obtain ⟨mid, hallot, henter⟩ := Option.bind_eq_some_iff.mp h
          obtain ⟨trace, run, hreceived, harrivals⟩ := ih t
          refine ⟨.allot :: .enter alert :: trace, ?_, hreceived, harrivals⟩
          simp only [letIn, h]
          exact .cons (.allot hallot) (.cons (.enter henter) run)

/-- Taking alerts one after the other, and letting others in meanwhile, is a run. -/
theorem exists_run_takeMany (n : Nat) (s : Intake) :
    ∃ trace, Run Step s trace (s.takeMany n).2 ∧ received trace = (s.takeMany n).1 ∧
      arrivals trace = [] := by
  induction n generalizing s with
  | zero => exact ⟨[], .start, rfl, rfl⟩
  | succ n ih =>
      cases h : s.receive? with
      | none =>
          have htake : s.take? = none := by rw [take?, h, Option.map_none]
          simp only [takeMany, htake]
          exact ⟨[], .start, rfl, rfl⟩
      | some taken =>
          obtain ⟨alert, t⟩ := taken
          have htake : s.take? = some (alert, t.refill) := by rw [take?, h, Option.map_some]
          obtain ⟨entering, run, hentering, hquiet⟩ := exists_run_letIn t.waiting.length t
          obtain ⟨trace, rest, hreceived, harrivals⟩ := ih t.refill
          simp only [takeMany, htake]
          refine ⟨.receive alert :: (entering ++ trace), .cons (.receive h) (run.append rest), ?_,
            ?_⟩
          · rw [← List.singleton_append, received_append, received_append, hentering, hreceived]
            rfl
          · rw [← List.singleton_append, arrivals_append, arrivals_append, hquiet, harrivals]
            rfl

end Intake

end PulseBridge
