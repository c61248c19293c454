import PulseBridge.ChatBridge
import PulseBridge.Proofs.Passage

/-!
# The line of alerts

Inquiries are answered at one end of the intake, and at the other the courier takes up one alert
after the other and posts it to the chat. While it does so, further inquiries may come, and those
outside may be admitted and enter.

## Implementation notes

A run of the line is a run of the intake, so that what holds of every run of the intake holds here.
The bridge as it runs delivers all that has been taken in after every inquiry; that is one of the
runs of the line, as `exists_run_handle` says.
-/

namespace PulseBridge

open Http (Sent Web)
open Relay (Inquiry Response)

/-- The bridge, and the alert that its courier is delivering. -/
structure AlertLine where
  bridge : ChatBridge
  hands : Option Alert

namespace AlertLine

/-- Before the first inquiry. -/
def start (room : Nat) : AlertLine := ⟨.start room, none⟩

/-- What happens on the line. -/
inductive Event where
  /-- Something at the intake. An alert that is received is taken up by the courier. -/
  | intake (e : Intake.Event)
  /-- A delivery ends. -/
  | conclude (alert : Alert)

/-- What happens on the line at once. -/
inductive Step (web : Web) (chat : Chat) (enricher : Enricher) :
    AlertLine → Event → AlertLine → Prop
  | pass {s e intake} (own : e.received? = none)
      (step : Intake.Step s.bridge.intake e intake) :
      Step web chat enricher s (.intake e) { s with bridge := { s.bridge with intake } }
  | pick {s alert intake} (running : s.bridge.courier.running = true) (free : s.hands = none)
      (step : Intake.Step s.bridge.intake (.receive alert) intake) :
      Step web chat enricher s (.intake (.receive alert))
        ⟨{ s.bridge with intake }, some alert⟩
  | conclude {s alert} (held : s.hands = some alert) :
      Step web chat enricher s (.conclude alert)
        ⟨{ s.bridge with
          courier := (s.bridge.courier.deliver (chat.sink web enricher) s.bridge.log alert).1
          log := (s.bridge.courier.deliver (chat.sink web enricher) s.bridge.log alert).2.2 },
          none⟩

/-! ## What a trace tells -/

/-- What an event is at the intake. -/
def Event.ofIntake? : Event → Option Intake.Event
  | .intake e => some e
  | .conclude _ => none

/-- The alert that has been delivered. -/
def Event.delivered? : Event → Option Alert
  | .conclude alert => some alert
  | .intake _ => none

/-- The inquiry that is answered, with its answer. -/
def Event.answered? : Event → Option (Inquiry × Response)
  | .intake (.ask inquiry response _) => some (inquiry, response)
  | _ => none

/-- What happened at the intake. -/
def ofIntake (trace : List Event) : List Intake.Event := trace.filterMap Event.ofIntake?

/-- The alerts that have been delivered, in their order. -/
def delivered (trace : List Event) : List Alert := trace.filterMap Event.delivered?

/-- The inquiries and their answers, in their order. -/
def answered (trace : List Event) : List (Inquiry × Response) :=
  trace.filterMap Event.answered?

@[simp] theorem ofIntake_append (before after : List Event) :
    ofIntake (before ++ after) = ofIntake before ++ ofIntake after :=
  List.filterMap_append

@[simp] theorem delivered_append (before after : List Event) :
    delivered (before ++ after) = delivered before ++ delivered after :=
  List.filterMap_append

@[simp] theorem answered_append (before after : List Event) :
    answered (before ++ after) = answered before ++ answered after :=
  List.filterMap_append

@[simp] theorem ofIntake_singleton (e : Event) : ofIntake [e] = e.ofIntake?.toList :=
  filterMap_single ..

@[simp] theorem delivered_singleton (e : Event) : delivered [e] = e.delivered?.toList :=
  filterMap_single ..

@[simp] theorem answered_singleton (e : Event) : answered [e] = e.answered?.toList :=
  filterMap_single ..

/-- The alerts that came are those that the inquiries brought. -/
theorem arrivals_ofIntake (trace : List Event) :
    Intake.arrivals (ofIntake trace) =
      ((answered trace).map Prod.fst).filterMap Inquiry.alert? := by
  induction trace with
  | nil => rfl
  | cons e trace ih =>
      rw [← List.singleton_append, ofIntake_append, Intake.arrivals_append, ih, answered_append,
        List.map_append, List.filterMap_append]
      congr 1
      rcases e with ⟨_ | _ | _ | _⟩ | _ <;> rfl

variable {web : Web} {chat : Chat} {enricher : Enricher} {s t : AlertLine} {e : Event}
variable {trace : List Event}

/-- A run of the line is a run of the intake. -/
theorem run_intake (run : Run (Step web chat enricher) s trace t) :
    Run Intake.Step s.bridge.intake (ofIntake trace) t.bridge.intake := by
  apply run.project (·.bridge.intake) Event.ofIntake?
  intro s e t step
  cases step with
  | pass _ step | pick _ _ step => exact .inr ⟨_, rfl, step⟩
  | conclude => exact .inl ⟨rfl, rfl⟩

/-- What has been taken up has been delivered or is being delivered. -/
theorem received_eq {room : Nat} (run : Run (Step web chat enricher) (start room) trace s) :
    Intake.received (ofIntake trace) = delivered trace ++ s.hands.toList := by
  induction run with
  | start => rfl
  | snoc _ last ih =>
      rw [ofIntake_append, Intake.received_append, delivered_append, ih]
      cases last with
      | pass own => simp [Event.ofIntake?, Event.delivered?, own]
      | pick _ free => simp [Event.ofIntake?, Event.delivered?, Intake.Event.received?, free]
      | conclude held =>
          simp [Event.ofIntake?, Event.delivered?, Intake.received, held]

/-- Inquiries are answered as the relay answers them. -/
theorem answer_of_answered {inquiry : Inquiry} {response : Response}
    (run : Run (Step web chat enricher) s trace t) (h : (inquiry, response) ∈ answered trace) :
    ∃ now intake, response = (Relay.answer now intake inquiry).1 := by
  induction run with
  | start => cases h
  | snoc _ last ih =>
      rw [answered_append, List.mem_append, answered_singleton, Option.mem_toList] at h
      refine h.elim ih fun h => ?_
      cases last with
      | pass _ step =>
          cases step with
          | ask now inquiry =>
              cases h
              exact ⟨now, _, rfl⟩
          | allot | enter | receive => cases h
      | pick | conclude => cases h

/-! ## The bridge as it runs -/

/-- What happens at the intake while nothing is taken up happens on the line. -/
theorem run_of_intake {told : List Intake.Event} {intake : Intake}
    (run : Run Intake.Step s.bridge.intake told intake) (quiet : Intake.received told = []) :
    Run (Step web chat enricher) s (told.map .intake)
      { s with bridge := { s.bridge with intake } } := by
  induction run with
  | start => exact .start
  | @snoc told mid e intake _ last ih =>
      rw [Intake.received_append, Intake.received_singleton, List.append_eq_nil_iff] at quiet
      rw [List.map_append]
      have own : e.received? = none := by simpa using quiet.2
      exact (ih quiet.1).snoc (.pass own last)

/-- Delivering all that can be taken is a run. -/
theorem exists_run_deliverEach (n : Nat) (bridge : ChatBridge)
    (running : bridge.courier.running = true) :
    ∃ trace, Run (Step web chat enricher) ⟨bridge, none⟩ trace
        ⟨(ChatBridge.deliverEach (chat.sink web enricher) (bridge.intake.takeMany n).1
          { bridge with intake := (bridge.intake.takeMany n).2 }).1, none⟩ ∧
      Intake.arrivals (ofIntake trace) = [] := by
  induction n generalizing bridge with
  | zero => exact ⟨[], .start, rfl⟩
  | succ n ih =>
      cases h : bridge.intake.receive? with
      | none =>
          have htake : bridge.intake.take? = none := by rw [Intake.take?, h, Option.map_none]
          simp only [Intake.takeMany, htake]
          exact ⟨[], .start, rfl⟩
      | some taken =>
          obtain ⟨alert, intake⟩ := taken
          have htake : bridge.intake.take? = some (alert, intake.refill) := by
            rw [Intake.take?, h, Option.map_some]
          obtain ⟨told, entering, quiet, nobody⟩ :=
            Intake.exists_run_letIn intake.waiting.length intake
          generalize hcourier :
            (bridge.courier.deliver (chat.sink web enricher) bridge.log alert).1 = courier
          generalize hlog :
            (bridge.courier.deliver (chat.sink web enricher) bridge.log alert).2.2 = log
          have still : courier.running = true := by
            rw [← hcourier]
            exact running
          obtain ⟨trace, rest, later⟩ := ih ⟨intake.refill, courier, log⟩ still
          -- The first alert is taken up and delivered, others enter, and then the rest goes on.
          have pick : Step web chat enricher ⟨bridge, none⟩ _ _ :=
            .pick running rfl (.receive h)
          have conclude : Step web chat enricher ⟨{ bridge with intake }, some alert⟩ _ _ :=
            .conclude rfl
          rw [hcourier, hlog] at conclude
          have enter : Run (Step web chat enricher) ⟨⟨intake, courier, log⟩, none⟩
              (told.map .intake) ⟨⟨intake.refill, courier, log⟩, none⟩ :=
            run_of_intake entering quiet
          have first : (ChatBridge.deliverEach (chat.sink web enricher)
                (bridge.intake.takeMany (n + 1)).1
                { bridge with intake := (bridge.intake.takeMany (n + 1)).2 }).1 =
              (ChatBridge.deliverEach (chat.sink web enricher) (intake.refill.takeMany n).1
                ⟨(intake.refill.takeMany n).2, courier, log⟩).1 := by
            simp only [Intake.takeMany, htake, ChatBridge.deliverEach, hcourier, hlog]
          rw [first]
          refine ⟨_, .cons pick (.cons conclude (enter.append rest)), ?_⟩
          have same : ofIntake (told.map .intake) = told := by
            simp [ofIntake, List.filterMap_map, Function.comp_def, Event.ofIntake?]
          have nothing : Intake.arrivals (ofIntake (told.map .intake ++ trace)) = [] := by
            rw [ofIntake_append, Intake.arrivals_append, same, nobody, later, List.append_nil]
          exact nothing

/-- The bridge that answers an inquiry, and delivers what it has brought, is at work on the line. -/
theorem exists_run_handle (now : String) (bridge : ChatBridge)
    (running : bridge.courier.running = true) (inquiry : Inquiry) :
    ∃ notices trace, Run (Step web chat enricher) ⟨bridge, none⟩
        (.intake (.ask inquiry (bridge.handle now web chat enricher inquiry).1 notices) :: trace)
        ⟨(bridge.handle now web chat enricher inquiry).2.1, none⟩ ∧
      Intake.arrivals (ofIntake trace) = [] := by
  have ask : Step web chat enricher ⟨bridge, none⟩ _ _ := .pass rfl (.ask now inquiry)
  unfold ChatBridge.handle ChatBridge.answer ChatBridge.deliverAll Intake.takeAll
  generalize Relay.answer now bridge.intake inquiry = answered at ask ⊢
  obtain ⟨response, intake, notices⟩ := answered
  obtain ⟨trace, rest, later⟩ := @exists_run_deliverEach web chat enricher
    (intake.queued + intake.waiting.length) { bridge with intake } running
  exact ⟨notices, trace, .cons ask rest, later⟩

end AlertLine

end PulseBridge
