import PulseBridge.Proofs.AlertLine
import PulseBridge.Proofs.Answers
import PulseBridge.Proofs.Calls.Posts
import PulseBridge.Proofs.Messages
import PulseBridge.Proofs.Passage.Conservation

/-!
# What the chat is sent

Every delivery posts one message, and looking something up posts none. So the posts are those of the
alerts that have been delivered, in their order, whatever the chat answers to any of them. Unless an
alert finds the channel full, these are the active alerts in the order in which they came.

## Implementation notes

The message about an alert depends on what was found out about it, and that may depend on all
requests so far. `Chat.Tells` leaves open when the lookup was made, and fixes the rest of the post:
its address, the text in one piece, and a body that is decoded as the message.
-/

namespace PulseBridge

open Http (Answer Sent Web Posts posts IsReachable)
open Relay (Inquiry Response)

/-! ## Lookups -/

/-- Whether looking up posts nothing. -/
def Enricher.IsFetching (enricher : Enricher) : Prop :=
  ∀ alert earlier, ∃ more, (enricher alert earlier).2 = earlier ++ more ∧
    ∀ out ∈ more, out.method ≠ "POST"

namespace Enricher

theorem isFetching_constant (lookup : Lookup) : (constant lookup).IsFetching :=
  fun _ earlier => ⟨[], (List.append_nil earlier).symm, List.forall_mem_nil _⟩

theorem isFetching_none : none.IsFetching := isFetching_constant (.found .none)

/-- Whatever comes of a search, it sends what its call sends. -/
theorem log_mentions (web : Web) (archive : Archive) (watch : List Sent → Watch) (alert : Alert)
    (earlier : List Sent) :
    (mentions web archive watch alert earlier).2 = (archive.lookUp web alert.check earlier).2 := by
  simp only [mentions]

/-- A search posts nothing, whatever comes of it. -/
theorem isFetching_mentions (web : Web) (archive : Archive) (watch : List Sent → Watch) :
    (mentions web archive watch).IsFetching := by
  intro alert earlier
  rw [log_mentions]
  exact Http.call_posts_nothing (Http.Request.ne_post_of_get rfl) web earlier

end Enricher

/-! ## Deliveries -/

namespace Chat

/-- Whether a request posts a message to the chat, in a body that is decoded as the message. -/
structure Brings (chat : Chat) (message : ChatMessage) (out : Sent) : Prop where
  posts : Posts chat.webhook (bodyOf message) out
  carries : Carries message out.body

/-- Whether a request posts to the chat the message about an alert, with the line that looking it up
gave at some time, if it gave one. -/
def Tells (chat : Chat) (enricher : Enricher) (alert : Alert) (out : Sent) : Prop :=
  ∃ earlier,
    chat.Brings ⟨chat.username, alert.announcement (enricher alert earlier).1.line?⟩ out

variable {web : Web} {chat : Chat} {enricher : Enricher}

/-- A delivery sends what its lookup sends, and then what its post does. -/
theorem log_deliver (web : Web) (chat : Chat) (enricher : Enricher) (courier : Courier)
    (earlier : List Sent) (alert : Alert) :
    (courier.deliver (chat.sink web enricher) earlier alert).2.2 =
      (Http.call web (enricher alert earlier).2 (chat.request
        (.ofAlert chat.username alert (enricher alert earlier).1.line?))).2 := by
  rw [Courier.world_deliver]
  simp only [sink, messageFor, post]

/-- A delivery posts the message about its alert, where no post is sent on. -/
theorem posts_deliver (fetching : enricher.IsFetching) (direct : web.IsDirect)
    (reachable : IsReachable chat.webhook) (courier : Courier) (earlier : List Sent)
    (alert : Alert) :
    ∃ out, chat.Tells enricher alert out ∧
      posts (courier.deliver (chat.sink web enricher) earlier alert).2.2 =
        posts earlier ++ [out] := by
  obtain ⟨more, hlog, hmore⟩ := fetching alert earlier
  obtain ⟨out, hout, -, hposts⟩ := Http.posts_call_of_post reachable direct
    (.form [("payload", Octets.lossyText
      (ChatMessage.ofAlert chat.username alert (enricher alert earlier).1.line?).encode)])
    (enricher alert earlier).2
  have brings : chat.Brings (.ofAlert chat.username alert (enricher alert earlier).1.line?) out :=
    ⟨hout, hout.2.1 ▸ carries_bodyOf _⟩
  refine ⟨out, ⟨earlier, ChatMessage.ofAlert_eq .. ▸ brings⟩, ?_⟩
  have before : posts (enricher alert earlier).2 = posts earlier := by
    rw [hlog, Http.posts_append, Http.posts_eq_nil hmore, List.append_nil]
  rw [log_deliver, request, hposts, before]

end Chat

namespace AlertLine

section Runs

variable {web : Web} {chat : Chat} {enricher : Enricher} {s t : AlertLine} {e : Event}
variable {trace : List Event} {room : Nat}

/-- The posts are those of the alerts that have been delivered. -/
theorem posts_eq (fetching : enricher.IsFetching) (direct : web.IsDirect)
    (reachable : IsReachable chat.webhook)
    (run : Run (Step web chat enricher) (start room) trace s) :
    List.Forall₂ (chat.Tells enricher) (delivered trace) (posts s.bridge.log) := by
  induction run with
  | start => exact .nil
  | @snoc trace mid e _ _ last ih =>
      rw [delivered_append, delivered_singleton]
      cases last with
      | pass | pick => simpa [Event.delivered?] using ih
      | @conclude alert held =>
          obtain ⟨out, hout, hposts⟩ := Chat.posts_deliver fetching direct reachable
            mid.bridge.courier mid.bridge.log alert
          have one : List.Forall₂ (chat.Tells enricher) [alert] [out] := .cons hout .nil
          have both : List.Forall₂ (chat.Tells enricher) (delivered trace ++ [alert])
              (posts mid.bridge.log ++ [out]) := List.rel_append ih one
          dsimp only
          rw [hposts]
          exact both

/-- Whether every alert that came has been delivered. -/
structure IsDrained (s : AlertLine) : Prop where
  hands : s.hands = none
  queue : s.bridge.intake.queue = []
  admitted : s.bridge.intake.admitted = []
  waiting : s.bridge.intake.waiting = []

/-- Unless one finds the channel full, the alerts are delivered in the order in which they came. -/
theorem delivered_eq (run : Run (Step web chat enricher) (start room) trace s)
    (unfilled : ∀ e ∈ ofIntake trace, e.foundFull = false) (drained : s.IsDrained) :
    delivered trace = Intake.arrivals (ofIntake trace) := by
  have account := Intake.account_of_run (run_intake run)
  obtain ⟨-, -, hentered⟩ := account.inside unfilled
  have received := received_eq run
  rw [drained.hands, Option.toList_none, List.append_nil] at received
  have order := account.order
  rwa [hentered, drained.queue, List.append_nil, received, eq_comm] at order

/-- What becomes of what is brought to the relay, when everything has been delivered and nothing
found the channel full. However inquiries, the intake and the deliveries interleave, and whatever
the chat answers: the posts are those of the active alerts, one for each, in the order in which the
alerts came; each body that can be read is acknowledged and each other one is refused with the
reason; and it makes no difference to which path a body is brought. -/
theorem posts_of_run (fetching : enricher.IsFetching) (direct : web.IsDirect)
    (reachable : IsReachable chat.webhook)
    (run : Run (Step web chat enricher) (start room) trace s)
    (unfilled : ∀ e ∈ ofIntake trace, e.foundFull = false) (drained : s.IsDrained) :
    List.Forall₂ (chat.Tells enricher)
      (((answered trace).map Prod.fst).filterMap Inquiry.alert?) (posts s.bridge.log) ∧
    (∀ inquiry response, (inquiry, response) ∈ answered trace → inquiry.BringsAlert →
      inquiry.body.length ≤ Relay.bodyLimit →
        (∀ alert, Alert.decode inquiry.body = .ok alert → response = .text 200 "OK") ∧
        ∀ e, Alert.decode inquiry.body = .error e →
          response.status = 400 ∧ response.contentType = some Http.jsonType ∧
          Json.decode Json.readValue response.body =
            .ok (.object [("error", .text ("invalid alert payload: " ++ e.message))])) ∧
    ∀ inquiry other : Inquiry, inquiry.BringsAlert → other.BringsAlert →
      inquiry.body = other.body → ∀ now now' intake,
        Relay.answer now intake inquiry = Relay.answer now' intake other := by
  refine ⟨?_, ?_, ?_⟩
  · rw [← arrivals_ofIntake, ← delivered_eq run unfilled drained]
    exact posts_eq fetching direct reachable run
  · intro inquiry response hmem brings fits
    obtain ⟨now, intake, rfl⟩ := answer_of_answered run hmem
    exact ⟨fun alert => Relay.answer_of_decoded brings fits,
      fun e => Relay.answer_of_undecoded brings fits⟩
  · intro inquiry other brings brings' same now now' intake
    exact Relay.answer_eq_of_body brings brings' same now'

end Runs

/-! ## A run in which one inquiry brings no alert -/

namespace Brief

/-- A chat on this machine. -/
def chat : Chat := ⟨"http://[::1]/hook", "radalert"⟩

/-- A web that is out of order. -/
def web : Web := fun _ _ => .closed

/-- An inquiry that brings nothing. -/
def empty : Inquiry := ⟨"POST", "/integrations/pacemaker", none, []⟩

theorem isReachable_webhook : IsReachable chat.webhook := by
  apply @Http.isReachable_of_isSome _ (.json [])
  decide

/-- The alert that is brought. -/
def alert : Alert := ⟨some "x", "", "", none, none, []⟩

/-- The line while the alert is being delivered. -/
def busy : AlertLine := ⟨⟨.start 1, .start, []⟩, some alert⟩

theorem alert?_pressing : Intake.pressing.alert? = some alert := by decide

theorem alert?_empty : empty.alert? = none := by decide

/-- What is answered to either of the two inquiries. -/
def response (inquiry : Inquiry) : Response := (Relay.answer "" (.start 1) inquiry).1

/-- What is told about the inquiry that brings nothing. -/
def told : List Notice := (Relay.answer "" (.start 1) empty).2.2

/-- The alert comes, is taken up and delivered; meanwhile somebody brings nothing. -/
def trace : List Event :=
  [ .intake (.ask Intake.pressing (response Intake.pressing) []), .intake (.receive alert),
    .intake (.ask empty (response empty) told), .conclude alert ]

theorem unfilled : ∀ e ∈ ofIntake trace, e.foundFull = false := by
  have told : decide (Notice.intakeFull ∈ told) = false :=
    decide_eq_false (Relay.answer_of_no_alert alert?_empty).2
  have each : ofIntake trace = [.ask Intake.pressing (response Intake.pressing) [],
    .receive alert, .ask empty (response empty) Brief.told] := rfl
  rw [each]
  simpa [Intake.Event.foundFull] using told

/-- What brings nothing changes nothing. -/
theorem step_empty :
    Step web chat .none busy (.intake (.ask empty (response empty) told)) busy := by
  have step : Step web chat .none busy _ _ := .pass rfl (.ask "" empty)
  have same : (Relay.answer "" busy.bridge.intake empty).2.1 = busy.bridge.intake :=
    (Relay.answer_of_no_alert alert?_empty).1
  rwa [same] at step

theorem exists_run : ∃ s, Run (Step web chat .none) (start 1) trace s ∧ s.IsDrained := by
  have ask : Step web chat .none (start 1) _ _ :=
    .pass rfl (Intake.step_of_room "" alert?_pressing rfl (by decide))
  have pick : Step web chat .none ⟨⟨⟨1, [alert], [], [], true⟩, .start, []⟩, none⟩ _ busy :=
    .pick rfl rfl (.receive rfl)
  have conclude : Step web chat .none busy _ _ := .conclude rfl
  exact ⟨_, .cons ask (.cons pick (.cons step_empty (.single conclude))), ⟨rfl, rfl, rfl, rfl⟩⟩

end Brief

/-- One inquiry brings an alert, and while that is delivered another one brings nothing. -/
theorem posts_of_brief_run :
    ∃ s out, Run (Step Brief.web Brief.chat .none) (start 1) Brief.trace s ∧ s.IsDrained ∧
      posts s.bridge.log = [out] ∧ Brief.chat.Tells .none Brief.alert out ∧
      Brief.response Intake.pressing = .text 200 "OK" ∧
      (Brief.response Brief.empty).status = 400 := by
  obtain ⟨s, run, drained⟩ := Brief.exists_run
  have direct : Brief.web.IsDirect := fun _ _ _ => rfl
  obtain ⟨posted, answers, -⟩ := posts_of_run Enricher.isFetching_none direct
    Brief.isReachable_webhook run Brief.unfilled drained
  have brought : ((answered Brief.trace).map Prod.fst).filterMap Inquiry.alert? =
      [Brief.alert] := by
    change [Intake.pressing, Brief.empty].filterMap Inquiry.alert? = _
    simp [Brief.alert?_pressing, Brief.alert?_empty]
  rw [brought] at posted
  obtain ⟨out, outs, hout, hnone, houts⟩ := List.forall₂_cons_left_iff.mp posted
  rw [List.forall₂_nil_left_iff.mp hnone] at houts
  obtain ⟨brings, fits, decoded, -⟩ := Relay.Inquiry.alert?_eq_some_iff.mp Brief.alert?_pressing
  have first := answers Intake.pressing _ List.mem_cons_self brings fits
  have second := answers Brief.empty _ (List.mem_cons_of_mem _ List.mem_cons_self)
    ⟨rfl, by decide⟩ (by decide)
  obtain ⟨e, undecoded⟩ : ∃ e, Alert.decode Brief.empty.body = .error e := by
    have unread : (Alert.decode Brief.empty.body).isOk = false := by decide
    cases hdecode : Alert.decode Brief.empty.body with
    | error e => exact ⟨e, rfl⟩
    | ok alert =>
        rw [hdecode] at unread
        cases unread
  exact ⟨s, out, run, drained, houts, hout, first.1 _ decoded, (second.2 e undecoded).1⟩

end AlertLine

end PulseBridge
