import PulseBridge.Proofs.HeartbeatLine.Conservation
import PulseBridge.Proofs.ListedChecks
import PulseBridge.Proofs.NudgerLine.Progress

/-!
# What the receiver of heartbeats is sent

A round is a refresh that brings a list, one tick, and whatever follows until every heartbeat has
been delivered. Where the provider answers as it always does and no post is sent on, the posts of a
round are the bodies of the kept checks: three for each that is answered about with a success that
can be read, none for any other, whatever the receiver answers.

## Implementation notes

An `Account` says of the requests since the refresh what the list, the answers and the deliveries
come to, and every step keeps it. What the channel took from each poll is known from the line of
heartbeats, so that only the last part of the way, from the courier to the wire, is new here. The
bodies are told in the order of the posts, each with the position of its check.
-/

namespace PulseBridge

open Http (Answer CallError Fetched Sent Web Posts posts IsReachable)
open Settings (Nudging)

/-- Whether a request posts a heartbeat to an address. -/
def Heartbeat.IsPostedAs (url : String) (h : Heartbeat) (out : Sent) : Prop :=
  Posts url h.encode out

/-- A delivery sends what its post does. -/
theorem Heartbeat.log_deliver (web : Web) (url : String) (earlier : List Sent) (h : Heartbeat) :
    ((heartbeatSink web url).deliver earlier h).2.2 = (Http.call web earlier (h.request url)).2 := by
  simp only [heartbeatSink, Heartbeat.deliver]

namespace HeartbeatLine

variable {σ : Type} {plan : PollPlan} {sink : Sink σ Heartbeat} {s t : HeartbeatLine σ} {e : Event}

@[simp] theorem delivered_append (before after : List Event) :
    delivered (before ++ after) = delivered before ++ delivered after := by
  simp [delivered]

/-- Of what happens on the line only the end of a delivery changes the world, as the sink says. -/
theorem Step.world_eq (step : Step plan sink s e t) (inner : NudgerLine.isInner e = true) :
    (t.station.world = s.station.world ∧ delivered [e] = []) ∨
      ∃ item, delivered [e] = [item] ∧
        t.station.world = (sink.deliver s.station.world item).2.2 := by
  cases step with
  | poll => exact .inl ⟨rfl, rfl⟩
  | pass _ taken =>
      cases taken
      exact .inl ⟨rfl, rfl⟩
  | @serve e station own step =>
      cases step with
      | pick | send | reply | share | drop => exact .inl ⟨rfl, rfl⟩
      | conclude => exact .inr ⟨_, rfl, rfl⟩
      | drift => cases inner
      | accept | join | leave | dismiss | runDry => cases own
  | @close e polls station ends step =>
      cases step with
      | dismiss | runDry => exact .inl ⟨rfl, rfl⟩
      | accept | pick | conclude | send | reply | join | leave | share | drop | drift => cases ends
  | release _ step =>
      cases step
      exact .inl ⟨rfl, rfl⟩

/-- Such an event posts what is delivered, where no post is sent on. -/
theorem Step.posts_eq {web : Web} {url : String} {s t : HeartbeatLine (List Sent)}
    (step : Step plan (heartbeatSink web url) s e t) (inner : NudgerLine.isInner e = true)
    (direct : web.IsDirect) (reachable : IsReachable url) :
    s.station.world <+: t.station.world ∧ ∃ outs,
      posts t.station.world = posts s.station.world ++ outs ∧
      List.Forall₂ (Heartbeat.IsPostedAs url) (delivered [e]) outs := by
  rcases step.world_eq inner with ⟨hworld, nothing⟩ | ⟨item, one, hworld⟩
  · rw [hworld, nothing]
    exact ⟨List.prefix_refl _, [], (List.append_nil _).symm, .nil⟩
  · obtain ⟨out, hout, since, adds⟩ := Http.posts_call_of_post reachable direct
      (.json item.encode) s.station.world
    rw [one]
    rw [hworld, Heartbeat.log_deliver, Heartbeat.request]
    exact ⟨since, [out], adds, .cons hout .nil⟩

end HeartbeatLine

namespace NudgerLine

section Rounds

variable {web : Web} {settings : Nudging} {reply : Sent → Answer} {s t : NudgerLine} {e : Event}
variable {before : List Sent} {checks : List Check} {trace : List Event}

/-- What the requests after the latest refresh tell: the provider answered as it always does, the
checks are still the same, and the heartbeats that have been delivered were posted. -/
structure Account (settings : Nudging) (reply : Sent → Answer) (before : List Sent)
    (checks : List Check) (trace : List Event) (s : NudgerLine) : Prop where
  since : before <+: s.log
  keeps : s.keeper.checks = checks
  ticked : ∀ snapshot ∈ ticks trace, snapshot = checks
  known : ∀ j check answer,
    (j, check, answer) ∈ Polls.answered (HeartbeatLine.ofPolls (onLine trace)) →
      answer = providerAnswer reply settings.pollPlan check
  posted : List.Forall₂ (Heartbeat.IsPostedAs settings.receiverUrl)
    (HeartbeatLine.delivered (onLine trace)) (posts s.log)

/-- An account goes on with what one more event tells. -/
theorem Account.goOn (h : Account settings reply before checks trace s) {outs : List Sent}
    (since : s.log <+: t.log) (keeps : t.keeper = s.keeper)
    (ticked : ∀ snapshot, e.tick? = some snapshot → snapshot = checks)
    (known : ∀ j check answer,
      (j, check, answer) ∈ Polls.answered (HeartbeatLine.ofPolls e.onLine) →
        answer = providerAnswer reply settings.pollPlan check)
    (adds : posts t.log = posts s.log ++ outs)
    (posted : List.Forall₂ (Heartbeat.IsPostedAs settings.receiverUrl)
      (HeartbeatLine.delivered e.onLine) outs) :
    Account settings reply before checks (trace ++ [e]) t where
  since := h.since.trans since
  keeps := by rw [keeps, h.keeps]
  ticked := by
    intro snapshot hmem
    rw [ticks_append, List.mem_append, ticks_singleton, Option.mem_toList] at hmem
    exact hmem.elim (h.ticked snapshot) (ticked snapshot)
  known := by
    intro j check answer hmem
    rw [onLine_append, onLine_singleton, HeartbeatLine.ofPolls_append, Polls.answered_append,
      List.mem_append] at hmem
    exact hmem.elim (h.known j check answer) (known j check answer)
  posted := by
    rw [onLine_append, onLine_singleton, HeartbeatLine.delivered_append, adds]
    exact List.rel_append h.posted posted

/-- What follows a refresh keeps the account, where the answers to fetches depend on nothing but the
request and no post is sent on. -/
theorem Account.step (h : Account settings reply before checks trace s)
    (fetches : web.FetchesAre before reply) (direct : web.IsDirect)
    (reachable : IsReachable settings.receiverUrl) (step : Step web settings s e t)
    (later : e.isRefresh = false) :
    Account settings reply before checks (trace ++ [e]) t := by
  cases step with
  | refresh => cases later
  | tick step =>
      have ticked : ∀ snapshot, (Event.tick s.keeper.checks).tick? = some snapshot →
          snapshot = checks := by
        intro snapshot hsnapshot
        rw [← Option.some.inj hsnapshot, h.keeps]
      refine h.goOn (List.prefix_refl s.log) rfl ticked ?_ (List.append_nil _).symm .nil
      intro j check answer hmem
      cases hmem
  | @answer j check polls step =>
      have wire := Http.posts_call_of_fetch (settings.pollPlan.method_request check) web s.log
      have same := call_request reply settings.pollPlan fetches h.since check
      clear step
      generalize Http.call web s.log (settings.pollPlan.request check) = called at wire same ⊢
      have adds : posts called.2 = posts s.log ++ [] := by rw [wire.2, List.append_nil]
      refine h.goOn wire.1 rfl ?_ ?_ adds .nil
      · intro snapshot hsnapshot
        cases hsnapshot
      · intro k other answer hmem
        cases List.mem_singleton.mp hmem
        rw [same]
  | @line e line inner step =>
      have noTick : ∀ snapshot, (Event.line e).tick? = some snapshot → snapshot = checks := by
        intro snapshot hsnapshot
        cases hsnapshot
      have noAnswer : ∀ j check answer,
          (j, check, answer) ∈ Polls.answered (HeartbeatLine.ofPolls (Event.line e).onLine) →
            answer = providerAnswer reply settings.pollPlan check := by
        intro j check answer hmem
        rw [Event.onLine, (nothing_of_inner inner).2.1] at hmem
        cases hmem
      obtain ⟨since, outs, adds, posted⟩ := step.posts_eq inner direct reachable
      exact h.goOn since rfl noTick noAnswer adds posted

/-- The account is right after every run without a refresh. -/
theorem account_of_run (fetches : web.FetchesAre s.log reply) (direct : web.IsDirect)
    (reachable : IsReachable settings.receiverUrl) (unposted : posts s.log = [])
    (run : Run (Step web settings) s trace t) (later : ∀ e ∈ trace, e.isRefresh = false) :
    Account settings reply s.log s.keeper.checks trace t := by
  induction run with
  | start =>
      refine ⟨List.prefix_refl _, rfl, ?_, ?_, ?_⟩
      · intro snapshot hmem
        cases hmem
      · intro j check answer hmem
        cases hmem
      · rw [unposted]
        exact .nil
  | @snoc trace t e u run last ih =>
      have earlier := ih fun e he => later e (List.mem_append_left _ he)
      exact earlier.step fetches direct reachable last (later e (by simp))

/-- Fetching the list posts nothing. -/
theorem posts_fetchList (web : Web) (source : CheckSource) :
    posts (Http.call web [] source.request).2 = [] :=
  (Http.posts_call_of_fetch (Http.Request.ne_post_of_get rfl) web []).2

/-- What a refresh that brings a list does. -/
theorem refreshed {kept : List Check} {source : CheckSource} {earlier : List Sent}
    (keeper : CheckKeeper) (running : keeper.running = true)
    (brings : (checksOfAnswer (Http.call web earlier source.request).1).1 = .ok kept) :
    (keeper.tick web source earlier).keeper.checks = kept ∧
      (keeper.tick web source earlier).log = (Http.call web earlier source.request).2 := by
  generalize hcall : Http.call web earlier source.request = called at brings ⊢
  simp only [CheckKeeper.tick, running, if_true, CheckSource.fetch, hcall, brings, and_true]
  rfl

/-- A run that begins with a refresh that brings a list goes on with that list, and with the line of
heartbeats as it was. -/
theorem run_after_refresh {handles : Nat} {kept : List Check} {rest : List Event}
    (brings : (checksOfAnswer (Http.call web [] settings.checkSource.request).1).1 = .ok kept)
    (run : Run (Step web settings) (start settings handles) (.refresh :: rest) s) :
    ∃ mid, Run (Step web settings) mid rest s ∧ mid.keeper.checks = kept ∧
      mid.line = .start (settings.pollLimit.map (·.toNat)) settings.room.toNat handles
        (Http.call web [] settings.checkSource.request).2 := by
  rw [← List.nil_append (.refresh :: rest)] at run
  obtain ⟨first, mid, none, step, run⟩ := run.split_at
  cases none.eq_of_nil
  obtain ⟨hkept, hlog⟩ := refreshed (.start []) rfl brings
  refine ⟨mid, run, ?_⟩
  cases step
  have keeper : (start settings handles).keeper = .start [] := rfl
  have unsent : (start settings handles).log = [] := rfl
  dsimp only
  rw [keeper, unsent, hlog]
  exact ⟨hkept, rfl⟩

/-- The polls of a round are those of the checks that the refresh has brought. -/
theorem map_check_of_round {limit : Option Nat} {capacity handles : Nat} {log : List Sent}
    (run : Run (Step web settings) s trace t)
    (begins : s.line = .start limit capacity handles log) (once : (ticks trace).length = 1)
    (ticked : ∀ snapshot ∈ ticks trace, snapshot = checks) :
    t.line.polls.polls.map Poll.check = checks := by
  have onWire := run_onLine run
  rw [begins] at onWire
  obtain ⟨snapshot, hticks⟩ := List.length_eq_one_iff.mp once
  have hsnapshot := ticked snapshot (by rw [hticks]; exact List.mem_singleton.mpr rfl)
  rw [Polls.map_check_of_run (HeartbeatLine.run_polls onWire), ticks_onLine run, hticks,
    List.flatten_singleton, hsnapshot]

/-! ## The bodies -/

/-- The name of a target in the names of heartbeats: that of the application, if it has one that is
not blank. -/
def nameOf (target : String) : Reading → String
  | .application a =>
      match a.name with
      | some name => if Text.isBlankText name then target else name
      | none => target
  | .bare _ => target

/-- The body that carries one figure. -/
def bodyOf (key name label : String) (figure : Float) (ttl : UInt64) (tags : List String) :
    Octets :=
  Json.writeMembers
    [ ("api_key", Json.writeText key),
      ("check", Json.writeText (name ++ ": " ++ label)),
      ("metric", Octets.ofText (Json.numberLayout.text figure)),
      ("ttl", Octets.ofText (toString ttl.toNat)),
      ("tags", Json.writeList (tags.map Json.writeText)) ]

/-- The bodies about a target that the provider has answered about in some way. -/
def bodiesOf (key target : String) (tags : List String) (ttl : UInt64) :
    Except CallError Fetched → List Octets
  | .error _ => []
  | .ok fetched =>
      match fetched.status.isSuccess, Reading.decode fetched.body with
      | true, .ok reading =>
          [ bodyOf key (nameOf target reading) "response time" reading.vitals.responseTime ttl tags,
            bodyOf key (nameOf target reading) "throughput" reading.vitals.throughput ttl tags,
            bodyOf key (nameOf target reading) "error rate" reading.vitals.errorRate ttl tags ]
      | _, _ => []

theorem nameOf_eq (target : String) (reading : Reading) :
    reading.name?.getD target = nameOf target reading := by
  cases reading with
  | bare => rfl
  | application a =>
      obtain ⟨id, name, reporting, vitals⟩ := a
      cases name with
      | none => rfl
      | some name =>
          cases hblank : Text.isBlankText name <;>
            simp [Reading.name?, nameOf, hblank, Option.filter]

/-- The heartbeats that an answer gives, in the form in which they are posted. -/
theorem map_encode_given (plan : PollPlan) (check : Check) (answer : Except CallError Fetched) :
    (plan.given check answer).map Heartbeat.encode =
      bodiesOf check.routingKey check.target check.tags.toList plan.ttl answer := by
  cases answer with
  | error e => rfl
  | ok fetched =>
      rw [PollPlan.given, PollPlan.stageAfter, bodiesOf, PollPlan.heartbeatsOfAnswer,
        Fetched.requireSuccess]
      cases fetched.status.isSuccess with
      | false => rfl
      | true =>
          cases hreading : Reading.decode fetched.body with
          | error e => simp [hreading]
          | ok reading =>
              simp only [if_true, hreading, ← nameOf_eq]
              rfl

/-! ## A round -/

/-- What the channel took from one poll of a tick, once the poll has ended. -/
theorem about_passed {limit : Option Nat} {capacity handles : Nat}
    {line : HeartbeatLine (List Sent)} {told : List HeartbeatLine.Event}
    {sink : Sink (List Sent) Heartbeat} {plan : PollPlan}
    (run : Run (HeartbeatLine.Step plan sink) (.start limit capacity handles before) told line)
    (running : line.station.courier.running = true)
    (known : ∀ j check answer,
      (j, check, answer) ∈ Polls.answered (HeartbeatLine.ofPolls told) →
        answer = providerAnswer reply plan check)
    (calm : Polls.panicked (HeartbeatLine.ofPolls told) = [])
    {j : Nat} {poll : Poll} (found : line.polls.polls[j]? = some poll)
    (ended : poll.stage.isEnded = true) :
    Polls.about j (HeartbeatLine.passed told) =
      plan.given poll.check (providerAnswer reply plan poll.check) := by
  have story := (Polls.account_of_run (HeartbeatLine.run_polls run)).story j poll found
  rw [HeartbeatLine.receiving_of_run run, running] at story
  apply story.sent_eq ended
  · rw [Polls.past, calm, Polls.about_nil]
  · intro check answer hmem
    rw [known j check answer (Polls.mem_about.mp hmem), story.check_eq hmem]

/-- Posts of heartbeats carry their bodies to the address. -/
theorem of_posted {url : String} {hs : List Heartbeat} {outs : List Sent}
    (h : List.Forall₂ (Heartbeat.IsPostedAs url) hs outs) :
    outs.map (·.body) = hs.map Heartbeat.encode ∧
      ∀ out ∈ outs, ∃ address, Http.requestUrl url = .ok address ∧
        out.url = address.takeCredentials.2 := by
  induction h with
  | nil => exact ⟨rfl, List.forall_mem_nil _⟩
  | cons first _ ih =>
      obtain ⟨-, hbody, haddress⟩ := first
      rw [List.map_cons, List.map_cons, hbody, ih.1]
      exact ⟨rfl, List.forall_mem_cons.mpr ⟨haddress, ih.2⟩⟩

theorem about_map {A B : Type} (f : A → B) (j : Nat) (told : List (Nat × A)) :
    Polls.about j (told.map (Prod.map id f)) = (Polls.about j told).map f := by
  simp only [Polls.about, List.filterMap_map, List.map_filterMap]
  congr 1
  funext one
  simp only [Function.comp_apply, Prod.map_fst, Prod.map_snd, id_eq]
  split <;> rfl

/-- What the receiver is sent in a round: a refresh that brings a list, one tick, and whatever
follows until all heartbeats have been delivered. However the polls, the channel and the courier
interleave, and whatever the receiver answers, the posts are bodies of the kept checks, each in the
order of the metrics: three for a check that the provider answers about with a success that can be
read, none for any other. -/
theorem bodies_of_round {handles : Nat} {fetched : Fetched} {listed : List Check}
    {rest : List Event}
    (answers : (Http.call web [] settings.checkSource.request).1 = .ok fetched)
    (succeeds : fetched.status.isSuccess = true)
    (lists : Check.decodeList fetched.body = .ok listed)
    (fetches : web.FetchesAre (Http.call web [] settings.checkSource.request).2 reply)
    (direct : web.IsDirect) (reachable : IsReachable settings.receiverUrl)
    (run : Run (Step web settings) (start settings handles) (.refresh :: rest) s)
    (later : ∀ e ∈ rest, e.isRefresh = false) (once : (ticks rest).length = 1)
    (drained : s.IsDrained) :
    ∃ (wire : List ListedCheck) (told : List (Nat × Octets)),
      ListedCheck.decodeList fetched.body = .ok wire ∧
      told.map Prod.snd = (posts s.log).map (·.body) ∧
      (∀ out ∈ posts s.log, ∃ address, Http.requestUrl settings.receiverUrl = .ok address ∧
        out.url = address.takeCredentials.2) ∧
      (∀ j, (wire.filter (·.isValid)).length ≤ j → Polls.about j told = []) ∧
      ∀ j check, (wire.filter (·.isValid))[j]? = some check →
        ∃ tags : List String,
          tags.Pairwise (fun a b => Octets.ofText a < Octets.ofText b) ∧
          (∀ tag, tag ∈ tags ↔ tag ∈ check.givenTags) ∧
          Polls.about j told =
            bodiesOf (check.routingKey.getD "") check.target tags settings.ttl
              (providerAnswer reply settings.pollPlan check.check) := by
  obtain ⟨wire, hwire, rfl⟩ := ListedCheck.exists_listed lists
  -- The refresh brings the checks that can be polled, and posts nothing.
  have brings : (checksOfAnswer (Http.call web [] settings.checkSource.request).1).1 =
      .ok ((wire.filter (·.isValid)).map (·.check)) := by
    rw [← ListedCheck.keepValid_map, checksOfAnswer_eq_ok]
    exact ⟨fetched, _, answers, succeeds, lists, rfl⟩
  obtain ⟨mid, run, hkeeper, hline⟩ := run_after_refresh brings run
  have hmid : mid.log = (Http.call web [] settings.checkSource.request).2 := by
    rw [log, hline]
    rfl
  have unposted : posts mid.log = [] := by rw [hmid, posts_fetchList]
  have account := account_of_run (hmid ▸ fetches) direct reachable unposted run later
  -- From then on the line of heartbeats has begun with a tick over those checks.
  have whole := map_check_of_round run hline once account.ticked
  rw [hkeeper] at whole
  have onWire := run_onLine run
  rw [hline] at onWire
  have passed := HeartbeatLine.passed_eq onWire drained.running
  rw [drained.queue, drained.hands, List.append_nil, Option.toList_none, List.append_nil] at passed
  obtain ⟨hbodies, haddresses⟩ := of_posted account.posted
  refine ⟨wire, (HeartbeatLine.passed (onLine rest)).map (Prod.map id Heartbeat.encode), hwire, ?_,
    haddresses, ?_, ?_⟩
  · rw [hbodies, ← passed, List.map_map, List.map_map]
    rfl
  · intro j hj
    rw [about_map, ← List.map_nil (f := Heartbeat.encode)]
    have fresh := (Polls.account_of_run (HeartbeatLine.run_polls onWire)).fresh j (by
      rw [← List.length_map (f := Poll.check), whole, List.length_map]
      exact hj)
    exact congrArg _ (congrArg Polls.Past.sent fresh)
  · intro j check hj
    have found : (s.line.polls.polls.map Poll.check)[j]? = some check.check := by
      rw [whole, List.getElem?_map, hj]
      rfl
    rw [List.getElem?_map, Option.map_eq_some_iff] at found
    obtain ⟨poll, hpoll, hcheck⟩ := found
    refine ⟨check.check.tags.toList, check.check.tags.byteIncreasing,
      fun tag => Tags.mem_ofList _, ?_⟩
    rw [about_map, about_passed onWire drained.running account.known (panicked_onLine run) hpoll
      (drained.ended poll (List.mem_of_getElem? hpoll)), hcheck, map_encode_given]
    rfl

end Rounds

/-! ## A round over one check -/

namespace Sole

/-- A nudger all of whose addresses are on this machine. -/
def settings : Nudging :=
  { Nudging.usual with
    checksUrl := "http://[::1]/checks", providerUrl := "http://[::1]/\x7bid\x7d",
    receiverUrl := "http://[::1]/hb" }

/-- The check that is listed. -/
def listed : ListedCheck := ⟨"7", "secret", none, none⟩

/-- The list of one check. -/
def list : Octets :=
  Octets.ofText "[\x7b\"target_id\":7,\"target_credential\":\"secret\"\x7d]"

/-- Some figures. -/
def figures : Octets :=
  Octets.ofText "\x7b\"response_time\":1,\"throughput\":2,\"error_rate\":0\x7d"

/-- What the provider answers. -/
def reply : Sent → Answer := fun _ => .reply ⟨.ok, [], .ok figures⟩

/-- What a receiver answers that is out of order. -/
def broken : Answer := .reply ⟨⟨500, by decide, by decide⟩, [], .ok []⟩

/-- A web that answers the first request with the list and then takes no post. -/
def web : Web := fun earlier out =>
  if earlier.isEmpty then .reply ⟨.ok, [], .ok list⟩
  else if out.method = "POST" then broken else reply out

theorem decodeList_list : ListedCheck.decodeList list = .ok [listed] := by
  have h : (ListedCheck.decodeList list).toOption = some [listed] := by decide
  cases hlist : ListedCheck.decodeList list with
  | error e =>
      rw [hlist] at h
      cases h
  | ok checks =>
      rw [hlist] at h
      exact congrArg Except.ok (Option.some.inj h)

theorem isDirect_web : web.IsDirect := by
  intro earlier out _
  unfold web
  split
  · exact Http.onward_of_isAcceptance rfl out
  · rfl

theorem fetchesAre_web {log : List Sent} (h : log ≠ []) : web.FetchesAre log reply := by
  rintro _ out ⟨more, rfl⟩ hget
  have later : (log ++ more).isEmpty = false := by simp [h]
  simp [web, later, hget]

theorem isReachable_receiver : IsReachable settings.receiverUrl := by
  apply @Http.isReachable_of_isSome _ (.json [])
  decide

/-- The provider gives the figures. -/
theorem providerAnswer_listed :
    providerAnswer reply settings.pollPlan listed.check = .ok ⟨.ok, figures⟩ := by
  obtain ⟨out, first⟩ : ∃ out, (settings.pollPlan.request listed.check).first? = some out := by
    rw [← Option.isSome_iff_exists]
    decide
  rw [providerAnswer, Http.call_of_success first rfl]

end Sole

/-- A check that is answered about gives three posts, even if none of them is taken. -/
theorem bodies_of_sole_round :
    ∃ (rest : List Event) (s : NudgerLine) (told : List (Nat × Octets)),
      Run (Step Sole.web Sole.settings) (start Sole.settings 0) (.refresh :: rest) s ∧
      s.IsDrained ∧ told.map Prod.snd = (posts s.log).map (·.body) ∧
      (Polls.about 0 told).length = 3 ∧ ∀ j, 1 ≤ j → Polls.about j told = [] := by
  obtain ⟨rest, s, run, later, once, drained⟩ :=
    exists_round Sole.web Sole.settings 0 (by decide) (by decide)
  obtain ⟨out, first⟩ : ∃ out, Sole.settings.checkSource.request.first? = some out := by
    rw [← Option.isSome_iff_exists]
    decide
  have called : Http.call Sole.web [] _ = _ := Http.call_of_success first rfl
  obtain ⟨wire, told, hwire, hposts, -, hother, hbodies⟩ :=
    bodies_of_round (congrArg Prod.fst called) rfl
      (show Check.decodeList Sole.list = .ok [Sole.listed.check] by
        rw [ListedCheck.decodeList_eq, Sole.decodeList_list]
        rfl)
      (Sole.fetchesAre_web (by simp [called])) Sole.isDirect_web Sole.isReachable_receiver
      run later once drained
  cases hwire.symm.trans Sole.decodeList_list
  have valid : [Sole.listed].filter (·.isValid) = [Sole.listed] := by decide
  rw [valid] at hother hbodies
  obtain ⟨tags, -, -, habout⟩ := hbodies 0 Sole.listed rfl
  refine ⟨rest, s, told, run, drained, hposts, ?_, hother⟩
  have readable : (Reading.decode Sole.figures).isOk = true := by decide
  rw [habout, Sole.providerAnswer_listed, bodiesOf]
  cases hreading : Reading.decode Sole.figures with
  | error e =>
      rw [hreading] at readable
      cases readable
  | ok reading => rfl

/-! ## The nudger as it runs -/

section Running

variable {web : Web} {settings : Nudging} {reply : Sent → Answer}

/-- A courier posts what it is given, one after the other. -/
theorem posts_deliverAll {url : String} (reachable : IsReachable url) (direct : web.IsDirect)
    (courier : Courier) (earlier : List Sent) (hs : List Heartbeat) :
    ∃ outs, List.Forall₂ (Heartbeat.IsPostedAs url) hs outs ∧
      posts (courier.deliverAll (heartbeatSink web url) earlier hs).2.2 =
        posts earlier ++ outs := by
  induction hs generalizing courier earlier with
  | nil => exact ⟨[], .nil, (List.append_nil _).symm⟩
  | cons h hs ih =>
      obtain ⟨out, hout, -, hposts⟩ :=
        Http.posts_call_of_post reachable direct (.json h.encode) earlier
      obtain ⟨outs, houts, hmore⟩ := ih (courier.deliver (heartbeatSink web url) earlier h).1
        (Http.call web earlier (h.request url)).2
      refine ⟨out :: outs, .cons hout houts, ?_⟩
      have both : posts earlier ++ out :: outs = posts earlier ++ [out] ++ outs :=
        List.append_cons ..
      have sent : (courier.deliver (heartbeatSink web url) earlier h).2.2 =
          (Http.call web earlier (h.request url)).2 := by
        rw [Courier.world_deliver, Heartbeat.log_deliver]
      rw [both, ← hposts, Courier.deliverAll]
      dsimp only
      rw [sent]
      exact hmore

/-- Polling posts nothing. -/
theorem posts_pollEach (web : Web) (plan : PollPlan) (receiving : Bool) (checks : List Check)
    (done : Ticked) :
    posts (pollEach web plan receiving checks done).log = posts done.log := by
  induction checks generalizing done with
  | nil => rfl
  | cons check checks ih =>
      have wire := (Http.posts_call_of_fetch (plan.method_request check) web done.log).2
      rw [Polls.pollEach_cons, ih, Polls.after, wire]

/-- A tick of a nudger polls its checks, and then hands on what they give. -/
theorem log_tick (nudger : Nudger) (polling : nudger.poller = .start) :
    (nudger.tick web).2.1.log =
      (nudger.courier.deliverAll (heartbeatSink web nudger.settings.receiverUrl)
        (pollAll web nudger.settings.pollPlan true nudger.keeper.checks nudger.log).log
        (pollAll web nudger.settings.pollPlan true nudger.keeper.checks nudger.log).sent).2.2 := by
  rw [Nudger.tick, polling]
  rfl

/-- As the nudger runs, a refresh that brings a list and the tick after it post the bodies of the
kept checks, one check after the other. -/
theorem bodies_of_tick {fetched : Fetched} {listed : List Check}
    (answers : (Http.call web [] settings.checkSource.request).1 = .ok fetched)
    (succeeds : fetched.status.isSuccess = true)
    (lists : Check.decodeList fetched.body = .ok listed)
    (fetches : web.FetchesAre (Http.call web [] settings.checkSource.request).2 reply)
    (direct : web.IsDirect) (reachable : IsReachable settings.receiverUrl) :
    (posts (((Nudger.start settings).refreshTick web).1.tick web).2.1.log).map (·.body) =
      (keepValid listed).flatMap fun check =>
        bodiesOf check.routingKey check.target check.tags.toList settings.ttl
          (providerAnswer reply settings.pollPlan check) := by
  have brings : (checksOfAnswer (Http.call web [] settings.checkSource.request).1).1 =
      .ok (keepValid listed) :=
    checksOfAnswer_eq_ok.mpr ⟨fetched, _, answers, succeeds, lists, rfl⟩
  obtain ⟨hkept, hlog⟩ := refreshed (.start []) rfl brings
  obtain ⟨mid, hmid⟩ : ∃ mid, ((Nudger.start settings).refreshTick web).1 = mid := ⟨_, rfl⟩
  obtain ⟨hsettings, hchecks, hbefore, polling⟩ :
      mid.settings = settings ∧ mid.keeper.checks = keepValid listed ∧
        mid.log = (Http.call web [] settings.checkSource.request).2 ∧ mid.poller = .start := by
    rw [← hmid]
    simp only [Nudger.refreshTick, Nudger.start]
    exact ⟨trivial, hkept, hlog, trivial⟩
  obtain ⟨hsent, -⟩ := pollEach_of_fetches reply settings.pollPlan fetches (keepValid listed)
    ⟨.empty, [], [], mid.log⟩ (hbefore ▸ List.prefix_refl _)
  have hposts := posts_pollEach web settings.pollPlan true (keepValid listed)
    ⟨.empty, [], [], mid.log⟩
  rw [hmid, log_tick mid polling, hsettings, hchecks, pollAll]
  obtain ⟨outs, houts, hdelivered⟩ := posts_deliverAll reachable direct mid.courier
    (pollEach web settings.pollPlan true (keepValid listed) ⟨.empty, [], [], mid.log⟩).log
    (pollEach web settings.pollPlan true (keepValid listed) ⟨.empty, [], [], mid.log⟩).sent
  rw [hdelivered, hposts, hbefore, posts_fetchList, List.nil_append, (of_posted houts).1, hsent,
    List.nil_append, List.map_flatMap]
  simp only [map_encode_given]
  rfl

end Running

end NudgerLine

end PulseBridge
