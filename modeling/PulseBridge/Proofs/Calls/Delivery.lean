import PulseBridge.ChatSink
import PulseBridge.Proofs.Calls.Course

/-!
# What a delivery sends

A heartbeat is posted as JSON to its receiver, an alert as a form to the chat's webhook. A delivery
begins with that post, if it can be built, and sends nothing otherwise. It ends with it unless the
answer sends it on; then further requests follow, and it is the answer to the last of them that
decides whether the delivery counts as one.

## Main statements

* `requests_of_delivery`: what a delivery sends, and when it counts as one, for every web.
* `delivered_elsewhere`: a delivery may count as one although its post was not accepted and nothing
  else of what it sent carries the item.
-/

namespace PulseBridge

open Http

namespace Http

/-! ## Being sent on -/

section Redirected

variable {sent : Sent} {status : Status} {next : Net.Url}

theorem Sent.url_redirected (sent : Sent) (status : Status) (next : Net.Url) :
    (sent.redirected status next).url = next := by
  unfold Sent.redirected Sent.fetching
  dsimp only
  repeat' split
  all_goals rfl

/-- A post that is sent on to see another page becomes a fetch, and its body is lost. -/
theorem Sent.redirected_of_fetched (hpost : sent.method = "POST")
    (h : status.code ∈ [301, 302, 303]) (next : Net.Url) :
    (sent.redirected status next).method = "GET" ∧ (sent.redirected status next).body = [] := by
  simp only [List.mem_cons, List.not_mem_nil, or_false] at h
  unfold Sent.redirected
  rcases h with hcode | hcode | hcode <;> simp [hcode, hpost, Sent.fetching]

/-- Being sent on announces no end of a body. -/
theorem Sent.IsPlain.redirected (h : sent.IsPlain) (status : Status) (next : Net.Url) :
    (sent.redirected status next).IsPlain := by
  have there : ({ sent with url := next } : Sent).IsPlain := h
  unfold Sent.redirected
  dsimp only
  repeat' split
  all_goals first
    | exact there
    | exact there.fetching _

/-- Any other way of being sent on changes nothing but the place. -/
theorem Sent.redirected_of_repeated (h : status.code ∈ [307, 308]) :
    sent.redirected status next = { sent with url := next } := by
  simp only [List.mem_cons, List.not_mem_nil, or_false] at h
  unfold Sent.redirected
  rcases h with hcode | hcode <;> simp [hcode]

/-- What sends a request on asks for a fetch or for the same again. -/
theorem isRedirect_iff :
    isRedirect status = true ↔ status.code ∈ [301, 302, 303] ∨ status.code ∈ [307, 308] := by
  rw [isRedirect, List.contains_iff_mem]
  simp only [List.mem_cons, List.not_mem_nil, or_false]
  omega

theorem isRedirect_of_goal {url : Net.Url} {received : Reply}
    (h : goal? url received = some next) : isRedirect received.status = true := by
  unfold goal? at h
  split at h
  · simp at h
  next hredirect => simpa using hredirect

end Redirected

/-! ## Posts -/

/-- A post goes out exactly if its URL names a host and can be asked for. -/
theorem exists_first?_post (url : String) (body : Body) :
    (∃ out, (Request.post url body).first? = some out) ↔
      ∃ address, requestUrl url = .ok address ∧ address.takeCredentials.2.isHttp = true ∧
        address.takeCredentials.2.isRequestable = true := by
  unfold Request.first?
  cases haddress : requestUrl url with
  | error fault => simp [prepare_post_error haddress]
  | ok address =>
      obtain ⟨sent, hprepare, -, hurl, -⟩ := prepare_post haddress body
      simp [hprepare, hurl]

variable {web : Web} {earlier : List Sent} {request : Request} {out : Sent}

/-- A call whose first request is not sent on comes to the answer to it. -/
theorem call_of_end (h : request.first? = some out)
    (hstays : (web earlier out).onward? out = none) :
    (call web earlier request).2 = earlier ++ [out] ∧
      (acceptance (call web earlier request).1).isOk = (web earlier out).isAcceptance := by
  obtain ⟨sent, -, hout, course⟩ := course_of_call h web earlier
  rw [course.ended hout hstays]
  exact ⟨rfl, isOk_acceptance_ending ..⟩

/-- A post that is sent on is followed by a request at the place where it is sent: by a fetch
without a body, or by the same post. -/
theorem call_of_onward {url : String} {body : Body}
    (h : (Request.post url body).first? = some out) {next : Net.Url}
    (honward : (web earlier out).onward? out = some next) :
    ∃ received second more, web earlier out = .reply received ∧
      (call web earlier (.post url body)).2 = earlier ++ out :: second :: more ∧
      second.url = next ∧
      (received.status.code ∈ [301, 302, 303] ∧ second.method = "GET" ∧ second.body = [] ∨
        received.status.code ∈ [307, 308] ∧ second.method = "POST" ∧
          second.body = Body.octets (some body)) := by
  obtain ⟨sent, hprepare, hout, course⟩ := course_of_call h web earlier
  obtain ⟨_, -, -, hmethod, hbody, hplain⟩ := of_prepare_post hprepare
  obtain ⟨received, hanswer, hgoal, rest⟩ := course.followed hout honward
  obtain ⟨more, hlog, -⟩ := rest.sends
  refine ⟨received, _, more, hanswer, by rw [hlog, List.append_assoc]; rfl, ?_, ?_⟩
  · rw [Sent.url_outgoing, Sent.url_redirected]
  · rcases isRedirect_iff.mp (isRedirect_of_goal hgoal) with hcode | hcode
    · obtain ⟨hfetch, hempty⟩ := Sent.redirected_of_fetched hmethod hcode next
      refine .inl ⟨hcode, ?_, ?_⟩
      · rw [Sent.method_outgoing, hfetch]
      · rw [Sent.body_outgoing (hplain.redirected ..), hempty]
    · refine .inr ⟨hcode, ?_, ?_⟩
      · rw [Sent.method_outgoing, Sent.redirected_of_repeated hcode, hmethod]
      · rw [Sent.body_outgoing (hplain.redirected ..), Sent.redirected_of_repeated hcode, hbody]

/-- A call that is sent on succeeds if whatever is asked for next is accepted. -/
theorem isOk_of_onward (h : request.first? = some out) {next : Net.Url}
    (honward : (web earlier out).onward? out = some next)
    (accepts : ∀ sent, (web (earlier ++ [out]) sent).isAcceptance = true) :
    (acceptance (call web earlier request).1).isOk = true := by
  obtain ⟨sent, -, hout, course⟩ := course_of_call h web earlier
  obtain ⟨received, -, -, rest⟩ := course.followed hout honward
  rw [rest.ended rfl (onward_of_isAcceptance (accepts _) _), isOk_acceptance_ending]
  exact accepts _

end Http

/-! ## Deliveries -/

/-- Something to be delivered, with the place where it is to be delivered. -/
inductive Parcel where
  | heartbeat (url : String) (h : Heartbeat)
  | alert (chat : Chat) (item : Alert)

namespace Parcel

/-- Where it is to be delivered. -/
def url : Parcel → String
  | .heartbeat url _ => url
  | .alert chat _ => chat.webhook

/-- What is to be handed over: a heartbeat, or the message about an alert of which nothing more was
found out. -/
def content : Parcel → Body
  | .heartbeat _ h => .json h.encode
  | .alert chat item =>
      .form [("payload", Octets.lossyText (ChatMessage.ofAlert chat.username item none).encode)]

/-- The post that hands it over. -/
def request (parcel : Parcel) : Request := .post parcel.url parcel.content

/-- Deliver it. -/
def deliver (web : Web) (earlier : List Sent) :
    Parcel → Outcome Delivery × List Notice × List Sent
  | .heartbeat url h => (heartbeatSink web url).deliver earlier h
  | .alert chat item => (chat.sink web .none).deliver earlier item

/-- A delivery is a call that posts. -/
theorem deliver_eq (parcel : Parcel) (web : Web) (earlier : List Sent) :
    parcel.deliver web earlier =
      (.finished (.ofCall (acceptance (call web earlier parcel.request).1)), [],
        (call web earlier parcel.request).2) := by
  cases parcel with
  | heartbeat => simp only [deliver, heartbeatSink, Heartbeat.deliver, Heartbeat.request, request,
      url, content]
  | alert => simp only [deliver, Chat.sink, Chat.messageFor, Enricher.none, Lookup.line?,
      Lookup.notices, Chat.post, Chat.request, request, url, content]

end Parcel

theorem Delivery.succeeded_ofCall (answer : Except CallError Status) :
    (Delivery.ofCall answer).succeeded = answer.isOk := by
  cases answer <;> rfl

/-- What a delivery sends and when it counts as one. It begins with a post of the item to its
address if there is such a post, and sends nothing otherwise. If the answer to the post sends nothing
on, the post is all that is sent, and the delivery counts exactly if the post itself was accepted. An
answer that does send it on is no acceptance; a further request follows, which carries the item only
if the same is asked for again, and whether the delivery counts is up to the answer to the last. -/
theorem requests_of_delivery (parcel : Parcel) (web : Web) (earlier : List Sent) :
    ∃ delivery log, parcel.deliver web earlier = (.finished delivery, [], log) ∧
      ((∃ out, parcel.request.first? = some out) ↔
        ∃ address, requestUrl parcel.url = .ok address ∧
          address.takeCredentials.2.isHttp = true ∧
          address.takeCredentials.2.isRequestable = true) ∧
      (parcel.request.first? = none → log = earlier ∧ delivery.succeeded = false) ∧
      ∀ out, parcel.request.first? = some out →
        out.method = "POST" ∧ out.body = Body.octets (some parcel.content) ∧
        (∃ address, requestUrl parcel.url = .ok address ∧ out.url = address.takeCredentials.2) ∧
        (∃ more, log = earlier ++ out :: more ∧ more.length ≤ redirectLimit) ∧
        (delivery.succeeded = true ↔
          ∃ before last, log = before ++ [last] ∧ (web before last).isAcceptance = true) ∧
        ((web earlier out).onward? out = none →
          log = earlier ++ [out] ∧ delivery.succeeded = (web earlier out).isAcceptance) ∧
        ∀ next, (web earlier out).onward? out = some next →
          (web earlier out).isAcceptance = false ∧
          ∃ received second more, web earlier out = .reply received ∧
            log = earlier ++ out :: second :: more ∧ second.url = next ∧
            (received.status.code ∈ [301, 302, 303] ∧ second.method = "GET" ∧ second.body = [] ∨
              received.status.code ∈ [307, 308] ∧ second.method = "POST" ∧
                second.body = out.body) := by
  refine ⟨_, _, parcel.deliver_eq web earlier, exists_first?_post _ _, ?_, ?_⟩
  · intro hnone
    obtain ⟨e, hcall⟩ := call_of_unbuilt hnone web earlier
    rw [hcall]
    exact ⟨rfl, rfl⟩
  · intro out hfirst
    obtain ⟨hmethod, hbody, haddress⟩ := first?_post hfirst
    obtain ⟨sent, -, hout, course⟩ := course_of_call hfirst web earlier
    refine ⟨hmethod, hbody, haddress, ?_, ?_, ?_, ?_⟩
    · rw [← hout]
      exact course.sends
    · rw [Delivery.succeeded_ofCall]
      exact course.accepted_iff
    · intro hstays
      rw [Delivery.succeeded_ofCall]
      exact call_of_end hfirst hstays
    · intro next honward
      rw [hbody]
      refine ⟨?_, call_of_onward hfirst honward⟩
      rw [Bool.eq_false_iff]
      intro haccepted
      rw [onward_of_isAcceptance haccepted] at honward
      cases honward

/-! ## A delivery that did not reach its address -/

namespace Elsewhere

/-- A heartbeat for a receiver on this machine. -/
def parcel : Parcel :=
  .heartbeat "http://[::1]/hb" ⟨"def", "shop: throughput", 3.4, 0, ["prod"]⟩

/-- A page that has moved. -/
def moved : Status := ⟨302, by decide, by decide⟩

/-- A web in which the first request is sent on to another page and every other is accepted. -/
def web : Web := fun earlier _ =>
  if earlier.isEmpty then .reply ⟨moved, [⟨"location", "/x"⟩], .ok []⟩ else .reply ⟨.ok, [], .ok []⟩

/-- The address of the parcel. -/
def address : Net.Url :=
  ⟨"http", some ⟨"", none, some (.ipv6 ⟨[0, 0, 0, 0, 0, 0, 0, 1], rfl⟩), none⟩, .steps ["hb"],
    none, none⟩

theorem requestUrl_url : requestUrl parcel.url = .ok address := by
  have h : (requestUrl parcel.url).toOption = some address := by decide
  cases hurl : requestUrl parcel.url with
  | error fault =>
      rw [hurl] at h
      cases h
  | ok url =>
      rw [hurl] at h
      exact congrArg Except.ok (Option.some.inj h)

/-- The heartbeat counts as delivered although its post was not accepted and is not all that was
sent. -/
theorem delivered_elsewhere :
    ∃ out delivery log, parcel.request.first? = some out ∧
      parcel.deliver web [] = (.finished delivery, [], log) ∧
      delivery.succeeded = true ∧ (web [] out).isAcceptance = false ∧ log ≠ [out] := by
  have built : ∃ out, parcel.request.first? = some out :=
    (exists_first?_post parcel.url parcel.content).mpr
      ⟨address, requestUrl_url, by decide, by decide⟩
  obtain ⟨out, hfirst⟩ := built
  have houtUrl : out.url = address := by
    obtain ⟨-, -, _, haddress, hurl⟩ := first?_post hfirst
    rw [requestUrl_url] at haddress
    cases haddress
    rw [hurl]
    decide
  have honward : (web [] out).onward? out = some { address with path := .steps ["x"] } := by
    simp only [web, List.isEmpty_nil, if_true, Answer.onward?, houtUrl]
    decide
  refine ⟨out, _, _, hfirst, parcel.deliver_eq web [], ?_, rfl, ?_⟩
  · rw [Delivery.succeeded_ofCall]
    exact isOk_of_onward hfirst honward fun sent => rfl
  · obtain ⟨_, second, more, -, hlog, -⟩ := call_of_onward hfirst honward
    rw [show parcel.request = .post parcel.url parcel.content from rfl, hlog]
    simp

end Elsewhere

end PulseBridge
