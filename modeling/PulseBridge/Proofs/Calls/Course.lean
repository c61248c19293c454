import PulseBridge.HeartbeatSink
import PulseBridge.Proofs.Calls

/-!
# The course of a call

A call sends one request, and a further one for every answer that sends it on. What it comes to is
decided by the answer to the last of them. Only a request that is posted can be sent on as a post,
and where answers depend on nothing but the request, it does not matter what was sent before.

## Implementation notes

An answer sends a request on if it names a goal whose scheme can be asked. A goal that cannot be
asked ends the call with a failure, so that no request follows from it.
-/

namespace PulseBridge.Http

/-- Where an answer sends a request on to, if it can be asked for there. -/
def Answer.onward? (sent : Sent) : Answer → Option Net.Url
  | .reply received => (goal? sent.url received).filter (·.isHttp)
  | _ => none

/-- Whether an answer is a plain success that arrives as a whole. -/
def Answer.isAcceptance : Answer → Bool
  | .reply received => received.status.code == 200 && received.body.isOk
  | _ => false

/-! ## One exchange -/

/-- What sends a request on is a reply that names a goal. -/
theorem Answer.reply_of_onward {answer : Answer} {out : Sent} {next : Net.Url}
    (h : answer.onward? out = some next) :
    ∃ received, answer = .reply received ∧ goal? out.url received = some next ∧
      next.isHttp = true := by
  cases answer with
  | reply received =>
      rw [onward?, Option.filter_eq_some_iff] at h
      exact ⟨received, rfl, h⟩
  | refused | closed | unreadable | stalled => simp [onward?] at h

/-- What a call comes to when the answer to a request is the last one. -/
def Answer.ending (origin : Net.Url) (redirects : Nat) (out : Sent) :
    Answer → Except CallError Fetched
  | .refused => .error (.lost origin .refused)
  | .closed => .error (.lost origin .closed)
  | .unreadable fault => .error (.lost origin (.unreadable fault))
  | .stalled => .error (.lost origin .timedOut)
  | .reply received =>
      match goal? out.url received, redirects with
      | none, _ => receive received
      | some _, 0 => .error (.lost { out.url with fragment := none } .tooManyRedirects)
      | some next, _ + 1 => .error (.lost next .badScheme)

theorem isOk_acceptance_receive (received : Reply) :
    (acceptance (receive received)).isOk = (Answer.reply received).isAcceptance := by
  cases hbody : received.body with
  | error fault =>
      simp [receive, hbody, acceptance, Answer.isAcceptance, Except.bind, Except.isOk,
        Except.toBool]
  | ok body =>
      cases hstatus : received.status.code == 200 <;>
        simp [receive, hbody, acceptance, Answer.isAcceptance, Except.bind, Except.isOk,
          Except.toBool, Fetched.requireOk, hstatus, Except.map]

/-- Being sent on makes no post of what was none. -/
theorem Sent.method_redirected {sent : Sent} (h : sent.method ≠ "POST") (status : Status)
    (next : Net.Url) : (sent.redirected status next).method ≠ "POST" := by
  unfold Sent.redirected Sent.fetching
  dsimp only
  repeat' split
  all_goals first
    | exact h
    | simp

/-- A reply that names a goal is no acceptance. -/
theorem isAcceptance_of_goal {url next : Net.Url} {received : Reply}
    (h : goal? url received = some next) : (Answer.reply received).isAcceptance = false := by
  unfold goal? at h
  split at h
  · simp at h
  next hredirect =>
      have hstatus : received.status.code ≠ 200 := by
        intro hok
        simp [isRedirect, hok] at hredirect
      simp [Answer.isAcceptance, hstatus]

/-- An acceptance sends nothing on. -/
theorem onward_of_isAcceptance {answer : Answer} (h : answer.isAcceptance = true) (out : Sent) :
    answer.onward? out = none := by
  cases honward : answer.onward? out with
  | none => rfl
  | some next =>
      obtain ⟨received, rfl, hgoal, -⟩ := Answer.reply_of_onward honward
      rw [isAcceptance_of_goal hgoal] at h
      cases h

/-- A call that ends with an answer has succeeded if the answer is an acceptance. -/
theorem isOk_acceptance_ending (origin : Net.Url) (redirects : Nat) (out : Sent)
    (answer : Answer) :
    (acceptance (answer.ending origin redirects out)).isOk = answer.isAcceptance := by
  cases answer with
  | refused | closed | unreadable | stalled => rfl
  | reply received =>
      cases hgoal : goal? out.url received with
      | none =>
          simp only [Answer.ending, hgoal]
          exact isOk_acceptance_receive received
      | some next =>
          rw [isAcceptance_of_goal hgoal]
          cases redirects <;> simp only [Answer.ending, hgoal] <;> rfl

variable {web : Web} {origin : Net.Url} {redirects : Nat} {previous : Option Net.Url}
variable {earlier : List Sent} {sent : Sent}

/-- A call ends with an answer that sends nothing on. -/
theorem exchange_of_end {out : Sent} (hout : sent.outgoing previous = out)
    (h : redirects = 0 ∨ (web earlier out).onward? out = none) :
    exchange web origin redirects previous earlier sent =
      ((web earlier out).ending origin redirects out, earlier ++ [out]) := by
  have hurl : out.url = sent.url := by rw [← hout, Sent.url_outgoing]
  unfold exchange
  rw [← Sent.outgoing, hout]
  cases hanswer : web earlier out with
  | refused | closed | unreadable | stalled => simp only [hanswer, Answer.ending]
  | reply received =>
      rw [hanswer, Answer.onward?, hurl] at h
      cases hgoal : goal? sent.url received with
      | none => simp only [hanswer, hgoal, Answer.ending, hurl]
      | some next =>
          cases redirects with
          | zero => simp only [hanswer, hgoal, Answer.ending, hurl]
          | succ n =>
              have refused : next.isHttp = false := by simpa [hgoal] using h
              simp [hanswer, hgoal, Answer.ending, hurl, refused]

/-- A call goes on where the answer sends it, as long as it may be sent on. -/
theorem exchange_of_onward {out : Sent} {received : Reply} {next : Net.Url}
    (hout : sent.outgoing previous = out) (hanswer : web earlier out = .reply received)
    (h : (Answer.reply received).onward? out = some next) :
    exchange web origin (redirects + 1) previous earlier sent =
      exchange web origin redirects (some sent.url) (earlier ++ [out])
        (sent.redirected received.status next) := by
  have hurl : out.url = sent.url := by rw [← hout, Sent.url_outgoing]
  rw [Answer.onward?, hurl, Option.filter_eq_some_iff] at h
  obtain ⟨hgoal, hhttp⟩ := h
  rw [exchange, ← Sent.outgoing, hout]
  simp only [hanswer, hgoal, hhttp, if_true]

/-- The course of a call: its request goes out, and is then sent on as often as answers do so, until
one of them ends the call. -/
inductive Course (web : Web) (origin : Net.Url) :
    Nat → Option Net.Url → List Sent → Sent → Except CallError Fetched × List Sent → Prop
  | ends {redirects : Nat} {previous earlier sent}
      (stays : redirects = 0 ∨
        (web earlier (sent.outgoing previous)).onward? (sent.outgoing previous) = none) :
      Course web origin redirects previous earlier sent
        ((web earlier (sent.outgoing previous)).ending origin redirects (sent.outgoing previous),
          earlier ++ [sent.outgoing previous])
  | onward {n previous earlier sent received next result}
      (answer : web earlier (sent.outgoing previous) = .reply received)
      (goal : (Answer.reply received).onward? (sent.outgoing previous) = some next)
      (rest : Course web origin n (some sent.url) (earlier ++ [sent.outgoing previous])
        (sent.redirected received.status next) result) :
      Course web origin (n + 1) previous earlier sent result

theorem course_of_exchange (web : Web) (origin : Net.Url) (redirects : Nat)
    (previous : Option Net.Url) (earlier : List Sent) (sent : Sent) :
    Course web origin redirects previous earlier sent
      (exchange web origin redirects previous earlier sent) := by
  induction redirects generalizing previous earlier sent with
  | zero =>
      rw [exchange_of_end rfl (Or.inl rfl)]
      exact .ends (Or.inl rfl)
  | succ n ih =>
      cases honward : (web earlier (sent.outgoing previous)).onward? (sent.outgoing previous) with
      | none =>
          rw [exchange_of_end rfl (Or.inr honward)]
          exact .ends (Or.inr honward)
      | some next =>
          obtain ⟨received, hanswer, -⟩ := Answer.reply_of_onward honward
          rw [hanswer] at honward
          rw [exchange_of_onward rfl hanswer honward]
          exact .onward hanswer honward (ih ..)

namespace Course

variable {result : Except CallError Fetched × List Sent}

/-- A call sends its first request, and at most so many more. -/
theorem sends (course : Course web origin redirects previous earlier sent result) :
    ∃ more, result.2 = earlier ++ sent.outgoing previous :: more ∧ more.length ≤ redirects := by
  induction course with
  | ends => exact ⟨[], rfl, Nat.zero_le _⟩
  | onward _ _ _ ih =>
      obtain ⟨more, hlog, hlength⟩ := ih
      exact ⟨_ :: more, by rw [hlog, List.append_assoc]; rfl, Nat.succ_le_succ hlength⟩

/-- A call comes to what the answer to the last of its requests makes of it. -/
theorem decided (course : Course web origin redirects previous earlier sent result) :
    ∃ before last left, result.2 = before ++ [last] ∧
      result.1 = (web before last).ending origin left last := by
  induction course with
  | ends => exact ⟨_, _, _, rfl, rfl⟩
  | onward _ _ _ ih => exact ih

/-- A call succeeds exactly when the last of its requests is answered with an acceptance. -/
theorem accepted_iff (course : Course web origin redirects previous earlier sent result) :
    (acceptance result.1).isOk = true ↔
      ∃ before last, result.2 = before ++ [last] ∧ (web before last).isAcceptance = true := by
  obtain ⟨before, last, left, hlog, hresult⟩ := course.decided
  rw [hresult, isOk_acceptance_ending]
  constructor
  · exact fun h => ⟨before, last, hlog, h⟩
  · rintro ⟨before', last', hlog', h⟩
    obtain ⟨rfl, hlast⟩ := List.append_inj' (hlog.symm.trans hlog') rfl
    rwa [List.singleton_inj.mp hlast]

/-- An answer that sends nothing on ends the call. -/
theorem ended (course : Course web origin redirects previous earlier sent result) {out : Sent}
    (hout : sent.outgoing previous = out) (h : (web earlier out).onward? out = none) :
    result = ((web earlier out).ending origin redirects out, earlier ++ [out]) := by
  subst hout
  cases course with
  | ends => rfl
  | onward hanswer hgoal =>
      rw [hanswer, hgoal] at h
      cases h

/-- An answer that sends a request on, while that is allowed, has the call go on at the place where
it is sent. -/
theorem followed {n : Nat} (course : Course web origin (n + 1) previous earlier sent result)
    {out : Sent} (hout : sent.outgoing previous = out) {next : Net.Url}
    (h : (web earlier out).onward? out = some next) :
    ∃ received, web earlier out = .reply received ∧ goal? out.url received = some next ∧
      Course web origin n (some sent.url) (earlier ++ [out])
        (sent.redirected received.status next) result := by
  subst hout
  cases course with
  | ends stays =>
      rcases stays with hlimit | hnone
      · cases hlimit
      · rw [h] at hnone
        cases hnone
  | onward hanswer hgoal rest =>
      obtain ⟨received, hreceived, hnext, -⟩ := Answer.reply_of_onward h
      rw [hanswer, hgoal] at h
      cases h
      cases hreceived.symm.trans hanswer
      exact ⟨_, hanswer, hnext, rest⟩

/-- A call that does not begin with a post sends none. -/
theorem posts_nothing (course : Course web origin redirects previous earlier sent result)
    (h : sent.method ≠ "POST") :
    ∃ more, result.2 = earlier ++ more ∧ ∀ out ∈ more, out.method ≠ "POST" := by
  induction course with
  | ends => exact ⟨_, rfl, by simpa using h⟩
  | @onward _ _ _ sent received next _ _ _ _ ih =>
      obtain ⟨more, hlog, hmore⟩ := ih (sent.method_redirected h received.status next)
      exact ⟨_ :: more, by rw [hlog, List.append_assoc]; rfl, by simpa using ⟨h, hmore⟩⟩

end Course

/-! ## Webs without memory -/

/-- The web in which answers depend on nothing but the request. -/
def Web.steady (reply : Sent → Answer) : Web := fun _ sent => reply sent

/-- Whether, after some requests, the answers to all requests that are no posts depend on nothing
but the request. -/
def Web.FetchesAre (web : Web) (log : List Sent) (reply : Sent → Answer) : Prop :=
  ∀ earlier sent, log <+: earlier → sent.method ≠ "POST" → web earlier sent = reply sent

theorem Web.fetchesAre_steady (reply : Sent → Answer) (log : List Sent) :
    (Web.steady reply).FetchesAre log reply :=
  fun _ _ _ _ => rfl

/-- Where answers depend on nothing but the request, what was sent before makes no difference. -/
theorem exchange_of_fetches {log : List Sent} {reply : Sent → Answer}
    (fetches : web.FetchesAre log reply) (hlog : log <+: earlier) (h : sent.method ≠ "POST")
    (earlier' : List Sent) :
    (exchange web origin redirects previous earlier sent).1 =
      (exchange (.steady reply) origin redirects previous earlier' sent).1 := by
  induction redirects generalizing previous earlier sent earlier' with
  | zero =>
      have same := fetches earlier (sent.outgoing previous) hlog (by simpa using h)
      rw [exchange_of_end rfl (Or.inl rfl), exchange_of_end rfl (Or.inl rfl), same]
      rfl
  | succ n ih =>
      have same := fetches earlier (sent.outgoing previous) hlog (by simpa using h)
      cases honward : (reply (sent.outgoing previous)).onward? (sent.outgoing previous) with
      | none =>
          have stays := same ▸ honward
          rw [exchange_of_end rfl (Or.inr stays), exchange_of_end rfl (Or.inr honward), same]
          rfl
      | some next =>
          obtain ⟨received, hanswer, -⟩ := Answer.reply_of_onward honward
          rw [hanswer] at honward same
          rw [exchange_of_onward rfl same honward, exchange_of_onward rfl hanswer honward]
          exact ih (hlog.trans (List.prefix_append ..)) (sent.method_redirected h _ _) _

/-! ## Calls -/

variable {request : Request} {out : Sent}

/-- A call whose request cannot be built or sent sends nothing and fails. -/
theorem call_of_unbuilt (h : request.first? = none) (web : Web) (earlier : List Sent) :
    ∃ e, call web earlier request = (.error e, earlier) := by
  unfold Request.first? at h
  unfold call
  cases hprepare : request.prepare with
  | error fault => exact ⟨_, rfl⟩
  | ok sent =>
      simp only [hprepare, ite_eq_right_iff, reduceCtorEq, imp_false, Bool.and_eq_true,
        not_and] at h
      dsimp only
      cases hhttp : sent.url.isHttp with
      | false => exact ⟨_, rfl⟩
      | true =>
          have refused : sent.url.isRequestable = false := by simpa using h hhttp
          simp [refused]

/-- Any other call takes its course from its first request. -/
theorem course_of_call (h : request.first? = some out) (web : Web) (earlier : List Sent) :
    ∃ sent, request.prepare = .ok sent ∧ sent.outgoing none = out ∧
      Course web sent.url redirectLimit none earlier sent (call web earlier request) := by
  unfold Request.first? at h
  unfold call
  cases hprepare : request.prepare with
  | error fault => simp [hprepare] at h
  | ok sent =>
      simp only [hprepare, Option.ite_none_right_eq_some, Option.some.injEq,
        Bool.and_eq_true] at h
      obtain ⟨⟨hhttp, hrequestable⟩, hout⟩ := h
      refine ⟨sent, rfl, hout, ?_⟩
      have course := course_of_exchange web sent.url redirectLimit none earlier sent
      simpa [hhttp, hrequestable] using course

/-- A call begins with its request, if that can be built and sent, and sends nothing otherwise. -/
theorem requests_of_call (request : Request) (web : Web) (earlier : List Sent) :
    ∃ asked, (call web earlier request).2 = earlier ++ asked ∧ asked.head? = request.first? := by
  cases hfirst : request.first? with
  | none =>
      obtain ⟨e, hcall⟩ := call_of_unbuilt hfirst web earlier
      exact ⟨[], by rw [hcall, List.append_nil], rfl⟩
  | some out =>
      obtain ⟨sent, -, hout, course⟩ := course_of_call hfirst web earlier
      obtain ⟨more, hlog, -⟩ := course.sends
      exact ⟨_, hlog, congrArg some hout⟩

/-- A call that has sent something comes to what the last answer makes of it. -/
theorem ending_of_call {before : List Sent} {last : Sent}
    (hlog : (call web earlier request).2 = earlier ++ before ++ [last]) :
    ∃ sent left, request.prepare = .ok sent ∧
      (call web earlier request).1 = (web (earlier ++ before) last).ending sent.url left last := by
  cases hfirst : request.first? with
  | none =>
      obtain ⟨e, hcall⟩ := call_of_unbuilt hfirst web earlier
      rw [hcall] at hlog
      simp at hlog
  | some out =>
      obtain ⟨sent, hprepare, -, course⟩ := course_of_call hfirst web earlier
      obtain ⟨before', last', left, hlog', hresult⟩ := course.decided
      obtain ⟨rfl, hlast⟩ := List.append_inj' (hlog'.symm.trans hlog) rfl
      obtain rfl := List.singleton_inj.mp hlast
      exact ⟨sent, left, hprepare, hresult⟩

/-- A plain success that arrives as a whole is what the call comes to. -/
theorem call_of_success {body : Octets} (h : request.first? = some out)
    (success : web earlier out = .reply ⟨.ok, [], .ok body⟩) :
    call web earlier request = (.ok ⟨.ok, body⟩, earlier ++ [out]) := by
  obtain ⟨sent, -, hout, course⟩ := course_of_call h web earlier
  have stays : (web earlier out).onward? out = none := by
    rw [success]
    exact onward_of_isAcceptance rfl out
  rw [course.ended hout stays, success]
  rfl

/-- A call that posts nothing itself leads to no post. -/
theorem call_posts_nothing (h : request.method ≠ "POST") (web : Web) (earlier : List Sent) :
    ∃ more, (call web earlier request).2 = earlier ++ more ∧
      ∀ out ∈ more, out.method ≠ "POST" := by
  cases hfirst : request.first? with
  | none =>
      obtain ⟨e, hcall⟩ := call_of_unbuilt hfirst web earlier
      exact ⟨[], by simp [hcall], by simp⟩
  | some out =>
      obtain ⟨sent, hprepare, -, course⟩ := course_of_call hfirst web earlier
      exact course.posts_nothing (by rwa [method_of_prepare hprepare])

/-- Where answers depend on nothing but the request, a call that posts nothing comes always to the
same. -/
theorem call_of_fetches {log : List Sent} {reply : Sent → Answer}
    (fetches : web.FetchesAre log reply) (hlog : log <+: earlier) (h : request.method ≠ "POST") :
    (call web earlier request).1 = (call (.steady reply) [] request).1 := by
  unfold call
  cases hprepare : request.prepare with
  | error fault => rfl
  | ok sent =>
      have hsent : sent.method ≠ "POST" := by rwa [method_of_prepare hprepare]
      dsimp only
      split
      · rfl
      · split
        · rfl
        · exact exchange_of_fetches fetches hlog hsent []

end PulseBridge.Http
