import Mathlib.Data.List.Forall2
import PulseBridge.Proofs.Calls.Posts

/-!
# Calls that are answered alike

Two posts to one address go the same way as long as they get the same answers, whatever their bodies
hold and whatever was sent before them: they ask for the same things in the same order, and come to
the same result. What decides how a call goes on is where its requests go and what is answered to
them.

## Main statements

* `alike_of_posts`: posts to one URL that are answered alike take the same course.
* `success_iff`: a call comes to a success exactly if the last of its requests is answered with one.
-/

namespace PulseBridge.Http

/-- Whether two requests ask for the same thing in the same way. -/
structure Sent.Alike (a b : Sent) : Prop where
  method : a.method = b.method
  url : a.url = b.url

/-- Whether the requests of two calls, one after some earlier requests and one after others, get the
same answers, the first as the first and so on, as far as there are as many of both. -/
def AnsweredAlike (web web' : Web) : List Sent → List Sent → List Sent → List Sent → Prop
  | earlier, earlier', out :: more, out' :: more' =>
      web earlier out = web' earlier' out' ∧
        AnsweredAlike web web' (earlier ++ [out]) (earlier' ++ [out']) more more'
  | _, _, _, _ => True

/-- Where every request gets one answer, calls are answered alike. -/
theorem answeredAlike_constant (answer : Answer) (earlier earlier' asked asked' : List Sent) :
    AnsweredAlike (fun _ _ => answer) (fun _ _ => answer) earlier earlier' asked asked' := by
  induction asked generalizing earlier earlier' asked' with
  | nil => trivial
  | cons out more ih =>
      cases asked' with
      | nil => trivial
      | cons out' more' => exact ⟨rfl, ih ..⟩

theorem Sent.method_redirected_eq {sent sent' : Sent} (h : sent.method = sent'.method)
    (status : Status) (next : Net.Url) :
    (sent.redirected status next).method = (sent'.redirected status next).method := by
  unfold Sent.redirected Sent.fetching
  dsimp only
  rw [h]
  split
  · split <;> rfl
  · split <;> rfl
  · rfl
  · rfl

namespace Sent.Alike

variable {sent sent' : Sent}

theorem outgoing (h : sent.Alike sent') (previous : Option Net.Url) :
    (sent.outgoing previous).Alike (sent'.outgoing previous) where
  method := by simpa using h.method
  url := by simpa using h.url

/-- Requests that are alike are alike where they are sent on to. -/
theorem redirected (h : sent.Alike sent') (status : Status) (next : Net.Url) :
    (sent.redirected status next).Alike (sent'.redirected status next) where
  method := Sent.method_redirected_eq h.method status next
  url := by rw [Sent.url_redirected, Sent.url_redirected]

end Sent.Alike

variable {web web' : Web} {origin : Net.Url} {redirects : Nat} {previous : Option Net.Url}
variable {earlier earlier' : List Sent} {sent sent' : Sent}
variable {result result' : Except CallError Fetched × List Sent}

/-- What an answer makes of a request depends only on where that went. -/
theorem Sent.Alike.ending_eq (h : sent.Alike sent') (answer : Answer) :
    answer.ending origin redirects sent = answer.ending origin redirects sent' := by
  cases answer with
  | reply received => simp only [Answer.ending, h.url]
  | refused | closed | unreadable | stalled => rfl

theorem Sent.Alike.onward_eq (h : sent.Alike sent') (answer : Answer) :
    answer.onward? sent = answer.onward? sent' := by
  cases answer with
  | reply received => simp only [Answer.onward?, h.url]
  | refused | closed | unreadable | stalled => rfl

/-- Calls whose first requests are alike take the same course as long as they are answered alike.
The induction is on the course of the first; the answers decide that the second follows it. -/
theorem Course.alike (course : Course web origin redirects previous earlier sent result)
    (course' : Course web' origin redirects previous earlier' sent' result')
    (same : sent.Alike sent') {asked asked' : List Sent} (hlog : result.2 = earlier ++ asked)
    (hlog' : result'.2 = earlier' ++ asked')
    (answers : AnsweredAlike web web' earlier earlier' asked asked') :
    result.1 = result'.1 ∧ List.Forall₂ Sent.Alike asked asked' := by
  induction course generalizing earlier' sent' asked asked' with
  | @ends redirects previous earlier sent stays =>
      obtain rfl := List.append_cancel_left hlog
      obtain ⟨more', hmore', hlength⟩ := course'.sends
      obtain rfl := List.append_cancel_left (hmore'.symm.trans hlog')
      have out := same.outgoing previous
      have answer := answers.1
      -- Either no call may go on from here, or the answer, which both get, sends nothing on.
      have ended : result' =
          ((web' earlier' (sent'.outgoing previous)).ending origin redirects
              (sent'.outgoing previous),
            earlier' ++ [sent'.outgoing previous]) := by
        rcases stays with rfl | stays
        · cases course' with
          | ends => rfl
        · apply course'.ended rfl
          rw [← answer, ← out.onward_eq]
          exact stays
      rw [ended] at hlog' ⊢
      obtain rfl := (List.cons.inj (List.append_cancel_left hlog')).2
      refine ⟨?_, .cons out .nil⟩
      rw [← answer]
      exact out.ending_eq _
  | @onward n previous earlier sent received next result answer goal rest ih =>
      obtain ⟨more, hmore, -⟩ := rest.sends
      rw [List.append_assoc, List.singleton_append] at hmore
      obtain rfl := List.append_cancel_left (hmore.symm.trans hlog)
      obtain ⟨more', hmore', -⟩ := course'.sends
      obtain rfl := List.append_cancel_left (hmore'.symm.trans hlog')
      have out := same.outgoing previous
      obtain ⟨first, further⟩ := answers
      have answer' : web' earlier' (sent'.outgoing previous) = .reply received :=
        first.symm.trans answer
      have goal' : (web' earlier' (sent'.outgoing previous)).onward? (sent'.outgoing previous) =
          some next := by
        rw [answer', ← out.onward_eq]
        exact goal
      obtain ⟨received', hreceived, -, rest'⟩ := course'.followed rfl goal'
      cases hreceived.symm.trans answer'
      rw [same.url] at rest ih
      rw [← List.singleton_append, ← List.append_assoc] at hmore hmore'
      obtain ⟨hresult, hmoreAlike⟩ := ih rest' (same.redirected _ _) hmore hmore' further
      exact ⟨hresult, .cons out hmoreAlike⟩

/-- Whether the last of some requests is answered with a reply. -/
def LastAnswered (web : Web) (earlier asked : List Sent) (received : Reply) : Prop :=
  ∃ before last, asked = before ++ [last] ∧ web (earlier ++ before) last = .reply received

theorem LastAnswered.unique {asked : List Sent} {received received' : Reply}
    (h : LastAnswered web earlier asked received) (h' : LastAnswered web earlier asked received') :
    received = received' := by
  obtain ⟨before, last, rfl, answer⟩ := h
  obtain ⟨before', last', same, answer'⟩ := h'
  obtain ⟨rfl, hlast⟩ := List.append_inj' same rfl
  rw [← List.singleton_inj.mp hlast, answer] at answer'
  exact Answer.reply.inj answer'

/-- A success sends nothing on. -/
theorem goal_of_isSuccess {received : Reply} (h : received.status.isSuccess = true)
    (here : Net.Url) : goal? here received = none := by
  have stays : isRedirect received.status = false := by
    rw [Bool.eq_false_iff]
    intro redirects
    simp only [Status.isSuccess, Bool.and_eq_true, decide_eq_true_eq] at h
    rcases isRedirect_iff.mp redirects with fetched | repeated
    · simp only [List.mem_cons, List.not_mem_nil, or_false] at fetched
      omega
    · simp only [List.mem_cons, List.not_mem_nil, or_false] at repeated
      omega
  simp [goal?, stays]

theorem receive_eq_ok_iff {received : Reply} {fetched : Fetched} :
    receive received = .ok fetched ↔
      received.status = fetched.status ∧ received.body = .ok fetched.body := by
  obtain ⟨status, body⟩ := fetched
  unfold receive
  cases received.body with
  | error fault => simp
  | ok octets => simp

/-- What an answer ends a call with is a success exactly if it is one that arrives as a whole. -/
theorem ending_eq_ok_iff {answer : Answer} {fetched : Fetched}
    (h : fetched.status.isSuccess = true) :
    answer.ending origin redirects sent = .ok fetched ↔
      ∃ received, answer = .reply received ∧ received.status = fetched.status ∧
        received.body = .ok fetched.body := by
  constructor
  · intro ends
    cases answer with
    | refused | closed | unreadable | stalled => cases ends
    | reply received =>
        simp only [Answer.ending] at ends
        split at ends
        · exact ⟨received, rfl, receive_eq_ok_iff.mp ends⟩
        · cases ends
        · cases ends
  · rintro ⟨received, rfl, status, body⟩
    rw [← status] at h
    simp only [Answer.ending, goal_of_isSuccess h]
    exact receive_eq_ok_iff.mpr ⟨status, body⟩

theorem lastAnswered_singleton {out : Sent} {received : Reply} :
    LastAnswered web earlier [out] received ↔ web earlier out = .reply received := by
  constructor
  · rintro ⟨before, last, single, answer⟩
    cases before with
    | nil =>
        cases single
        rwa [List.append_nil] at answer
    | cons first before => simp at single
  · intro answer
    exact ⟨[], out, rfl, by rwa [List.append_nil]⟩

/-- The last of several requests is the last of those that follow the first one. -/
theorem lastAnswered_cons {out second : Sent} {more : List Sent} {received : Reply} :
    LastAnswered web earlier (out :: second :: more) received ↔
      LastAnswered web (earlier ++ [out]) (second :: more) received := by
  constructor
  · rintro ⟨before, last, same, answer⟩
    cases before with
    | nil => simp at same
    | cons first before =>
        obtain ⟨rfl, further⟩ := List.cons.inj same
        exact ⟨before, last, further, by rwa [List.append_assoc]⟩
  · rintro ⟨before, last, same, answer⟩
    exact ⟨out :: before, last, congrArg _ same, by rwa [List.append_assoc] at answer⟩

/-- A call comes to a success exactly if the last of its requests is answered with one that arrives
as a whole. -/
theorem Course.success_iff (course : Course web origin redirects previous earlier sent result)
    {fetched : Fetched} (h : fetched.status.isSuccess = true) {asked : List Sent}
    (hlog : result.2 = earlier ++ asked) :
    result.1 = .ok fetched ↔
      ∃ received, LastAnswered web earlier asked received ∧ received.status = fetched.status ∧
        received.body = .ok fetched.body := by
  induction course generalizing asked with
  | ends =>
      obtain rfl := List.append_cancel_left hlog
      simp only [lastAnswered_singleton]
      exact ending_eq_ok_iff h
  | @onward n previous earlier sent received next result answer goal rest ih =>
      obtain ⟨more, hmore, -⟩ := rest.sends
      have further := hmore
      rw [List.append_assoc, List.singleton_append] at hmore
      obtain rfl := List.append_cancel_left (hmore.symm.trans hlog)
      simp only [lastAnswered_cons]
      exact ih further

/-! ## Calls -/

/-- A call whose request can be built is an exchange, unless its URL cannot be asked. -/
theorem call_of_prepare {request : Request} (h : request.prepare = .ok sent) (web : Web)
    (earlier : List Sent) :
    call web earlier request =
      if sent.url.isHttp = false then (.error (.lost sent.url .badScheme), earlier)
      else if sent.url.isRequestable = false then
        (.error (.lost sent.url .notRequestable), earlier)
      else exchange web sent.url redirectLimit none earlier sent := by
  simp [call, h]

/-- Calls that send nothing and come to the same. -/
theorem alike_of_nothing {e : Except CallError Fetched} {asked asked' : List Sent}
    (hcall : result = (e, earlier)) (hcall' : result' = (e, earlier'))
    (hlog : result.2 = earlier ++ asked) (hlog' : result'.2 = earlier' ++ asked') :
    result.1 = result'.1 ∧ List.Forall₂ Sent.Alike asked asked' := by
  rw [hcall] at hlog ⊢
  rw [hcall'] at hlog' ⊢
  obtain rfl : asked = [] := by simpa using hlog
  obtain rfl : asked' = [] := by simpa using hlog'
  exact ⟨rfl, .nil⟩

/-- Posts to one URL that are answered alike come to the same result and ask for the same things,
whatever they carry. -/
theorem alike_of_posts {url : String} {body body' : Body} {asked asked' : List Sent}
    (hlog : (call web earlier (.post url body)).2 = earlier ++ asked)
    (hlog' : (call web' earlier' (.post url body')).2 = earlier' ++ asked')
    (answers : AnsweredAlike web web' earlier earlier' asked asked') :
    (call web earlier (.post url body)).1 = (call web' earlier' (.post url body')).1 ∧
      List.Forall₂ Sent.Alike asked asked' := by
  cases haddress : requestUrl url with
  | error fault =>
      have unbuilt (web : Web) (earlier : List Sent) (body : Body) :
          call web earlier (.post url body) = (.error (.unbuilt fault), earlier) := by
        simp [call, prepare_post_error haddress]
      exact alike_of_nothing (unbuilt ..) (unbuilt ..) hlog hlog'
  | ok address =>
      obtain ⟨sent, hprepare, hmethod, hurl, -⟩ := prepare_post haddress body
      obtain ⟨sent', hprepare', hmethod', hurl', -⟩ := prepare_post haddress body'
      have same : sent.Alike sent' := ⟨hmethod.trans hmethod'.symm, hurl.trans hurl'.symm⟩
      have hcall := call_of_prepare hprepare web earlier
      have hcall' := call_of_prepare hprepare' web' earlier'
      rw [← same.url] at hcall'
      by_cases http : sent.url.isHttp = false
      · rw [if_pos http] at hcall hcall'
        exact alike_of_nothing hcall hcall' hlog hlog'
      by_cases requestable : sent.url.isRequestable = false
      · rw [if_neg http, if_pos requestable] at hcall hcall'
        exact alike_of_nothing hcall hcall' hlog hlog'
      rw [if_neg http, if_neg requestable] at hcall hcall'
      rw [hcall] at hlog ⊢
      rw [hcall'] at hlog' ⊢
      exact (course_of_exchange ..).alike (course_of_exchange ..) same hlog hlog' answers

/-- Requests that are alike hold as many posts. -/
theorem length_posts_eq {asked asked' : List Sent} (alike : List.Forall₂ Sent.Alike asked asked') :
    (posts asked).length = (posts asked').length := by
  induction alike with
  | nil => rfl
  | @cons out out' _ _ same _ ih =>
      by_cases post : out.method = "POST"
      · have post' : out'.method = "POST" := same.method.symm.trans post
        simp only [posts, List.filter_cons, post, post', beq_self_eq_true, if_true, List.length_cons]
        exact congrArg (· + 1) ih
      · have post' : out'.method ≠ "POST" := fun h => post (same.method.trans h)
        simp only [posts, List.filter_cons, beq_eq_false_iff_ne.mpr post,
          beq_eq_false_iff_ne.mpr post', Bool.false_eq_true, if_false]
        exact ih

/-- A call succeeds exactly if the last of its requests is answered with a success that arrives as a
whole. -/
theorem success_iff {request : Request} {fetched : Fetched}
    (h : fetched.status.isSuccess = true) {asked : List Sent}
    (hlog : (call web earlier request).2 = earlier ++ asked) :
    (call web earlier request).1 = .ok fetched ↔
      ∃ received, LastAnswered web earlier asked received ∧ received.status = fetched.status ∧
        received.body = .ok fetched.body := by
  cases hfirst : request.first? with
  | some out =>
      obtain ⟨sent, -, -, course⟩ := course_of_call hfirst web earlier
      exact course.success_iff h hlog
  | none =>
      obtain ⟨e, hcall⟩ := call_of_unbuilt hfirst web earlier
      rw [hcall] at hlog ⊢
      have none : asked = [] := by simpa using hlog
      constructor
      · intro success
        cases success
      · rintro ⟨received, ⟨before, last, same, -⟩, -⟩
        simp [none] at same

end PulseBridge.Http
