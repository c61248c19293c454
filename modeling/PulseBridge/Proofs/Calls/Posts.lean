import PulseBridge.Proofs.Calls.Delivery

/-!
# The posts among the requests

Among all requests that were sent, the posts tell what was handed over. A call that posts nothing
itself adds none, and where no post is sent on, a call that posts adds its own and nothing else.
-/

namespace PulseBridge.Http

/-- The posts among some requests, in their order. -/
def posts (log : List Sent) : List Sent := log.filter (·.method == "POST")

@[simp] theorem posts_append (before after : List Sent) :
    posts (before ++ after) = posts before ++ posts after :=
  List.filter_append ..

theorem posts_eq_nil {log : List Sent} (h : ∀ out ∈ log, out.method ≠ "POST") : posts log = [] := by
  rw [posts, List.filter_eq_nil_iff]
  intro out hout
  simpa using h out hout

/-- Whether no post is ever sent on. -/
def Web.IsDirect (web : Web) : Prop :=
  ∀ earlier sent, sent.method = "POST" → (web earlier sent).onward? sent = none

/-- Whether a post can be sent to a URL. -/
def IsReachable (url : String) : Prop :=
  ∃ address, requestUrl url = .ok address ∧ address.takeCredentials.2.isHttp = true ∧
    address.takeCredentials.2.isRequestable = true

/-- Whether a request posts a body to a URL. -/
def Posts (url : String) (body : Octets) (out : Sent) : Prop :=
  out.method = "POST" ∧ out.body = body ∧
    ∃ address, requestUrl url = .ok address ∧ out.url = address.takeCredentials.2

/-- A URL that some post goes out to can be reached. -/
theorem isReachable_of_isSome {url : String} {body : Body}
    (h : (Request.post url body).first?.isSome = true) : IsReachable url := by
  apply (exists_first?_post url body).mp
  exact Option.isSome_iff_exists.mp h

variable {web : Web} {earlier : List Sent}

/-- A call that posts nothing itself adds no post. -/
theorem posts_call_of_fetch {request : Request} (h : request.method ≠ "POST") (web : Web)
    (earlier : List Sent) :
    earlier <+: (call web earlier request).2 ∧
      posts (call web earlier request).2 = posts earlier := by
  obtain ⟨more, hlog, hmore⟩ := call_posts_nothing h web earlier
  rw [hlog]
  refine ⟨List.prefix_append .., ?_⟩
  rw [posts_append, posts_eq_nil hmore, List.append_nil]

/-- A call that posts adds its post, where no post is sent on. -/
theorem posts_call_of_post {url : String} (reachable : IsReachable url) (direct : web.IsDirect)
    (body : Body) (earlier : List Sent) :
    ∃ out, Posts url (Body.octets (some body)) out ∧
      earlier <+: (call web earlier (.post url body)).2 ∧
      posts (call web earlier (.post url body)).2 = posts earlier ++ [out] := by
  obtain ⟨out, hfirst⟩ := (exists_first?_post url body).mpr reachable
  obtain ⟨hmethod, hbody, haddress⟩ := first?_post hfirst
  obtain ⟨hlog, -⟩ := call_of_end hfirst (direct earlier out hmethod)
  refine ⟨out, ⟨hmethod, hbody, haddress⟩, ?_, ?_⟩
  · rw [hlog]
    exact List.prefix_append ..
  · have one : posts [out] = [out] := by
      rw [posts, List.filter_cons_of_pos (by simpa using hmethod), List.filter_nil]
    rw [hlog, posts_append, one]

end PulseBridge.Http
