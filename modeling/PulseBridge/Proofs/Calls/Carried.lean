import PulseBridge.Proofs.Calls.Posts

/-!
# What the posts of a call carry

A call that posts begins with its post, if that can go out, and whatever else it posts carries the
same body: an answer that sends the post on either repeats it or makes a fetch of it.
-/

namespace PulseBridge.Http

/-- Whether a request, if it is a post, is one of this body, which goes out as it is. -/
structure Sent.Carries (body : Octets) (sent : Sent) : Prop where
  plain : sent.IsPlain
  carried : sent.method = "POST" → sent.body = body

namespace Sent.Carries

variable {sent : Sent} {body : Octets}

/-- What goes out carries the same. -/
theorem body_outgoing (h : sent.Carries body) {previous : Option Net.Url}
    (post : (sent.outgoing previous).method = "POST") : (sent.outgoing previous).body = body := by
  rw [Sent.method_outgoing] at post
  rw [Sent.body_outgoing h.plain, h.carried post]

/-- What is sent on carries the same. -/
theorem redirected (h : sent.Carries body) {status : Status} (redirects : isRedirect status = true)
    (next : Net.Url) : (sent.redirected status next).Carries body := by
  refine ⟨h.plain.redirected status next, ?_⟩
  intro post
  by_cases hpost : sent.method = "POST"
  · rcases isRedirect_iff.mp redirects with fetched | repeated
    · rw [(Sent.redirected_of_fetched hpost fetched next).1] at post
      exact absurd post (by decide)
    · rw [Sent.redirected_of_repeated repeated]
      exact h.carried hpost
  · exact absurd post (sent.method_redirected hpost status next)

end Sent.Carries

variable {web : Web} {origin : Net.Url} {redirects : Nat} {previous : Option Net.Url}
variable {earlier : List Sent} {sent : Sent} {body : Octets}

/-- Every post of a call carries what its first request does. -/
theorem Course.posts_carry {result : Except CallError Fetched × List Sent}
    (course : Course web origin redirects previous earlier sent result)
    (carries : sent.Carries body) :
    ∃ asked, result.2 = earlier ++ asked ∧ ∀ out ∈ asked, out.method = "POST" → out.body = body := by
  induction course with
  | ends =>
      refine ⟨_, rfl, ?_⟩
      intro out hout post
      obtain rfl := List.mem_singleton.mp hout
      exact carries.body_outgoing post
  | @onward _ previous _ sent received next _ answer goal _ ih =>
      obtain ⟨_, hreply, hgoal, -⟩ := Answer.reply_of_onward goal
      cases hreply
      obtain ⟨asked, hlog, hasked⟩ := ih (carries.redirected (isRedirect_of_goal hgoal) next)
      refine ⟨sent.outgoing previous :: asked, by rw [hlog, List.append_assoc]; rfl, ?_⟩
      intro out hout post
      rcases List.mem_cons.mp hout with rfl | hmore
      · exact carries.body_outgoing post
      · exact hasked out hmore post

/-- What a call that posts sends: its post first, if that can go out, and no post of anything else;
nothing if it cannot. -/
theorem requests_of_post (web : Web) (earlier : List Sent) (url : String) (body : Body) :
    ∃ asked, (call web earlier (.post url body)).2 = earlier ++ asked ∧
      (∀ out ∈ asked, out.method = "POST" → out.body = Body.octets (some body)) ∧
      (IsReachable url → ∃ out more, asked = out :: more ∧ Posts url (Body.octets (some body)) out) ∧
      (¬IsReachable url → asked = []) := by
  cases hfirst : (Request.post url body).first? with
  | none =>
      obtain ⟨e, hcall⟩ := call_of_unbuilt hfirst web earlier
      refine ⟨[], by rw [hcall, List.append_nil], List.forall_mem_nil _, ?_, fun _ => rfl⟩
      intro reachable
      obtain ⟨out, hout⟩ := (exists_first?_post url body).mpr reachable
      rw [hfirst] at hout
      cases hout
  | some out =>
      have reachable : IsReachable url := (exists_first?_post url body).mp ⟨out, hfirst⟩
      obtain ⟨sent, hprepare, hout, course⟩ := course_of_call hfirst web earlier
      obtain ⟨-, -, -, -, hbody, hplain⟩ := of_prepare_post hprepare
      obtain ⟨asked, hlog, hasked⟩ := course.posts_carry ⟨hplain, fun _ => hbody⟩
      obtain ⟨more, hfollows, -⟩ := course.sends
      have same : asked = out :: more := by
        rw [hfollows, hout] at hlog
        exact (List.append_cancel_left hlog).symm
      exact ⟨asked, hlog, hasked, fun _ => ⟨out, more, same, first?_post hfirst⟩,
        fun unreachable => absurd reachable unreachable⟩

end PulseBridge.Http
