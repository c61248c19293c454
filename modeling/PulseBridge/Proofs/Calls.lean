import PulseBridge.Http.Client

/-!
# Requests that go out

What goes out is a request with its headers completed. Completing them changes neither the method
nor the address, and a body whose end nobody has announced goes out as it is. So the first request
of a post is a post of the body to the address, whatever credentials the address holds.
-/

namespace PulseBridge.Http

namespace Sent

/-- The request as it goes out, coming from a place that sent it on or from none. -/
def outgoing (sent : Sent) (previous : Option Net.Url) : Sent :=
  ((previous.map sent.comingFrom).getD sent).complete

/-- Whether the headers leave it open how the end of the body is known. -/
def IsPlain (sent : Sent) : Prop :=
  hasHeader lengthHeader sent.headers = false ∧ hasHeader encodingHeader sent.headers = false

theorem method_framed (sent : Sent) : sent.framed.method = sent.method := by
  unfold framed
  dsimp only
  repeat' split
  all_goals rfl

theorem url_framed (sent : Sent) : sent.framed.url = sent.url := by
  unfold framed
  dsimp only
  repeat' split
  all_goals rfl

@[simp] theorem method_outgoing (sent : Sent) (previous : Option Net.Url) :
    (sent.outgoing previous).method = sent.method := by
  cases previous <;> simp [outgoing, complete, comingFrom, method_framed]

@[simp] theorem url_outgoing (sent : Sent) (previous : Option Net.Url) :
    (sent.outgoing previous).url = sent.url := by
  cases previous <;> simp [outgoing, complete, comingFrom, url_framed]

end Sent

/-! ## Headers -/

theorem hasHeader_append (name : String) (hs ks : List Header) :
    hasHeader name (hs ++ ks) = (hasHeader name hs || hasHeader name ks) :=
  List.any_append

/-- Dropping headers brings none. -/
theorem hasHeader_dropHeaders {name : String} {hs : List Header} (h : hasHeader name hs = false)
    (names : List String) : hasHeader name (dropHeaders names hs) = false := by
  simp only [hasHeader, dropHeaders, List.any_eq_false, List.mem_filter] at h ⊢
  exact fun k hk => h k hk.1

theorem headerValues_eq_nil {name : String} {hs : List Header} (h : hasHeader name hs = false) :
    headerValues name hs = [] := by
  simpa [headerValues, hasHeader] using h

theorem announcedLength?_eq_none {hs : List Header} (h : hasHeader lengthHeader hs = false) :
    announcedLength? hs = none := by
  rw [announcedLength?, ← lengthHeader, headerValues_eq_nil h]
  rfl

namespace Sent

variable {sent : Sent}

/-- A body whose end nobody has announced goes out as it is. -/
theorem body_complete (h : sent.IsPlain) : sent.complete.body = sent.body := by
  obtain ⟨hlength, hencoding⟩ := h
  unfold complete
  dsimp only
  generalize haccept : (if hasHeader "accept" sent.headers then [] else
    [(⟨"accept", "*/*"⟩ : Header)]) = accept
  have aside : ∀ name, name ≠ "accept" → hasHeader name accept = false := by
    intro name hname
    subst haccept
    split <;> simp [hasHeader, hname.symm]
  have hnone : announcedLength? (sent.headers ++ accept) = none := by
    apply announcedLength?_eq_none
    rw [hasHeader_append, hlength, aside _ (by decide)]
    rfl
  have hplain : hasHeader encodingHeader (sent.headers ++ accept) = false := by
    rw [hasHeader_append, hencoding, aside _ (by decide)]
    rfl
  simp only [framed, hplain, hnone]
  split <;> rfl

/-- What is shown to another place leaves it open as well. -/
theorem IsPlain.comingFrom (h : sent.IsPlain) (previous : Net.Url) :
    (sent.comingFrom previous).IsPlain := by
  have kept : ∀ name, name ≠ "referer" → hasHeader name sent.headers = false →
      hasHeader name (sent.comingFrom previous).headers = false := by
    intro name hname hnone
    have hreferer : ∀ referer,
        hasHeader name (setHeader "referer" referer sent.headers) = false := by
      intro referer
      rw [setHeader, hasHeader_append, hasHeader_dropHeaders hnone]
      simp [hasHeader, hname.symm]
    unfold Sent.comingFrom
    dsimp only
    repeat' split
    all_goals first
      | exact hnone
      | exact hreferer _
      | exact hasHeader_dropHeaders hnone _
      | exact hasHeader_dropHeaders (hreferer _) _
  exact ⟨kept _ (by decide) h.1, kept _ (by decide) h.2⟩

theorem body_outgoing (h : sent.IsPlain) (previous : Option Net.Url) :
    (sent.outgoing previous).body = sent.body := by
  cases previous with
  | none => exact body_complete h
  | some previous => exact body_complete (h.comingFrom previous)

theorem IsPlain.fetching (h : sent.IsPlain) (method : String) : (sent.fetching method).IsPlain :=
  ⟨hasHeader_dropHeaders h.1 _, hasHeader_dropHeaders h.2 _⟩

end Sent

/-! ## Posts -/

/-- Credentials and the kind of the body are all that the headers of a post tell. -/
theorem prepare_post {url : String} {address : Net.Url} (h : requestUrl url = .ok address)
    (body : Body) :
    ∃ sent, (Request.post url body).prepare = .ok sent ∧ sent.method = "POST" ∧
      sent.url = address.takeCredentials.2 ∧ sent.body = Body.octets (some body) ∧
      sent.IsPlain := by
  let fromUrl : List Header :=
    (address.takeCredentials.1.map fun c => basicAuthorization c.1 c.2).toList
  have plain : ∀ name, name ≠ "authorization" → name ≠ "content-type" →
      hasHeader name (fromUrl ++ Body.headers fromUrl (some body)) = false := by
    intro name hauthorization htype
    have hcredentials : hasHeader name fromUrl = false := by
      cases hc : address.takeCredentials.1 <;>
        simp [fromUrl, hc, hasHeader, basicAuthorization, hauthorization.symm]
    rw [hasHeader_append, hcredentials]
    cases body with
    | json document => simp [Body.headers, hasHeader, htype.symm]
    | form pairs =>
        rw [Body.headers]
        split <;> simp [hasHeader, htype.symm]
  refine ⟨⟨"POST", address.takeCredentials.2, fromUrl ++ Body.headers fromUrl (some body),
    Body.octets (some body)⟩, ?_, rfl, rfl, rfl, plain _ (by decide) (by decide),
    plain _ (by decide) (by decide)⟩
  simp [Request.prepare, Request.post, h, bind, Except.bind, pure, Except.pure, fromUrl,
    Net.Url.appendQuery]

theorem prepare_post_error {url : String} {fault : BuildFault} (h : requestUrl url = .error fault)
    (body : Body) : (Request.post url body).prepare = .error fault := by
  simp [Request.prepare, Request.post, h, bind, Except.bind]

/-- What is sent of a post. -/
theorem of_prepare_post {url : String} {body : Body} {sent : Sent}
    (h : (Request.post url body).prepare = .ok sent) :
    ∃ address, requestUrl url = .ok address ∧ sent.url = address.takeCredentials.2 ∧
      sent.method = "POST" ∧ sent.body = Body.octets (some body) ∧ sent.IsPlain := by
  cases haddress : requestUrl url with
  | error fault =>
      rw [prepare_post_error haddress] at h
      cases h
  | ok address =>
      obtain ⟨built, hprepare, hmethod, hurl, hbody, hplain⟩ := prepare_post haddress body
      cases hprepare.symm.trans h
      exact ⟨address, rfl, hurl, hmethod, hbody, hplain⟩

/-- What only fetches is no post. -/
theorem Request.ne_post_of_get {request : Request} (h : request.method = "GET") :
    request.method ≠ "POST" := by
  rw [h]
  decide

/-- The request that goes out first, if it can be built and sent. -/
def Request.first? (request : Request) : Option Sent :=
  match request.prepare with
  | .error _ => none
  | .ok sent =>
      if sent.url.isHttp && sent.url.isRequestable then some (sent.outgoing none) else none

/-- The first request of a post is a post of the body to the address. -/
theorem first?_post {url : String} {body : Body} {out : Sent}
    (h : (Request.post url body).first? = some out) :
    out.method = "POST" ∧ out.body = Body.octets (some body) ∧
      ∃ address, requestUrl url = .ok address ∧ out.url = address.takeCredentials.2 := by
  unfold Request.first? at h
  cases hprepare : (Request.post url body).prepare with
  | error fault => simp [hprepare] at h
  | ok sent =>
      simp only [hprepare, Option.ite_none_right_eq_some, Option.some.injEq] at h
      obtain ⟨-, rfl⟩ := h
      obtain ⟨address, haddress, hurl, hmethod, hbody, hplain⟩ := of_prepare_post hprepare
      refine ⟨?_, ?_, address, haddress, ?_⟩
      · rw [Sent.method_outgoing, hmethod]
      · rw [Sent.body_outgoing hplain, hbody]
      · rw [Sent.url_outgoing, hurl]

/-- A request keeps its method and goes to the address of its URL, with its pairs in the query. -/
theorem of_prepare {request : Request} {sent : Sent} (h : request.prepare = .ok sent) :
    sent.method = request.method ∧ ∃ address, requestUrl request.url = .ok address ∧
      sent.url = address.takeCredentials.2.appendQuery request.query := by
  simp only [Request.prepare, bind, Except.bind, pure, Except.pure] at h
  split at h
  · cases h
  · next address haddress =>
      split at h
      · cases h
      · cases h
        exact ⟨rfl, address, haddress, rfl⟩

theorem method_of_prepare {request : Request} {sent : Sent} (h : request.prepare = .ok sent) :
    sent.method = request.method :=
  (of_prepare h).1

/-- What may be asked for is read as the URL it is. -/
theorem ofText_of_requestUrl {text : String} {url : Net.Url} (h : requestUrl text = .ok url) :
    Net.Url.ofText text = .ok url := by
  unfold requestUrl at h
  split at h
  · cases h
  · next read =>
      split at h
      · cases h
      · cases h
        exact read

end PulseBridge.Http
