import PulseBridge.Proofs.Calls.Alike

/-!
# Calls that differ in a query

Two requests that differ in nothing but the query of their URL are sent on alike by a web whose
answers do not depend on that query. The query goes along where an answer keeps it, and it stands in
the header that names the page that sent a request on; a goal with a path or a query of its own does
not have it. So two calls that begin with such requests differ in nothing else to the end: in the
URLs that they ask for, in the pages that these name, and in the URL that a loss is told of.

## Main statements

* `twin_of_call`: calls whose first requests differ in nothing but a query stay twins.
* `call_after`: a call takes the same course after other requests if it gets the same answers.

## Implementation notes

A URL that is too long cannot be asked for, so a query may be too long where another one is not.
`Net.Url.FitsAlike` says of a URL that both queries do, or neither, as queries of one size always do.
-/

namespace PulseBridge

/-! ## URLs -/

namespace Net.Url

/-- Whether two URLs are the same, or differ in that the first has the one query and the second the
other. -/
inductive Twin (query query' : String) : Url → Url → Prop
  | same (url : Url) : Twin query query' url url
  | asked {url : Url} (h : url.query = some query) :
      Twin query query' url { url with query := some query' }

/-- Whether a URL with the one query can be asked for exactly if it can be with the other. -/
def FitsAlike (query query' : String) (url : Url) : Prop :=
  url.query = some query →
    url.isRequestable = { url with query := some query' }.isRequestable

variable {query query' : String} {u v : Url}

namespace Twin

theorem scheme_eq (h : u.Twin query query' v) : u.scheme = v.scheme := by
  cases h <;> rfl

theorem authority_eq (h : u.Twin query query' v) : u.authority = v.authority := by
  cases h <;> rfl

theorem isHttp_eq (h : u.Twin query query' v) : u.isHttp = v.isHttp := by
  rw [isHttp, isHttp, h.scheme_eq]

theorem withFragment (h : u.Twin query query' v) (fragment : Option String) :
    Twin query query' { u with fragment } { v with fragment } := by
  cases h with
  | same => exact .same _
  | asked h => exact @asked _ _ { u with fragment } h

theorem withoutCredentials (h : u.Twin query query' v) :
    u.withoutCredentials.Twin query query' v.withoutCredentials := by
  cases h with
  | same => exact .same _
  | asked h => exact @asked _ _ u.withoutCredentials h

theorem requested (h : u.Twin query query' v) : u.requested.Twin query query' v.requested := by
  cases h with
  | same => exact .same _
  | asked h => exact @asked _ _ u.requested h

end Twin

/-- A URL has its query at one place in its text, after a question mark. -/
theorem text_withQuery (url : Url) :
    ∃ front back, ∀ query,
      { url with query := some query }.text = front ++ "?" ++ query ++ back := by
  refine ⟨url.scheme ++ ":" ++ url.lead ++ url.path.text,
    (url.fragment.map ("#" ++ ·)).getD "", fun query => ?_⟩
  simp [text, target, lead, String.append_assoc]

/-- No authority has a question mark in it. -/
theorem isRequestAuthority_of_mem {text : String} (h : '?' ∈ text.toList) :
    isRequestAuthority text = false := by
  obtain ⟨before, after, split⟩ := List.append_of_mem h
  -- the scan has no way on from a question mark, whatever came before it
  have stuck : text.toList.foldlM AuthorityScan.take .empty = none := by
    rw [split, List.foldlM_append]
    cases before.foldlM AuthorityScan.take .empty <;> rfl
  simp [isRequestAuthority, stuck]

/-- Queries of one size fit alike. -/
theorem fitsAlike_of_size (size : query.utf8ByteSize = query'.utf8ByteSize) (url : Url) :
    url.FitsAlike query query' := by
  intro asked
  obtain ⟨front, back, text⟩ := url.text_withQuery
  have whole : url.text = front ++ "?" ++ query ++ back := by rw [← text, ← asked]
  have mark (query : String) : '?' ∈ (front ++ "?" ++ query ++ back).toList := by simp
  unfold isRequestable
  dsimp only
  rw [whole, text, isRequestAuthority_of_mem (mark query), isRequestAuthority_of_mem (mark query')]
  simp only [String.utf8ByteSize_append, size]

/-- Whether two readings are the same, or those of two URLs with one fragment put in. -/
def JoinedAlike (u v : Url) (read read' : Except UrlFault Url) : Prop :=
  read = read' ∨ ∃ fragment, read = .ok { u with fragment } ∧ read' = .ok { v with fragment }

theorem joinRelative_withQuery (url : Url) (query : Option String) (cs : List Char) :
    JoinedAlike url { url with query } (url.joinRelative cs)
      ({ url with query }.joinRelative cs) := by
  unfold joinRelative
  dsimp only
  split
  · exact .inr ⟨none, rfl, rfl⟩
  · exact .inr ⟨_, rfl, rfl⟩
  · exact .inl rfl
  · exact .inl rfl

/-- A text that is read relative to a URL either makes no use of its query or changes nothing but
its fragment. -/
theorem join_withQuery (url : Url) (query : Option String) (text : String) :
    JoinedAlike url { url with query } (url.join text) ({ url with query }.join text) := by
  unfold join
  dsimp only
  split
  · unfold afterScheme
    dsimp only
    split
    · exact .inl rfl
    · exact .inl rfl
    · split
      · exact joinRelative_withQuery ..
      · exact .inl rfl
  · split
    · exact joinRelative_withQuery ..
    · exact .inl rfl
  · exact joinRelative_withQuery ..

end Net.Url

namespace Http

open Net (Url)

variable {query query' : String} {u v : Url} {received : Reply}

/-! ## Where twins are sent on to -/

/-- Whether a reply to a request names no goal that one query makes too long and the other does
not. -/
def FitsAlike (query query' : String) (here : Url) (received : Reply) : Prop :=
  ∀ location url, (headerValues "location" received.headers).head? = some location →
    here.join location = .ok url → url.FitsAlike query query'

theorem option_rel_refl {α : Type} {r : α → α → Prop} (h : ∀ a, r a a) (x : Option α) :
    Option.Rel r x x := by
  cases x with
  | none => exact .none
  | some a => exact .some (h a)

/-- A reply sends twins on to twins. -/
theorem goal_twin (h : u.Twin query query' v) (fits : FitsAlike query query' u received) :
    Option.Rel (Url.Twin query query') (goal? u received) (goal? v received) := by
  cases h with
  | same => exact option_rel_refl .same _
  | asked asked =>
      unfold goal?
      split
      · exact .none
      · split
        · exact .none
        · next location more named =>
            rcases u.join_withQuery (some query') location with same | ⟨fragment, here, there⟩
            · rw [same]
              exact option_rel_refl .same _
            · rw [here, there]
              have twin : Url.Twin query query' { u with fragment }
                  { u with query := some query', fragment } := .asked asked
              have fit := fits location _ (by rw [named]; rfl) here asked
              dsimp only at fit ⊢
              rw [← fit]
              split
              · exact .some twin.requested
              · exact .none

/-! ## Headers -/

/-- Whether two headers are the same, or name twins as the page that sent the request on. -/
inductive Header.Twin (query query' : String) : Header → Header → Prop
  | same (h : Header) : Twin query query' h h
  | referer {u v : Url} (h : u.Twin query query' v) :
      Twin query query' ⟨"referer", u.text⟩ ⟨"referer", v.text⟩

theorem Header.Twin.name_eq {h k : Header} (twin : h.Twin query query' k) : h.name = k.name := by
  cases twin <;> rfl

/-- Whether the headers of two requests are twins, one by one. -/
abbrev HeaderTwins (query query' : String) : List Header → List Header → Prop :=
  List.Forall₂ (Header.Twin query query')

namespace HeaderTwins

variable {hs ks : List Header}

theorem refl (hs : List Header) : HeaderTwins query query' hs hs :=
  List.forall₂_same.mpr fun h _ => .same h

theorem append {hs' ks' : List Header} (twins : HeaderTwins query query' hs ks)
    (twins' : HeaderTwins query query' hs' ks') :
    HeaderTwins query query' (hs ++ hs') (ks ++ ks') :=
  List.rel_append twins twins'

theorem dropHeaders (twins : HeaderTwins query query' hs ks) (names : List String) :
    HeaderTwins query query' (Http.dropHeaders names hs) (Http.dropHeaders names ks) := by
  apply List.rel_filter _ twins
  intro h k twin
  dsimp only
  rw [twin.name_eq]

theorem hasHeader_eq (twins : HeaderTwins query query' hs ks) (name : String) :
    hasHeader name hs = hasHeader name ks := by
  induction twins with
  | nil => rfl
  | cons twin _ ih =>
      unfold hasHeader at ih ⊢
      rw [List.any_cons, List.any_cons, twin.name_eq, ih]

/-- Twins differ in no header but that about the page that sent the request on. -/
theorem headerValues_eq (twins : HeaderTwins query query' hs ks) {name : String}
    (h : name ≠ "referer") : headerValues name hs = headerValues name ks := by
  induction twins with
  | nil => rfl
  | cons twin _ ih =>
      cases twin with
      | same =>
          unfold headerValues at ih ⊢
          rw [List.filter_cons, List.filter_cons]
          split
          · rw [List.map_cons, List.map_cons, ih]
          · exact ih
      | referer =>
          have other : ("referer" == name) = false := by simpa using h.symm
          simpa [headerValues, other] using ih

theorem setHeader (twins : HeaderTwins query query' hs ks) {name value value' : String}
    (twin : Header.Twin query query' ⟨name, value⟩ ⟨name, value'⟩) :
    HeaderTwins query query' (Http.setHeader name value hs) (Http.setHeader name value' ks) :=
  (twins.dropHeaders [name]).append (.cons twin .nil)

theorem announcedLength_eq (twins : HeaderTwins query query' hs ks) :
    announcedLength? hs = announcedLength? ks := by
  unfold announcedLength?
  rw [twins.headerValues_eq (by decide)]

theorem chunkedHeaders (twins : HeaderTwins query query' hs ks) :
    HeaderTwins query query' (Http.chunkedHeaders hs) (Http.chunkedHeaders ks) := by
  unfold Http.chunkedHeaders
  rw [twins.headerValues_eq (by decide)]
  exact (twins.dropHeaders _).append (.refl _)

end HeaderTwins

/-! ## Requests -/

/-- Whether two requests differ in nothing but a query, in their URL or in the page they come
from. -/
structure Sent.Twin (query query' : String) (sent sent' : Sent) : Prop where
  method : sent.method = sent'.method
  url : sent.url.Twin query query' sent'.url
  headers : HeaderTwins query query' sent.headers sent'.headers
  body : sent.body = sent'.body

namespace Sent.Twin

variable {sent sent' : Sent}

theorem refl (sent : Sent) : sent.Twin query query' sent :=
  ⟨rfl, .same _, .refl _, rfl⟩

theorem refl_each (log : List Sent) : List.Forall₂ (Sent.Twin query query') log log :=
  List.forall₂_same.mpr fun sent _ => refl sent

theorem framed (h : sent.Twin query query' sent') : sent.framed.Twin query query' sent'.framed := by
  unfold Sent.framed
  dsimp only
  rw [h.body, h.headers.hasHeader_eq, h.headers.announcedLength_eq]
  split
  · exact ⟨h.method, h.url, h.headers.dropHeaders _, rfl⟩
  · split
    · split
      · exact ⟨h.method, h.url, (h.headers.dropHeaders _).chunkedHeaders, rfl⟩
      · exact ⟨h.method, h.url, h.headers.chunkedHeaders, rfl⟩
    · split
      · exact ⟨h.method, h.url, h.headers, rfl⟩
      · exact ⟨h.method, h.url, h.headers.setHeader (.same _), rfl⟩

theorem complete (h : sent.Twin query query' sent') :
    sent.complete.Twin query query' sent'.complete := by
  unfold Sent.complete
  dsimp only
  rw [h.headers.hasHeader_eq]
  exact framed ⟨h.method, h.url, h.headers.append (.refl _), h.body⟩

/-- Requests come as twins from twin places. -/
theorem comingFrom (h : sent.Twin query query' sent') (previous : u.Twin query query' v) :
    (sent.comingFrom u).Twin query query' (sent'.comingFrom v) := by
  have host : sameHost sent.url u = sameHost sent'.url v := by
    unfold sameHost Url.host? Url.portOrUsual
    rw [h.url.authority_eq, h.url.scheme_eq, previous.authority_eq, previous.scheme_eq]
  have kept {hs ks : List Header} (twins : HeaderTwins query query' hs ks) :
      HeaderTwins query query'
        (if sameHost sent'.url v then hs else dropHeaders secretHeaders hs)
        (if sameHost sent'.url v then ks else dropHeaders secretHeaders ks) := by
    split
    · exact twins
    · exact twins.dropHeaders _
  unfold Sent.comingFrom referer?
  rw [host, h.url.scheme_eq, previous.scheme_eq]
  refine ⟨h.method, h.url, kept ?_, h.body⟩
  by_cases hidden : (sent'.url.scheme == "http" && v.scheme == "https") = true
  · rw [if_pos hidden, if_pos hidden]
    exact h.headers
  · rw [if_neg hidden, if_neg hidden]
    exact h.headers.setHeader (.referer (previous.withoutCredentials.withFragment none))

theorem outgoing (h : sent.Twin query query' sent') {previous previous' : Option Url}
    (places : Option.Rel (Url.Twin query query') previous previous') :
    (sent.outgoing previous).Twin query query' (sent'.outgoing previous') := by
  cases places with
  | none => exact h.complete
  | some twin => exact (h.comingFrom twin).complete

theorem fetching (h : sent.Twin query query' sent') (method : String) :
    (sent.fetching method).Twin query query' (sent'.fetching method) :=
  ⟨rfl, h.url, h.headers.dropHeaders _, rfl⟩

theorem redirected (h : sent.Twin query query' sent') (status : Status)
    (next : u.Twin query query' v) :
    (sent.redirected status u).Twin query query' (sent'.redirected status v) := by
  obtain ⟨method, url, headers, body⟩ := sent
  obtain ⟨method', url', headers', body'⟩ := sent'
  obtain ⟨rfl, -, headers, rfl⟩ := h
  have there : Sent.Twin query query' ⟨method, u, _, body⟩ ⟨method, v, _, body⟩ :=
    ⟨rfl, next, headers, rfl⟩
  unfold Sent.redirected
  dsimp only
  split
  · split
    · exact there.fetching _
    · exact there
  · split
    · exact there.fetching _
    · exact there
  · exact there.fetching _
  · exact there

/-- The last of some requests has the last of their twins as its twin. -/
theorem exists_last {before asked' : List Sent} {last : Sent}
    (twins : List.Forall₂ (Sent.Twin query query') (before ++ [last]) asked') :
    ∃ before' last', asked' = before' ++ [last'] ∧
      List.Forall₂ (Sent.Twin query query') before before' ∧ last.Twin query query' last' := by
  induction before generalizing asked' with
  | nil =>
      cases twins with
      | cons twin rest =>
          cases rest
          exact ⟨[], _, rfl, .nil, twin⟩
  | cons out before ih =>
      cases twins with
      | cons twin rest =>
          obtain ⟨before', last', rfl, twins, lasts⟩ := ih rest
          exact ⟨_ :: before', last', rfl, .cons twin twins, lasts⟩

end Sent.Twin

/-- Whether the answers of a web are the same for twins. -/
def Web.Ignores (web : Web) (query query' : String) : Prop :=
  ∀ earlier earlier' out out', List.Forall₂ (Sent.Twin query query') earlier earlier' →
    out.Twin query query' out' → web earlier out = web earlier' out'

/-- A web in which every request gets one answer ignores every query. -/
theorem Web.ignores_constant (answer : Answer) (query query' : String) :
    Web.Ignores (fun _ _ => answer) query query' :=
  fun _ _ _ _ _ _ => rfl

/-- Whether no reply to the requests of a call names a goal that one query makes too long and the
other does not. -/
def RepliesFitAlike (web : Web) (query query' : String) : List Sent → List Sent → Prop
  | _, [] => True
  | earlier, out :: more =>
      (∀ received, web earlier out = .reply received →
          FitsAlike query query' out.url received) ∧
        RepliesFitAlike web query query' (earlier ++ [out]) more

/-- Whatever is replied, queries of one size fit alike. -/
theorem repliesFitAlike_of_size (size : query.utf8ByteSize = query'.utf8ByteSize) (web : Web)
    (earlier asked : List Sent) : RepliesFitAlike web query query' earlier asked := by
  induction asked generalizing earlier with
  | nil => trivial
  | cons out more ih =>
      exact ⟨fun _ _ _ url _ _ => url.fitsAlike_of_size size, ih _⟩

/-! ## What calls come to -/

/-- Whether two calls come to the same, or to the same loss of twins. -/
inductive ResultTwin (query query' : String) :
    Except CallError Fetched → Except CallError Fetched → Prop
  | same (result) : ResultTwin query query' result result
  | lost {u v : Url} (h : u.Twin query query' v) (fault : WayFault) :
      ResultTwin query query' (.error (.lost u fault)) (.error (.lost v fault))

variable {sent sent' out out' : Sent} {origin origin' : Url} {redirects : Nat}

theorem Answer.onward_twin {answer : Answer} (twin : out.Twin query query' out')
    (fits : ∀ received, answer = .reply received → FitsAlike query query' out.url received) :
    Option.Rel (Url.Twin query query') (answer.onward? out) (answer.onward? out') := by
  cases answer with
  | refused | closed | unreadable | stalled => exact .none
  | reply received =>
      have goals := goal_twin twin.url (fits received rfl)
      dsimp only [Answer.onward?]
      generalize goal? out.url received = goal, goal? out'.url received = goal' at goals ⊢
      cases goals with
      | none => exact .none
      | some goals =>
          rw [Option.filter_some, Option.filter_some, goals.isHttp_eq]
          split
          · exact .some goals
          · exact .none

/-- An answer that sends one twin nowhere sends the other nowhere. -/
theorem Answer.onward_none_twin {answer : Answer} (twin : out.Twin query query' out')
    (fits : ∀ received, answer = .reply received → FitsAlike query query' out.url received)
    (stays : answer.onward? out = none) : answer.onward? out' = none := by
  have onward := answer.onward_twin twin fits
  rw [stays] at onward
  cases h : answer.onward? out' with
  | none => rfl
  | some next =>
      rw [h] at onward
      cases onward

/-- An answer that sends one twin on sends the other to a twin of its goal. -/
theorem Answer.onward_some_twin {answer : Answer} (twin : out.Twin query query' out')
    (fits : ∀ received, answer = .reply received → FitsAlike query query' out.url received)
    {next : Url} (sends : answer.onward? out = some next) :
    ∃ next', answer.onward? out' = some next' ∧ next.Twin query query' next' := by
  have onward := answer.onward_twin twin fits
  rw [sends] at onward
  cases h : answer.onward? out' with
  | none =>
      rw [h] at onward
      cases onward
  | some next' =>
      rw [h] at onward
      cases onward with
      | some nexts => exact ⟨next', rfl, nexts⟩

/-- An answer makes the same of twins. -/
theorem Answer.ending_twin {answer : Answer} (origins : origin.Twin query query' origin')
    (twin : out.Twin query query' out')
    (fits : ∀ received, answer = .reply received → FitsAlike query query' out.url received) :
    ResultTwin query query' (answer.ending origin redirects out)
      (answer.ending origin' redirects out') := by
  cases answer with
  | refused | closed | unreadable | stalled => exact .lost origins _
  | reply received =>
      have goals := goal_twin twin.url (fits received rfl)
      dsimp only [Answer.ending]
      generalize goal? out.url received = goal, goal? out'.url received = goal' at goals ⊢
      cases goals with
      | none => exact .same _
      | some goals =>
          cases redirects with
          | zero => exact .lost (twin.url.withFragment none) _
          | succ => exact .lost goals _

variable {web : Web} {previous previous' : Option Url} {earlier earlier' asked : List Sent}
variable {result result' : Except CallError Fetched × List Sent}

/-- Twins take the same course. The induction is on the course of the first; the answers, which both
get, decide that the second follows it. -/
theorem Course.twin (course : Course web origin redirects previous earlier sent result)
    (course' : Course web origin' redirects previous' earlier' sent' result')
    (ignores : web.Ignores query query') (origins : origin.Twin query query' origin')
    (places : Option.Rel (Url.Twin query query') previous previous')
    (twin : sent.Twin query query' sent')
    (logs : List.Forall₂ (Sent.Twin query query') earlier earlier')
    (hlog : result.2 = earlier ++ asked) (fits : RepliesFitAlike web query query' earlier asked) :
    ResultTwin query query' result.1 result'.1 ∧
      ∃ asked', result'.2 = earlier' ++ asked' ∧
        List.Forall₂ (Sent.Twin query query') asked asked' := by
  induction course generalizing previous' earlier' sent' asked with
  | @ends redirects previous earlier sent stays =>
      obtain rfl := List.append_cancel_left hlog
      have out := twin.outgoing places
      have answer := ignores _ _ _ _ logs out
      -- the second call gets the same answer here, so it cannot go further than the first
      have ended : result' =
          ((web earlier' (sent'.outgoing previous')).ending origin' redirects
            (sent'.outgoing previous'), earlier' ++ [sent'.outgoing previous']) := by
        rcases stays with rfl | stays
        · cases course' with
          | ends => rfl
        · apply course'.ended rfl
          rw [← answer]
          exact Answer.onward_none_twin out fits.1 stays
      rw [ended]
      refine ⟨?_, _, rfl, .cons out .nil⟩
      rw [← answer]
      exact Answer.ending_twin origins out fits.1
  | @onward n previous earlier sent received next result answer goal rest ih =>
      obtain ⟨more, hmore, -⟩ := rest.sends
      have further := hmore
      rw [List.append_assoc, List.singleton_append] at hmore
      obtain rfl := List.append_cancel_left (hmore.symm.trans hlog)
      have out := twin.outgoing places
      have answer' := (ignores _ _ _ _ logs out).symm.trans answer
      rw [← answer] at goal
      obtain ⟨next', goal', nexts⟩ := Answer.onward_some_twin out fits.1 goal
      rw [answer, ← answer'] at goal'
      -- and where the first goes on, so does the second, with the same reply
      obtain ⟨received', hreceived, -, rest'⟩ := course'.followed rfl goal'
      cases hreceived.symm.trans answer'
      obtain ⟨same, asked', hlog', twins⟩ :=
        ih rest' (.some twin.url) (twin.redirected received.status nexts)
          (List.rel_append logs (.cons out .nil)) further fits.2
      exact ⟨same, sent'.outgoing previous' :: asked',
        by rw [hlog', List.append_assoc]; rfl, .cons out twins⟩

/-! ## Calls -/

/-- Calls whose first requests differ in nothing but a query stay twins, if the web does not answer
to the query and both queries fit wherever one does. -/
theorem twin_of_call {request request' : Request} (prepared : request.prepare = .ok sent)
    (prepared' : request'.prepare = .ok sent') (ignores : web.Ignores query query')
    (twin : sent.Twin query query' sent') (first : sent.url.FitsAlike query query')
    (logs : List.Forall₂ (Sent.Twin query query') earlier earlier')
    (hlog : (call web earlier request).2 = earlier ++ asked)
    (fits : RepliesFitAlike web query query' earlier asked) :
    ResultTwin query query' (call web earlier request).1 (call web earlier' request').1 ∧
      ∃ asked', (call web earlier' request').2 = earlier' ++ asked' ∧
        List.Forall₂ (Sent.Twin query query') asked asked' := by
  have requestable : sent.url.isRequestable = sent'.url.isRequestable := by
    generalize sent'.url = url', twin.url = urls
    cases urls with
    | same => rfl
    | asked h => exact first h
  rw [call_of_prepare prepared] at hlog ⊢
  rw [call_of_prepare prepared', ← twin.url.isHttp_eq, ← requestable]
  by_cases http : sent.url.isHttp = false
  · rw [if_pos http] at hlog ⊢
    obtain rfl : asked = [] := by simpa using hlog
    rw [if_pos http]
    exact ⟨.lost twin.url _, [], (List.append_nil _).symm, .nil⟩
  by_cases refused : sent.url.isRequestable = false
  · rw [if_neg http, if_pos refused] at hlog ⊢
    obtain rfl : asked = [] := by simpa using hlog
    rw [if_neg http, if_pos refused]
    exact ⟨.lost twin.url _, [], (List.append_nil _).symm, .nil⟩
  rw [if_neg http, if_neg refused] at hlog ⊢
  rw [if_neg http, if_neg refused]
  exact (course_of_exchange ..).twin (course_of_exchange ..) ignores twin.url .none twin logs hlog
    fits

/-! ## Calls after other requests -/

theorem exchange_after {web' : Web}
    (same : ∀ more out, web (earlier ++ more) out = web' (earlier' ++ more) out) :
    ∃ asked, (exchange web origin redirects previous earlier sent).2 = earlier ++ asked ∧
      exchange web' origin redirects previous earlier' sent =
        ((exchange web origin redirects previous earlier sent).1, earlier' ++ asked) := by
  induction redirects generalizing previous earlier earlier' sent with
  | zero =>
      have answer := same [] (sent.outgoing previous)
      rw [List.append_nil, List.append_nil] at answer
      rw [exchange_of_end rfl (.inl rfl), exchange_of_end rfl (.inl rfl), answer]
      exact ⟨_, rfl, rfl⟩
  | succ n ih =>
      have answer := same [] (sent.outgoing previous)
      rw [List.append_nil, List.append_nil] at answer
      cases onward : (web earlier (sent.outgoing previous)).onward? (sent.outgoing previous) with
      | none =>
          rw [exchange_of_end rfl (.inr onward),
            exchange_of_end rfl (.inr (answer ▸ onward)), answer]
          exact ⟨_, rfl, rfl⟩
      | some next =>
          obtain ⟨received, reply, -⟩ := Answer.reply_of_onward onward
          rw [reply] at onward
          rw [exchange_of_onward rfl reply onward,
            exchange_of_onward rfl (answer.symm.trans reply) onward]
          have further (more : List Sent) (out : Sent) :
              web (earlier ++ [sent.outgoing previous] ++ more) out =
                web' (earlier' ++ [sent.outgoing previous] ++ more) out := by
            rw [List.append_assoc, List.append_assoc]
            exact same _ out
          obtain ⟨asked, log, rest⟩ := ih further
          exact ⟨sent.outgoing previous :: asked, by rw [log, List.append_assoc]; rfl,
            by rw [rest, List.append_assoc]; rfl⟩

/-- A call takes the same course after other requests if it gets the same answers. -/
theorem call_after {web' : Web}
    (same : ∀ more out, web (earlier ++ more) out = web' (earlier' ++ more) out)
    (request : Request) :
    ∃ asked, (call web earlier request).2 = earlier ++ asked ∧
      call web' earlier' request = ((call web earlier request).1, earlier' ++ asked) := by
  have nothing (earlier : List Sent) : earlier = earlier ++ [] := (List.append_nil _).symm
  cases prepared : request.prepare with
  | error fault =>
      simp only [call, prepared]
      exact ⟨[], nothing _, by rw [← nothing]⟩
  | ok sent =>
      rw [call_of_prepare prepared, call_of_prepare prepared]
      split
      · exact ⟨[], nothing _, by rw [← nothing]⟩
      · split
        · exact ⟨[], nothing _, by rw [← nothing]⟩
        · exact exchange_after same

end Http

end PulseBridge
