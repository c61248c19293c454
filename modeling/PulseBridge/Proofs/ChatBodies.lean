import PulseBridge.Proofs.AlertLine.Posts
import PulseBridge.Proofs.Calls.Carried
import PulseBridge.Proofs.Queries

/-!
# What the chat is asked and told

A message goes out as a form within which it stands as JSON, and a search as the query of a URL.
Whatever alerts, names and lines hold, undoing these codings gives them back, so that nothing in
them can be taken for another field of the form, another member of the message or another pair of
the query.

## Main statements

* `Archive.query_of_first`: the query of a search is decoded as token and check.
* `bodies_of_alert`: what is posted and what is asked for when an alert is delivered.
-/

namespace PulseBridge

open Http (Web Sent Posts IsReachable)

/-! ## Posts -/

namespace Chat

variable {web : Web} {chat : Chat} {enricher : Enricher} {alert : Alert}
variable {earlier looked : List Sent} {message : ChatMessage} {notices : List Notice}

/-- A delivery is a call that posts the message, after what was looked up. -/
theorem deliver_eq (built : chat.messageFor enricher alert earlier = (message, notices, looked)) :
    (chat.sink web enricher).deliver earlier alert =
      (.finished (.ofCall (acceptance (Http.call web looked (chat.request message)).1)), notices,
        (Http.call web looked (chat.request message)).2) := by
  simp only [sink, built, post]

/-- A delivery posts nothing but the message, and posts it first if the webhook can be reached. -/
theorem requests_of_deliver (web : Web)
    (built : chat.messageFor enricher alert earlier = (message, notices, looked)) :
    ∃ delivery asked, (chat.sink web enricher).deliver earlier alert =
        (.finished delivery, notices, looked ++ asked) ∧
      (∀ out ∈ asked, out.method = "POST" → out.body = bodyOf message) ∧
      (IsReachable chat.webhook →
        ∃ out more, asked = out :: more ∧ Posts chat.webhook (bodyOf message) out) ∧
      (¬IsReachable chat.webhook → asked = []) := by
  obtain ⟨asked, hlog, hasked, hfirst, hnone⟩ := Http.requests_of_post web looked chat.webhook
    (.form [("payload", Octets.lossyText message.encode)])
  have log : (Http.call web looked (chat.request message)).2 = looked ++ asked := hlog
  exact ⟨_, asked, (deliver_eq built).trans (by rw [log]), hasked, hfirst, hnone⟩

end Chat

/-! ## Searches -/

namespace Archive

/-- The address of the search has no query if that of the archive has none. -/
theorem hasNoQuery_searchUrl {archive : Archive} (h : Net.HasNoQuery archive.url.toList) :
    Net.HasNoQuery archive.searchUrl.toList := by
  have first : (archive.url.toList.reverse.dropWhile (· == '/')).reverse <+: archive.url.toList := by
    rw [← List.reverse_suffix, List.reverse_reverse]
    exact List.dropWhile_suffix _
  rw [searchUrl, String.toList_append, String.toList_ofList]
  exact (h.of_initial first).append_of_not_mem (by decide)

/-- An archive whose address has no query is asked for at a URL without one. -/
theorem query_of_requestUrl {archive : Archive} (h : Net.HasNoQuery archive.url.toList)
    {address : Net.Url} (haddress : Http.requestUrl archive.searchUrl = .ok address) :
    address.takeCredentials.2.query = none := by
  rw [Net.Url.query_takeCredentials]
  exact Net.Url.query_of_ofText (hasNoQuery_searchUrl h) (Http.ofText_of_requestUrl haddress)

/-- The query of a search for a check. -/
def query (archive : Archive) (check : String) : String :=
  Octets.lossyText (Form.encode [("token", archive.token), ("query", check)])

theorem decode_query (archive : Archive) (check : String) :
    Form.decode (Octets.ofText (archive.query check)) =
      [("token", archive.token), ("query", check)] := by
  rw [query, Octets.ofText_lossyText (Form.isText_encode _), Form.decode_encode]

/-- The query of a search is decoded as token and check. -/
theorem query_of_first {archive : Archive} (h : Net.HasNoQuery archive.url.toList) {check : String}
    {out : Sent} (first : (archive.request check).first? = some out) :
    ∃ query, out.url.query = some query ∧
      Form.decode (Octets.ofText query) = [("token", archive.token), ("query", check)] := by
  obtain ⟨sent, prepared, goes, -⟩ := Http.course_of_call first (fun _ _ => .closed) []
  obtain ⟨-, address, haddress, url⟩ := Http.of_prepare prepared
  have noQuery := query_of_requestUrl h haddress
  refine ⟨archive.query check, ?_, archive.decode_query check⟩
  rw [← goes, Http.Sent.url_outgoing, url, Net.Url.appendQuery]
  simp [noQuery, request, query]

end Archive

/-- What is posted and what is asked for on account of alerts, whatever they and the names and lines
hold. Delivering an alert posts nothing but the message about it, which is posted first after the
lookup if the webhook can be reached; its body consists of what may stand in a form, and is decoded
as one pair whose value is an object of the name and the text of the message and of nothing else. A
search, if it can go out, asks first for the address of the archive with a query that is decoded as
the token and the check. -/
theorem bodies_of_alert (web : Web) (chat : Chat) (enricher : Enricher) (alert : Alert)
    (earlier : List Sent) :
    (∃ message notices looked delivery asked,
      chat.messageFor enricher alert earlier = (message, notices, looked) ∧
      (chat.sink web enricher).deliver earlier alert =
        (.finished delivery, notices, looked ++ asked) ∧
      (∀ out ∈ asked, out.method = "POST" → Chat.Carries message out.body) ∧
      (IsReachable chat.webhook →
        ∃ out more, asked = out :: more ∧ Posts chat.webhook (Chat.bodyOf message) out) ∧
      (¬IsReachable chat.webhook → asked = [])) ∧
    ∀ (archive : Archive) (check : String), Net.HasNoQuery archive.url.toList →
      ((archive.request check).first? = none →
        (archive.lookUp web check earlier).2 = earlier) ∧
      ∀ out, (archive.request check).first? = some out →
        ∃ more query, (archive.lookUp web check earlier).2 = earlier ++ out :: more ∧
          out.method = "GET" ∧ out.url.query = some query ∧
          Form.decode (Octets.ofText query) = [("token", archive.token), ("query", check)] := by
  constructor
  · rcases hbuilt : chat.messageFor enricher alert earlier with ⟨message, notices, looked⟩
    obtain ⟨delivery, asked, deliver, hasked, hfirst, hnone⟩ :=
      Chat.requests_of_deliver web hbuilt
    refine ⟨message, notices, looked, delivery, asked, rfl, deliver, ?_, hfirst, hnone⟩
    intro out hout post
    rw [hasked out hout post]
    exact Chat.carries_bodyOf message
  · intro archive check noQuery
    constructor
    · intro unbuilt
      obtain ⟨e, hcall⟩ := Http.call_of_unbuilt unbuilt web earlier
      rw [Archive.lookUp, hcall]
    · intro out first
      obtain ⟨query, hquery, decoded⟩ := Archive.query_of_first noQuery first
      obtain ⟨sent, prepared, goes, course⟩ := Http.course_of_call first web earlier
      obtain ⟨more, hlog, -⟩ := course.sends
      refine ⟨more, query, by rw [Archive.lookUp, hlog, goes], ?_, hquery, decoded⟩
      rw [← goes, Http.Sent.method_outgoing, Http.method_of_prepare prepared]
      rfl

/-! ## Marks that stand for themselves -/

namespace Marked

/-- A chat on this machine, under a name that holds marks of both codings. -/
def chat : Chat := ⟨"http://[::1]/hook", "a&b=\"c\\"⟩

/-- An alert that holds them, too. -/
def alert : Alert := ⟨some "x&y", "100%+1\n", "\"\x7d,\"text\":\"", none, none, ["="]⟩

/-- An archive on this machine, whose token holds marks of a query. -/
def archive : Archive := ⟨"http://[::1]/api/", "t&query=#"⟩

theorem isReachable_webhook : IsReachable chat.webhook := by
  apply @Http.isReachable_of_isSome _ (.json [])
  decide

/-- What is posted of the alert is decoded as the message about it, and what is asked for on its
account as the token and the check. -/
theorem bodies_of_marked :
    (∃ message delivery out more,
      (chat.sink (fun _ _ => .closed) .none).deliver [] alert =
        (.finished delivery, [], out :: more) ∧
      message.username = chat.username ∧ Chat.Carries message out.body) ∧
    ∃ out query, (archive.request alert.check).first? = some out ∧ out.url.query = some query ∧
      Form.decode (Octets.ofText query) = [("token", "t&query=#"), ("query", alert.check)] := by
  obtain ⟨⟨message, notices, looked, delivery, asked, built, deliver, carried, posted, -⟩, search⟩ :=
    bodies_of_alert (fun _ _ => .closed) chat .none alert []
  cases built
  obtain ⟨out, more, rfl, post, -⟩ := posted isReachable_webhook
  refine ⟨⟨_, delivery, out, more, deliver, rfl, carried out List.mem_cons_self post⟩, ?_⟩
  obtain ⟨out, first⟩ : ∃ out, (archive.request alert.check).first? = some out := by
    apply Option.isSome_iff_exists.mp
    decide
  have noQuery : Net.HasNoQuery archive.url.toList := .of_not_mem (by decide)
  obtain ⟨_, query, -, -, hquery, decoded⟩ := (search archive alert.check noQuery).2 out first
  exact ⟨out, query, first, hquery, decoded⟩

end Marked

end PulseBridge
