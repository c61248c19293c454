import PulseBridge.Http.Outgoing
import PulseBridge.Http.Request
import PulseBridge.Net.Requestable

/-!
# Calls

A call sends a request and follows redirects, at most ten of them. A redirect that asks to see
another page turns every method but `HEAD` into a plain fetch, and one that says that the page has
moved does so with a `POST`; any other repeats the request at the other place. The page that sent us
on is named in a header, and what is secret is not shown to another host. A redirect without a
usable goal is the answer itself.

What goes wrong on the way is told of the URL that was asked for at first, wherever it happened.

Every function here takes the requests sent so far and gives back the requests sent afterwards.
-/

namespace PulseBridge.Http

/-- An answer that has arrived as a whole. -/
structure Fetched where
  status : Status
  body : Octets
  deriving DecidableEq, Repr

namespace Fetched

/-- The body as text, for a reader's eyes. -/
def text (f : Fetched) : String := Octets.lossyText f.body

/-- The failure of an answer whose status is not the one wanted. -/
def refusal (f : Fetched) : CallError := .unexpectedStatus f.status f.text

/-- The answer if its status tells of success. -/
def requireSuccess (f : Fetched) : Except CallError Fetched :=
  if f.status.isSuccess then .ok f else .error f.refusal

/-- The answer if its status is a plain success. -/
def requireOk (f : Fetched) : Except CallError Fetched :=
  if f.status.code == 200 then .ok f else .error f.refusal

end Fetched

/-- The greatest number of redirects that are followed. -/
def redirectLimit : Nat := 10

/-- Headers that describe a body. -/
def bodyHeaders : List String :=
  ["content-type", "content-length", "content-encoding", "transfer-encoding"]

/-- Headers that are not shown to another host. -/
def secretHeaders : List String :=
  ["authorization", "cookie", "cookie2", "proxy-authorization", "www-authenticate"]

/-- Whether two URLs lead to the same host and port. -/
def sameHost (u v : Net.Url) : Bool := u.host? == v.host? && u.portOrUsual == v.portOrUsual

/-- A URL as the page that sent us on, unless that must not be told. -/
def referer? (next previous : Net.Url) : Option String :=
  if next.scheme == "http" && previous.scheme == "https" then none
  else some { previous.withoutCredentials with fragment := none }.text

/-- Whether a status sends us to another place. -/
def isRedirect (s : Status) : Bool := [301, 302, 303, 307, 308].contains s.code

/-- Where a reply sends us, if it does. -/
def goal? (here : Net.Url) (reply : Reply) : Option Net.Url :=
  if !isRedirect reply.status then none
  else
    match headerValues "location" reply.headers with
    | [] => none
    | location :: _ =>
        match here.join location with
        | .error _ => none
        | .ok url => if url.isRequestable then some url.requested else none

/-- The request as a plain fetch by some method. -/
def Sent.fetching (sent : Sent) (method : String) : Sent :=
  { sent with method, headers := dropHeaders bodyHeaders sent.headers, body := [] }

/-- What is asked for at the place where a status sends us. -/
def Sent.redirected (sent : Sent) (status : Status) (next : Net.Url) : Sent :=
  let there := { sent with url := next }
  match status.code with
  | 301 | 302 => if sent.method == "POST" then there.fetching "GET" else there
  | 303 => there.fetching (if sent.method == "HEAD" then "HEAD" else "GET")
  | _ => there

/-- The request as it is shown to the place where the one at `previous` sent us. -/
def Sent.comingFrom (sent : Sent) (previous : Net.Url) : Sent :=
  let headers := match referer? sent.url previous with
    | some referer => setHeader "referer" referer sent.headers
    | none => sent.headers
  { sent with
    headers := if sameHost sent.url previous then headers else dropHeaders secretHeaders headers }

/-- What arrives of a reply that is not a redirect. -/
def receive (reply : Reply) : Except CallError Fetched :=
  match reply.body with
  | .ok body => .ok ⟨reply.status, body⟩
  | .error fault => .error (.bodyLost fault)

/-- Send a request, coming from a place that sent us on or from none, and follow at most so many
redirects. `origin` is the URL that was asked for at first. -/
def exchange (web : Web) (origin : Net.Url) : (redirects : Nat) → Option Net.Url → List Sent →
    Sent → Except CallError Fetched × List Sent
  | redirects, previous, earlier, sent =>
      let out := ((previous.map sent.comingFrom).getD sent).complete
      let log := earlier ++ [out]
      let lost (fault : WayFault) := (Except.error (.lost origin fault), log)
      match web earlier out with
      | .refused => lost .refused
      | .closed => lost .closed
      | .unreadable fault => lost (.unreadable fault)
      | .stalled => lost .timedOut
      | .reply reply =>
          match goal? sent.url reply with
          | none => (receive reply, log)
          | some next =>
              match redirects with
              | 0 => (.error (.lost { sent.url with fragment := none } .tooManyRedirects), log)
              | n + 1 =>
                  if next.isHttp then
                    exchange web origin n (some sent.url) log (sent.redirected reply.status next)
                  else (.error (.lost next .badScheme), log)

/-- Make a request and wait for the whole answer. -/
def call (web : Web) (earlier : List Sent) (request : Request) :
    Except CallError Fetched × List Sent :=
  match request.prepare with
  | .error fault => (.error (.unbuilt fault), earlier)
  | .ok sent =>
      if !sent.url.isHttp then (.error (.lost sent.url .badScheme), earlier)
      else if !sent.url.isRequestable then (.error (.lost sent.url .notRequestable), earlier)
      else exchange web sent.url redirectLimit none earlier sent

end PulseBridge.Http
