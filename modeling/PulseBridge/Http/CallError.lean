import PulseBridge.Http.Web
import PulseBridge.Json.Error

/-!
# Why a call fails

A call fails while the request is built, on the way, while the body arrives, or because of what
came back. Every failure has a message of one line and the messages of its causes, outermost first.
-/

namespace PulseBridge.Http

/-- Why a request cannot be built. -/
inductive BuildFault where
  | badUrl (fault : Net.UrlFault)
  /-- The URL names no host. -/
  | noHost (url : Net.Url)
  | badHeaderName
  | badHeaderValue

/-- What a request without a usable scheme is told. -/
def schemeRefused : String := "URL scheme is not allowed"

/-- The message of a fault in building, with the URL if there is one. -/
def builderMessage (url : Option Net.Url) : String :=
  "builder error" ++ (url.map fun u => " for url (" ++ u.text ++ ")").getD ""

/-- The messages of a fault in building. -/
def BuildFault.messages : BuildFault → List String
  | .badUrl fault => [builderMessage none, fault.message]
  | .noHost url => [builderMessage (some url), schemeRefused]
  | .badHeaderName => [builderMessage none, "invalid HTTP header name"]
  | .badHeaderValue => [builderMessage none, "failed to parse header value"]

/-- What goes wrong on the way. -/
inductive WayFault where
  /-- The scheme is not one of the hypertext protocol. -/
  | badScheme
  /-- The URL cannot stand in a request. -/
  | notRequestable
  | refused
  | closed
  /-- What came back is no reply. -/
  | unreadable (fault : ReplyFault)
  | timedOut
  | tooManyRedirects
  deriving DecidableEq, Repr

/-- The messages of a fault on the way to a URL. -/
def WayFault.messages (url : Net.Url) : WayFault → List String
  | .badScheme => [builderMessage (some url), schemeRefused]
  | .notRequestable => [builderMessage (some url), "Parsed Url is not a valid Uri"]
  | .refused =>
      [sending, "client error (Connect)", "tcp connect error",
        "Connection refused (os error 111)"]
  | .closed => [sending, exchanging, "connection closed before message completed"]
  | .unreadable fault => [sending, exchanging, fault.message]
  | .timedOut => [sending, "operation timed out"]
  | .tooManyRedirects =>
      ["error following redirect for url (" ++ url.text ++ ")", "too many redirects"]
where
  sending : String := "error sending request for url (" ++ url.text ++ ")"
  exchanging : String := "client error (SendRequest)"

/-- Why a value cannot be written as JSON. -/
inductive EncodeFault where
  | keyNotText
  deriving DecidableEq, Repr

/-- A fault in writing, in words. -/
def EncodeFault.message : EncodeFault → String
  | .keyNotText => "key must be a string"

/-- Why a call fails. -/
inductive CallError where
  | unbuilt (fault : BuildFault)
  | lost (url : Net.Url) (fault : WayFault)
  /-- The body does not arrive as a whole. -/
  | bodyLost (fault : BodyFault)
  | unexpectedStatus (status : Status) (body : String)
  | undecodable (error : Json.Error)
  | unencodable (fault : EncodeFault)

namespace CallError

/-- The messages of the causes, outermost first. -/
def causes : CallError → List String
  | .unbuilt fault => fault.messages
  | .lost url fault => fault.messages url
  | .bodyLost fault =>
      "error decoding response body" :: "request or response body error" :: fault.messages
  | .unexpectedStatus .. => []
  | .undecodable error => [error.message]
  | .unencodable fault => [fault.message]

/-- Whether the time was up. -/
def isTimeout : CallError → Bool
  | .lost _ fault => fault == .timedOut
  | .bodyLost fault => fault == .timedOut
  | _ => false

/-- The status that came back, if that is what is wrong. -/
def status? : CallError → Option Status
  | .unexpectedStatus status _ => some status
  | _ => none

/-- What stands before the outermost cause. -/
def opening : CallError → String
  | .unbuilt _ => "failed to build request: "
  | .lost _ .timedOut => "request timed out: "
  | .lost .. => "request failed: "
  | .bodyLost _ => "failed to read response body: "
  | .unexpectedStatus .. => "unexpected HTTP status "
  | .undecodable _ => "failed to decode JSON: "
  | .unencodable _ => "failed to encode JSON: "

/-- The failure in one line. -/
def message (e : CallError) : String :=
  match e with
  | .unexpectedStatus status body =>
      e.opening ++ status.text ++ (if body.isEmpty then "" else ": " ++ body)
  | _ => e.opening ++ e.causes.headD ""

/-- The message followed by those of all causes. -/
def chain (e : CallError) : List String := e.message :: e.causes

end CallError

end PulseBridge.Http
