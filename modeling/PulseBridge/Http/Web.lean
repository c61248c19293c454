import PulseBridge.Http.ReplyFault
import PulseBridge.Http.Status
import PulseBridge.Net.Url
import PulseBridge.Text.Blank

/-!
# The web, seen from here

What goes out are requests; what comes back depends on the request and on everything that has been
sent before. A `Web` is that dependence, and the list of requests sent so far is all the state
there is.
-/

namespace PulseBridge.Http

/-- Whether a character may stand in a method or in the name of a header. -/
def isTokenChar (c : Char) : Bool :=
  c.isAlphanum || "!#$%&'*+-.^_`|~".toList.contains c

/-- Whether a text is a method or the name of a header. -/
def isToken (s : String) : Bool := !s.isEmpty && s.toList.all isTokenChar

/-- A header. Its name is in small letters. -/
structure Header where
  name : String
  value : String
  deriving DecidableEq, Repr

/-- A request on its way. -/
structure Sent where
  method : String
  url : Net.Url
  headers : List Header
  body : Octets
  deriving DecidableEq, Repr

/-- What the first line of a request asks for: path and query, or, to be put through, the host. -/
def Sent.target (sent : Sent) : String :=
  if sent.method == "CONNECT" then (sent.url.authority.map (·.text)).getD "" else sent.url.target

/-- What a request asks for, without the query. -/
def Sent.path (sent : Sent) : String := String.ofList (sent.target.toList.takeWhile (· != '?'))

/-- An answer that has begun to arrive. -/
structure Reply where
  status : Status
  headers : List Header
  /-- The body, or why it does not arrive as a whole. -/
  body : Except BodyFault Octets

/-- What comes of a request. -/
inductive Answer where
  | reply (reply : Reply)
  /-- Nobody listens at the address. -/
  | refused
  /-- The connection is closed before an answer. -/
  | closed
  /-- What comes back is no reply. -/
  | unreadable (fault : ReplyFault)
  /-- Nothing happens until the time is up. -/
  | stalled

/-- What comes of a request after some others. -/
abbrev Web := (earlier : List Sent) → Sent → Answer

/-- The values of the headers of one name. -/
def headerValues (name : String) (headers : List Header) : List String :=
  (headers.filter (·.name == name)).map (·.value)

/-- Whether there is a header of a name. -/
def hasHeader (name : String) (headers : List Header) : Bool := headers.any (·.name == name)

/-- The headers without those of some names. -/
def dropHeaders (names : List String) (headers : List Header) : List Header :=
  headers.filter fun h => !names.contains h.name

/-- The headers with one of a name put in the place of all others of that name. -/
def setHeader (name value : String) (headers : List Header) : List Header :=
  dropHeaders [name] headers ++ [⟨name, value⟩]

end PulseBridge.Http
