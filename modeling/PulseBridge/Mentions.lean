import PulseBridge.Failure
import PulseBridge.Http.Client
import PulseBridge.Json.Record

/-!
# Earlier mentions

The history of the chat can be searched for earlier mentions of a check. What is found becomes a
line that may be added to a message.
-/

namespace PulseBridge

open Http (Web Sent Fetched CallError)

/-- What a search answers. -/
structure SearchAnswer where
  ok : Bool
  error : Option String
  /-- How many messages were found. -/
  total : Option UInt64
  deriving DecidableEq, Repr

namespace SearchAnswer

/-- An answer of which nothing is known. -/
def blank : SearchAnswer := ⟨false, none, none⟩

/-- How the count of messages is read. -/
def countRecord : Json.Record UInt64 where
  title := "SearchMessages"
  blank := 0
  fields := [.of "total" [] true .u64 fun v _ => v]

/-- How an answer is read. -/
def record : Json.Record SearchAnswer where
  title := "SearchResponse"
  blank := blank
  fields :=
    [ .of "ok" [] true .boolean fun v a => { a with ok := v },
      .of "error" [] false (.nullable .text) fun v a => { a with error := v },
      .of "messages" [] false (.nullable countRecord.reader) fun v a => { a with total := v } ]

/-- The answer in a body. -/
def decode (body : Octets) : Except Json.Error SearchAnswer := Json.decode record.reader body

/-- How many messages were found, unless the search was refused. -/
def count (a : SearchAnswer) : Except Failure UInt64 :=
  if a.ok then .ok (a.total.getD 0)
  else .error (.of ("search.messages error: " ++ a.error.getD "unknown"))

end SearchAnswer

/-- Where the history of the chat is searched. -/
structure Archive where
  url : String
  token : String
  deriving DecidableEq, Repr

namespace Archive

/-- The address of the search. -/
def searchUrl (archive : Archive) : String :=
  String.ofList ((archive.url.toList.reverse.dropWhile (· == '/')).reverse) ++ "/search.messages"

/-- The request that searches for a check. -/
def request (archive : Archive) (check : String) : Http.Request :=
  { Http.Request.get archive.searchUrl with
    query := [("token", archive.token), ("query", check)] }

/-- How many earlier mentions an answer tells of. -/
def mentionsOfAnswer : Except CallError Fetched → Except Failure UInt64
  | .error e => .error ((Failure.ofCall e).during "search.messages request failed")
  | .ok fetched =>
      match fetched.requireSuccess with
      | .error e => .error (.ofCall e)
      | .ok fetched =>
          match SearchAnswer.decode fetched.body with
          | .error e =>
              .error ((Failure.ofCall (.undecodable e)).during
                "couldn't decode search.messages response")
          | .ok answer => answer.count

/-- The line about so many earlier mentions of a check. -/
def mentionLine (check : String) (total : UInt64) : Option String :=
  if total == 0 then none
  else if total == 1 then some ("`" ++ check ++ "` came up once before in this channel")
  else
    some ("`" ++ check ++ "` came up " ++ toString total.toNat
      ++ " times before in this channel")

/-- The line about earlier mentions of a check that an answer gives. -/
def lineOfAnswer (check : String) (answer : Except CallError Fetched) :
    Except Failure (Option String) :=
  (mentionsOfAnswer answer).map (mentionLine check)

/-- Search for earlier mentions of a check. -/
def lookUp (web : Web) (archive : Archive) (check : String) (earlier : List Sent) :
    Except CallError Fetched × List Sent :=
  Http.call web earlier (archive.request check)

end Archive

end PulseBridge
