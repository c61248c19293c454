import PulseBridge.Base64
import PulseBridge.Http.CallError

/-!
# Requests

A request is put together from a method, a URL as text, headers, pairs for the query, a user for
basic authorization and a body. `Request.prepare` turns it into what is sent; the first fault in
the order URL, headers is the one that is reported.
-/

namespace PulseBridge.Http

/-- A body with its kind. -/
inductive Body where
  /-- A document in JSON. -/
  | json (document : Octets)
  | form (pairs : List (String × String))

/-- A request to be made. -/
structure Request where
  method : String
  url : String
  headers : List (String × String)
  query : List (String × String)
  /-- The user of basic authorization; the password is empty. -/
  user : Option String
  body : Option Body

/-- A request that only fetches. -/
def Request.get (url : String) : Request := ⟨"GET", url, [], [], none, none⟩

/-- A request that hands something over. -/
def Request.post (url : String) (body : Body) : Request := ⟨"POST", url, [], [], none, some body⟩

/-- Whether a text may be the value of a header: no control but the tab. -/
def isHeaderValue (s : String) : Bool :=
  s.toList.all fun c => (0x20 ≤ c.toNat && c.toNat != 0x7f) || c == '\t'

/-- A header, its name in small letters. -/
def header (name value : String) : Except BuildFault Header :=
  if !isToken name then .error .badHeaderName
  else if !isHeaderValue value then .error .badHeaderValue
  else .ok ⟨String.ofList (name.toList.map Text.asciiLower), value⟩

/-- The header of basic authorization. -/
def basicAuthorization (user : String) (password : Option String) : Header :=
  ⟨"authorization", "Basic " ++ Base64.encode (Octets.ofText (user ++ ":" ++ password.getD ""))⟩

/-- The kind of a form. -/
def formType : String := "application/x-www-form-urlencoded"

/-- The kind of a document in JSON. -/
def jsonType : String := "application/json"

/-- Headers of the body's kind. A form leaves a kind that is given already; JSON is added. -/
def Body.headers (given : List Header) : Option Body → List Header
  | none => []
  | some (.json _) => [⟨"content-type", jsonType⟩]
  | some (.form _) =>
      if hasHeader "content-type" given then [] else [⟨"content-type", formType⟩]

/-- The octets of a body. -/
def Body.octets : Option Body → Octets
  | none => []
  | some (.json document) => document
  | some (.form pairs) => Form.encode pairs

/-- The URL of a request, which must name a host. -/
def requestUrl (text : String) : Except BuildFault Net.Url :=
  match Net.Url.ofText text with
  | .error fault => .error (.badUrl fault)
  | .ok url => if url.host?.isNone then .error (.noHost url) else .ok url

/-- A request in the form in which it is sent. Credentials in the URL become an authorization. -/
def Request.prepare (r : Request) : Except BuildFault Sent := do
  let url ← requestUrl r.url
  let (credentials, url) := url.takeCredentials
  let fromUrl := (credentials.map fun (user, password) => basicAuthorization user password).toList
  let given ← r.headers.mapM fun (name, value) => header name value
  let headers := fromUrl ++ given ++ (r.user.map (basicAuthorization · none)).toList
  return { method := r.method
           url := url.appendQuery r.query
           headers := headers ++ Body.headers headers r.body
           body := Body.octets r.body }

end PulseBridge.Http
