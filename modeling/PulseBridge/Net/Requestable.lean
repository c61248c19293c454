import PulseBridge.Net.Url

/-!
# URLs that may stand in a request

Not every URL can be asked for. Its text must not be too long, and what stands before its path must
be an authority in the stricter form of requests: few characters, brackets that close, one colon
before the port, and escapes in the credentials only. A URL without authority is taken as a whole
for one.
-/

namespace PulseBridge.Net

/-- The greatest length of a URL in a request, in octets. -/
def requestLimit : Nat := 65534

/-- The greatest length of a scheme in a request. -/
def requestSchemeLimit : Nat := 64

/-- The greatest number of colons in an authority: those of a version 6 address. -/
def requestColonLimit : Nat := 8

/-- What is known of an authority. -/
structure AuthorityScan where
  /-- The colons since the credentials or the address in brackets. -/
  colons : Nat
  opened : Bool
  closed : Bool
  /-- Whether there was an escape since the credentials or the address in brackets. -/
  escaped : Bool

namespace AuthorityScan

/-- Nothing is known. -/
def empty : AuthorityScan := ⟨0, false, false, false⟩

/-- Whether a character without meaning may stand in an authority. -/
def isPlain (c : Char) : Bool := c.isAlphanum || "!$&'()*+,-.;=_~".toList.contains c

/-- Take one character, unless it may not stand there. -/
def take (scan : AuthorityScan) (c : Char) : Option AuthorityScan :=
  if c == ':' then
    if requestColonLimit ≤ scan.colons then none else some { scan with colons := scan.colons + 1 }
  else if c == '[' then
    if scan.escaped || scan.opened then none else some { scan with opened := true }
  else if c == ']' then
    if !scan.opened || scan.closed then none
    else some { scan with closed := true, colons := 0, escaped := false }
  else if c == '@' then some { scan with colons := 0, escaped := false }
  else if c == '%' then some { scan with escaped := true }
  else if isPlain c then some scan
  else none

/-- Whether the authority may end. -/
def mayEnd (scan : AuthorityScan) : Bool :=
  scan.opened == scan.closed && scan.colons ≤ 1 && !scan.escaped

end AuthorityScan

/-- Whether a text is an authority in the form of requests. -/
def isRequestAuthority (text : String) : Bool :=
  let cs := text.toList
  !cs.isEmpty && cs.getLast? != some '@' && (cs.foldlM AuthorityScan.take .empty).any (·.mayEnd)

/-- Whether a URL can stand in a request. -/
def Url.isRequestable (url : Url) : Bool :=
  url.text.utf8ByteSize ≤ requestLimit
    && match url.authority with
      | none => isRequestAuthority url.text
      | some authority =>
          url.scheme.length ≤ requestSchemeLimit && isRequestAuthority authority.text

/-- The URL as a request knows it: without fragment, and with a path after its authority. -/
def Url.requested (url : Url) : Url :=
  { url with
    path := if url.authority.isSome && url.path == .steps [] then .steps [""] else url.path
    fragment := none }

end PulseBridge.Net
