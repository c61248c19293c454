import PulseBridge.Http.HeaderLines
import PulseBridge.Text.Pieces

/-!
# Where a body ends

The headers of a message say how the end of its body is known: by a length, by the chunks that it
comes in, or by the end of the connection. Both sides of a connection go by the same rules for
lengths and encodings.
-/

namespace PulseBridge.Http

/-- The text of a header whose value is plain. -/
def plainValue? (value : String) : Option (List Char) :=
  let cs := value.toList
  if cs.all fun c => (0x20 ≤ c.toNat && c.toNat ≤ 0x7e) || c == '\t' then some cs else none

/-- The parts of a plain value between commas. -/
def valueParts (cs : List Char) : List (List Char) :=
  (Text.pieces (· == ',') cs).map Text.trimChars

/-- A length in decimal digits. -/
def lengthOf? (cs : List Char) : Option Nat :=
  if cs.isEmpty then none
  else
    match cs.mapM (Net.digit? 10) with
    | none => none
    | some digits =>
        let n := Net.ofDigits 10 digits
        if n < 0x10000000000000000 then some n else none

/-- The length that all of some texts give. -/
def commonLength? (parts : List (List Char)) : Option Nat :=
  match parts.mapM lengthOf? with
  | some (n :: more) => if more.all (· == n) then some n else none
  | _ => none

/-- The announced length of a body, if all announcements agree. -/
def announcedLength? (headers : List Header) : Option Nat :=
  match (headerValues "content-length" headers).mapM plainValue? with
  | some values => commonLength? (values.flatMap valueParts)
  | none => none

/-- Whether a value of the header about encodings says that the body comes in chunks. -/
def endsInChunked (value : String) : Bool :=
  match plainValue? value with
  | some cs => (valueParts cs).getLast?.any fun part => part.map Text.asciiLower == "chunked".toList
  | none => false

/-- Whether the headers say that the body comes in chunks: the last encoding is what counts. -/
def isChunked (headers : List Header) : Bool :=
  (headerValues "transfer-encoding" headers).getLast?.any endsInChunked

/-- How the end of a body is known. -/
inductive Framing where
  /-- There is no body, whatever the headers announce. -/
  | bodiless
  | sized (length : Nat)
  | chunked
  /-- The body goes on to the end of the connection. -/
  | toEnd
  deriving DecidableEq, Repr

/-- Whether an answer to the request has no body whatever it announces. -/
def isBodiless (sent : Sent) (status : Status) : Bool :=
  sent.method == "HEAD" || status.code == 101 || status.code == 204 || status.code == 304
    || (sent.method == "CONNECT" && status.isSuccess)

/-- The greatest length that can be announced. -/
def lengthLimit : Nat := 0xFFFFFFFFFFFFFFFD

/-- How the end of the body of a reply is known. An encoding counts more than a length, but the old
version of the protocol knows none. -/
def framingOf (sent : Sent) (current : Bool) (status : Status) (headers : List Header) :
    Except ReplyFault Framing :=
  if isBodiless sent status then .ok .bodiless
  else if hasHeader "transfer-encoding" headers then
    if !current then .error .unexpectedEncoding
    else .ok (if isChunked headers then .chunked else .toEnd)
  else if hasHeader "content-length" headers then
    match announcedLength? headers with
    | none => .error .badLength
    | some length => if lengthLimit < length then .error .headTooLarge else .ok (.sized length)
  else .ok .toEnd

end PulseBridge.Http
