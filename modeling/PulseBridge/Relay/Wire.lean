import PulseBridge.Http.Wire
import PulseBridge.Relay

/-!
# The relay on the wire

Inquiries and responses as messages of the hypertext protocol.
-/

namespace PulseBridge.Relay

open Http (Message Arrival Header Status)

/-- An inquiry does not make sense. -/
inductive InquiryFault where
  | malformed
  deriving DecidableEq, Repr

/-- The method and the target of the first line of an inquiry, and what follows that line. -/
def readStart (s : Octets) : Arrival InquiryFault (String × String × Octets) :=
  let line := s.takeWhile (· != Ascii.lineFeed)
  match s.drop line.length with
  | [] => .unfinished
  | _ :: rest =>
      match (Octets.lossyText line).splitOn " " with
      | [method, target, _] => .arrived (method, target, rest)
      | _ => .refused .malformed

/-- The body of an inquiry: there is one only if the headers announce it. -/
def readBody (ended : Bool) (headers : List Header) (s : Octets) : Arrival InquiryFault Octets :=
  let framing : Http.Framing :=
    if Http.isChunked headers then .chunked
    else ((Http.announcedLength? headers).map .sized).getD .bodiless
  (Http.Wire.readBody ended s framing).mapFault fun _ => .malformed

/-- What has arrived of an inquiry. -/
def Inquiry.read (ended : Bool) (s : Octets) : Arrival InquiryFault Inquiry :=
  (readStart s).andThen fun (method, target, s) =>
    ((Http.readHeaders Http.Wire.headerLimit s).mapFault fun _ => .malformed).andThen
      fun (headers, s) =>
        (readBody ended headers s).andThen fun body =>
          .arrived ⟨method, target, (Http.headerValues "content-type" headers).head?, body⟩

/-- A response as a message. -/
def Response.message (response : Response) : Message :=
  let status := (Status.ofNat? response.status).getD .ok
  let optional (name : String) (value : Option String) : List Header :=
    (value.map fun value => (⟨name, value⟩ : Header)).toList
  ⟨"HTTP/1.1 " ++ status.text,
    optional "content-type" response.contentType ++ optional "allow" response.allow
      ++ [⟨"content-length", toString response.body.length⟩, ⟨"connection", "close"⟩],
    response.body⟩

end PulseBridge.Relay
