import PulseBridge.Http.Chunks
import PulseBridge.Http.Framing

/-!
# Requests as they go out

Before a request goes out its headers are completed: any kind of answer is welcome unless told
otherwise, and the headers say how the end of the body is known. What the caller says about that is
respected as far as it makes sense: a body goes out in chunks if an encoding is given, and is cut to
the length that is announced.
-/

namespace PulseBridge.Http

/-- The name of the header about the length of a body, and of that about its encodings. -/
def lengthHeader : String := "content-length"
def encodingHeader : String := "transfer-encoding"

/-- The values with chunks as the last encoding. -/
def withChunked : List String → List String
  | [] => []
  | [value] => [if endsInChunked value then value else value ++ ", chunked"]
  | value :: more => value :: withChunked more

/-- The headers with chunks as the last encoding. -/
def chunkedHeaders (headers : List Header) : List Header :=
  dropHeaders [encodingHeader] headers
    ++ (withChunked (headerValues encodingHeader headers)).map (⟨encodingHeader, ·⟩)

/-- The request with headers that say how the end of its body is known. -/
def Sent.framed (sent : Sent) : Sent :=
  let headers := sent.headers
  if sent.body.isEmpty then { sent with headers := dropHeaders [encodingHeader] headers }
  else if hasHeader encodingHeader headers then
    let plain := if (announcedLength? headers).isSome then dropHeaders [lengthHeader] headers
      else headers
    { sent with headers := chunkedHeaders plain, body := Chunks.write sent.body }
  else
    match announcedLength? headers with
    | some length => { sent with body := sent.body.take length }
    | none => { sent with headers := setHeader lengthHeader (toString sent.body.length) headers }

/-- The request as it goes out. -/
def Sent.complete (sent : Sent) : Sent :=
  let accept : List Header := if hasHeader "accept" sent.headers then [] else [⟨"accept", "*/*"⟩]
  Sent.framed { sent with headers := sent.headers ++ accept }

/-- Whether a request has all of the body that it announces. -/
def Sent.isWhole (sent : Sent) : Bool :=
  (announcedLength? sent.headers).all (· ≤ sent.body.length)

end PulseBridge.Http
