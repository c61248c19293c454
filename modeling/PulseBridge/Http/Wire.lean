import PulseBridge.Http.Chunks
import PulseBridge.Http.Framing

/-!
# Messages on the wire

A message of the hypertext protocol is a first line, header lines, an empty line and a body. Replies
are read here, in the way of a reader who gives up at the first octet that can be no reply, and
messages of both kinds are written.
-/

namespace PulseBridge.Http

open Ascii

/-- A message to be written. -/
structure Message where
  start : String
  headers : List Header
  body : Octets
  deriving DecidableEq, Repr

namespace Wire

/-- The end of a line. -/
def lineEnd : String := "\r\n"

/-- Write a message. -/
def writeMessage (message : Message) : Octets :=
  let lines := message.start :: message.headers.map fun h => h.name ++ ": " ++ h.value
  Octets.ofText (String.join (lines.map (· ++ lineEnd)) ++ lineEnd) ++ message.body

/-- A request as it goes out. The connection is used for this one request only. -/
def ofSent (sent : Sent) : Message :=
  let host : List Header :=
    if hasHeader "host" sent.headers then [] else [⟨"host", sent.url.hostAndPort⟩]
  ⟨sent.method ++ " " ++ sent.target ++ " HTTP/1.1",
    host ++ sent.headers ++ [⟨"connection", "close"⟩], sent.body⟩

/-! ## Reading a reply -/

/-- What follows empty lines. -/
def skipEmptyLines : Octets → Arrival ReplyFault Octets
  | lineFeed :: rest => skipEmptyLines rest
  | carriageReturn :: lineFeed :: rest => skipEmptyLines rest
  | [carriageReturn] => .unfinished
  | carriageReturn :: _ => .refused .badHeader
  | s => .arrived s

/-- The version that a reply begins with, without its last digit. -/
def versionStart : Octets := Octets.ofText "HTTP/1."

/-- Whether the version of a reply is the current one, and what follows it. -/
def readVersion (s : Octets) : Arrival ReplyFault (Bool × Octets) :=
  match s.drop versionStart.length with
  | digit :: rest =>
      if s.take versionStart.length != versionStart then .refused .badVersion
      else if digit == 0x31 then .arrived (true, rest)
      else if digit == 0x30 then .arrived (false, rest)
      else .refused .badVersion
  | [] => if s.isPrefixOf versionStart then .unfinished else .refused .badVersion

/-- The code after a version, and what follows its line. -/
def readCode : Octets → Arrival ReplyFault (Status × Octets)
  | [] => .unfinished
  | b :: s =>
      if b != space then .refused .badVersion
      else
        let digits := s.take 3
        if !digits.all Octets.isDigit then .refused .badStatus
        else
          match s.drop 3 with
          | [] => .unfinished
          | c :: rest =>
              let phrase := if c == space then rest.dropWhile isValueOctet else c :: rest
              (afterLineEnd .badStatus phrase).andThen fun rest =>
                let code := digits.foldl (fun n d => n * 10 + Octets.digitValue d) 0
                match Status.ofNat? code with
                | some status => .arrived (status, rest)
                | none => .refused .badStatus

/-- The greatest number of headers. -/
def headerLimit : Nat := 100

/-- The head of a reply. -/
structure Head where
  /-- Whether it is of the current version of the protocol. -/
  current : Bool
  status : Status
  headers : List Header

/-- A fault in the header lines of a head. -/
def headFault : HeaderFault → ReplyFault
  | .tooMany => .headTooLarge
  | _ => .badHeader

/-- The head of a reply, and what follows it. -/
def readHead (s : Octets) : Arrival ReplyFault (Head × Octets) :=
  (skipEmptyLines s).andThen fun s =>
    (readVersion s).andThen fun (current, s) =>
      (readCode s).andThen fun (status, s) =>
        ((readHeaders headerLimit s).mapFault headFault).andThen fun (headers, s) =>
          .arrived (⟨current, status, headers⟩, s)

/-- A body that ends in a known way. `ended` says that the connection has ended. -/
def readBody (ended : Bool) (s : Octets) : Framing → Arrival BodyFault Octets
  | .bodiless => .arrived []
  | .sized length =>
      if s.length < length then .wanting ended .cutShort else .arrived (s.take length)
  | .chunked => Chunks.read ended s
  | .toEnd => if ended then .arrived s else .unfinished

/-- Whether a reply only tells that another one will follow. -/
def isInterim (status : Status) : Bool :=
  status.code == 100 || (102 ≤ status.code && status.code ≤ 199)

/-- The head of the reply to a request, behind others that only announce it, how its body ends, and
what follows it. Every head takes at least one octet of `clock`. -/
def readStartFrom (sent : Sent) :
    (clock : Octets) → Octets → Arrival ReplyFault (Head × Framing × Octets)
  | [], _ => .unfinished
  | _ :: clock, s =>
      (readHead s).andThen fun (head, rest) =>
        if isInterim head.status then readStartFrom sent clock rest
        else
          match framingOf sent head.current head.status head.headers with
          | .error fault => .refused fault
          | .ok framing => .arrived (head, framing, rest)

/-- What has arrived of the reply to a request, before its body. -/
def readStart (sent : Sent) (s : Octets) : Arrival ReplyFault (Head × Framing × Octets) :=
  readStartFrom sent s s

/-- What has arrived of the reply to a request. -/
def readReply (sent : Sent) (ended : Bool) (s : Octets) : Arrival ReplyFault Reply :=
  (readStart sent s).andThen fun (head, framing, rest) =>
    match readBody ended rest framing with
    | .unfinished => .unfinished
    | .refused fault => .arrived ⟨head.status, head.headers, .error fault⟩
    | .arrived body => .arrived ⟨head.status, head.headers, .ok body⟩

/-- What comes of a request to which some octets are the whole answer. -/
def answerOf : Arrival ReplyFault Reply → Answer
  | .unfinished => .closed
  | .refused fault => .unreadable fault
  | .arrived reply => .reply reply

/-- What comes of a request if some octets are all that has come of a reply when the time is up. -/
def answerInTime (sent : Sent) (s : Octets) : Answer :=
  match readStart sent s with
  | .arrived (head, _, _) => .reply ⟨head.status, head.headers, .error .timedOut⟩
  | .unfinished | .refused _ => .stalled

end Wire

end PulseBridge.Http
