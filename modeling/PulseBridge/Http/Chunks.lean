import PulseBridge.Http.HeaderLines

/-!
# Bodies in chunks

A body whose length is not known in advance comes in chunks: each behind a line with its size in
hexadecimal, up to a chunk of size zero. The line may go on with extensions, and the last chunk may
be followed by trailers, which are header lines; both are passed over. `write` puts a body into one
chunk.

## Implementation notes

The octets are read by a machine whose `State` says what may come next. A fault tells the place at
which it was found, so that the states are as many as the places.
-/

namespace PulseBridge.Http.Chunks

open Ascii

/-- What may come next. -/
inductive State where
  /-- The first digit of a size. -/
  | start
  | size
  /-- Blanks after a size. -/
  | sizeBlank
  | extension
  | sizeEnd
  /-- So many octets of a chunk. -/
  | body (left : Nat)
  | bodyReturn
  | bodyEnd
  /-- The end, or the first octet of a trailer. -/
  | last
  | trailer
  | trailerEnd
  | lastEnd
  | done
  deriving DecidableEq, Repr

/-- What has been read. -/
structure Progress where
  state : State
  /-- The size of the chunk whose line is being read. -/
  size : Nat
  /-- How many octets of extensions there were. -/
  extensions : Nat
  /-- The octets of the trailers and of the line after them, last first. -/
  trailers : Octets
  trailerCount : Nat
  /-- The octets of the body, last first. -/
  body : Octets

/-- Nothing has been read. -/
def Progress.empty : Progress := ⟨.start, 0, 0, [], 0, []⟩

/-- Sizes have 64 bits. -/
def sizeLimit : Nat := 0x10000000000000000

/-- The greatest length of all extensions, and of all trailers. -/
def sideLimit : Nat := 16384

/-- The greatest number of trailers. -/
def trailerLimit : Nat := 100

namespace Progress

/-- Add a digit to the size. -/
def takeDigit (p : Progress) (d : Nat) : Except ChunkFault Progress :=
  let size := p.size * 16 + d
  if sizeLimit ≤ size then .error .sizeTooLarge else .ok { p with state := .size, size }

/-- Take an octet that may end the size. -/
def takeSizeEnd (p : Progress) (fault : ChunkFault) (b : UInt8) : Except ChunkFault Progress :=
  if isLineBlank b then .ok { p with state := .sizeBlank }
  else if b == 0x3b then .ok { p with state := .extension }
  else if b == carriageReturn then .ok { p with state := .sizeEnd }
  else .error fault

/-- Keep an octet of the trailers. -/
def keepTrailer (p : Progress) (state : State) (b : UInt8) : Except ChunkFault Progress :=
  if sideLimit ≤ p.trailers.length + 1 then .error .trailersTooLong
  else .ok { p with state, trailers := b :: p.trailers }

/-- Take the octet that must come, or else report a fault. -/
def takeExpected (p : Progress) (state : State) (expected : UInt8) (fault : ChunkFault)
    (b : UInt8) : Except ChunkFault Progress :=
  if b == expected then .ok { p with state } else .error fault

/-- Take one octet. -/
def take (p : Progress) (b : UInt8) : Except ChunkFault Progress :=
  match p.state with
  | .start =>
      match Octets.hexValue? b with
      | some d => p.takeDigit d
      | none => .error .sizeMissing
  | .size =>
      match Octets.hexValue? b with
      | some d => p.takeDigit d
      | none => p.takeSizeEnd .badSize b
  | .sizeBlank => p.takeSizeEnd .badSizeBlank b
  | .extension =>
      if b == carriageReturn then .ok { p with state := .sizeEnd }
      else if b == lineFeed then .error .lineInExtension
      else if sideLimit ≤ p.extensions + 1 then .error .extensionsTooLong
      else .ok { p with extensions := p.extensions + 1 }
  | .sizeEnd =>
      p.takeExpected (if p.size == 0 then .last else .body (p.size - 1)) lineFeed .badSizeEnd b
  | .body left =>
      let state : State := match left with
        | 0 => .bodyReturn
        | left + 1 => .body left
      .ok { p with state, size := 0, body := b :: p.body }
  | .bodyReturn => p.takeExpected .bodyEnd carriageReturn .badBodyReturn b
  | .bodyEnd => p.takeExpected .start lineFeed .badBodyEnd b
  | .last =>
      if b == carriageReturn then
        if p.trailers.isEmpty then .ok { p with state := .lastEnd } else p.keepTrailer .lastEnd b
      else p.keepTrailer .trailer b
  | .trailer => p.keepTrailer (if b == carriageReturn then .trailerEnd else .trailer) b
  | .trailerEnd =>
      if b != lineFeed then .error .badTrailerEnd
      else if trailerLimit ≤ p.trailerCount then .error .tooManyTrailers
      else { p with trailerCount := p.trailerCount + 1 }.keepTrailer .last b
  | .lastEnd =>
      if b != lineFeed then .error .badEnd
      else if p.trailers.isEmpty then .ok { p with state := .done }
      else p.keepTrailer .done b
  | .done => .ok p

/-- What is wrong if nothing more comes. -/
def cut (p : Progress) : BodyFault :=
  match p.state with
  | .body _ => .cutShort
  | _ => .badChunk .cutShort

/-- The body, unless its trailers are no header lines. -/
def finish (p : Progress) : Except ChunkFault Octets :=
  if p.trailers.isEmpty then .ok p.body.reverse
  else
    match readHeaders p.trailerCount p.trailers.reverse with
    | .arrived _ => .ok p.body.reverse
    | .refused fault => .error (.badTrailer fault)
    | .unfinished => .error (.badTrailer .cutShort)

end Progress

/-- Read the chunks of a body. `ended` says that the connection has ended. -/
def readFrom (ended : Bool) : Progress → Octets → Arrival BodyFault Octets
  | p, [] =>
      if p.state == .done then
        match p.finish with
        | .ok body => .arrived body
        | .error fault => .refused (.badChunk fault)
      else .wanting ended p.cut
  | p, b :: rest =>
      match p.take b with
      | .ok p => readFrom ended p rest
      | .error fault => .refused (.badChunk fault)

/-- Read a body in chunks. -/
def read (ended : Bool) (s : Octets) : Arrival BodyFault Octets := readFrom ended .empty s

/-- The digits of a size. -/
def sizeText (n : Nat) : String :=
  String.ofList ((Nat.toDigits 16 n).map Char.toUpper)

/-- A body in one chunk, and the end. -/
def write (body : Octets) : Octets :=
  Octets.ofText (sizeText body.length ++ "\r\n") ++ body ++ Octets.ofText "\r\n0\r\n\r\n"

end PulseBridge.Http.Chunks
