import PulseBridge.Ascii
import PulseBridge.Http.Arrival
import PulseBridge.Http.ReplyFault
import PulseBridge.Http.Web

/-!
# Header lines

A header line is a name, a colon and a value, with blanks around the value that do not count. The
lines of a head end with an empty one. Every line ends in a line feed, perhaps after a carriage
return.
-/

namespace PulseBridge.Http

open Ascii

/-- What follows the end of a line. -/
def afterLineEnd {ε : Type} (fault : ε) : Octets → Arrival ε Octets
  | [] => .unfinished
  | [carriageReturn] => .unfinished
  | carriageReturn :: lineFeed :: rest => .arrived rest
  | lineFeed :: rest => .arrived rest
  | _ => .refused fault

/-- Whether an octet may stand in the name of a header. -/
def isNameOctet (b : UInt8) : Bool := b < 0x80 && isTokenChar (Char.ofNat b.toNat)

/-- Whether an octet may stand in the value of a header. -/
def isValueOctet (b : UInt8) : Bool := b == tab || (0x20 ≤ b && b != 0x7f)

/-- Whether an octet is a blank within a line. -/
def isLineBlank (b : UInt8) : Bool := b == space || b == tab

/-- The octets without the blanks at either end. -/
def trimBlanks (s : Octets) : Octets :=
  ((s.dropWhile isLineBlank).reverse.dropWhile isLineBlank).reverse

/-- The header of a line, and what follows the line. -/
def readHeader (s : Octets) : Arrival HeaderFault (Header × Octets) :=
  let name := s.takeWhile isNameOctet
  match s.drop name.length with
  | [] => .unfinished
  | colon :: rest =>
      if name.isEmpty then .refused .badName
      else
        let value := rest.takeWhile isValueOctet
        (afterLineEnd .badValue (rest.drop value.length)).andThen fun rest =>
          .arrived
            (⟨String.ofList ((Octets.lossyText name).toList.map Text.asciiLower),
              Octets.lossyText (trimBlanks value)⟩, rest)
  | _ => .refused .badName

/-- The headers up to an empty line, at most so many, and what follows that line. -/
def readHeaders : (limit : Nat) → Octets → Arrival HeaderFault (List Header × Octets)
  | limit, s =>
      match s.head? == some carriageReturn || s.head? == some lineFeed, limit with
      | true, _ => (afterLineEnd .badLineEnd s).andThen fun rest => .arrived ([], rest)
      | false, 0 => if s.isEmpty then .unfinished else .refused .tooMany
      | false, limit + 1 =>
          (readHeader s).andThen fun (header, rest) =>
            (readHeaders limit rest).andThen fun (headers, rest) =>
              .arrived (header :: headers, rest)

end PulseBridge.Http
