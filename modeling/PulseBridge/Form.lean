import PulseBridge.Text.Lossy
import PulseBridge.Ascii

/-!
# Form coding

Pairs of texts as one run of octets: names and values are joined by `=`, pairs by `&`. Inside a
component letters, digits and `*-._` stand for themselves, a space is written `+`, and every other
octet is written `%` and two upper-case hexadecimal digits.

Decoding never fails: a `%` without two digits stands for itself, and octets that are no text are
shown with replacement characters.
-/

namespace PulseBridge.Form

open Ascii

/-- Whether an octet stands for itself in a component. -/
def isPlain (b : UInt8) : Bool :=
  (0x41 ≤ b && b ≤ 0x5a) || (0x61 ≤ b && b ≤ 0x7a) || Octets.isDigit b
    || b == 0x2a || b == minus || b == dot || b == 0x5f

/-- A percent sign and two hexadecimal digits. -/
def percentEncode (b : UInt8) : Octets :=
  [percent, Octets.hexDigit (b.toNat / 16), Octets.hexDigit (b.toNat % 16)]

/-- One octet of a component. -/
def encodeOctet (b : UInt8) : Octets :=
  if isPlain b then [b] else if b == space then [plus] else percentEncode b

/-- A name or a value. -/
def encodeComponent (s : String) : Octets := (Octets.ofText s).flatMap encodeOctet

/-- A pair. -/
def encodePair (pair : String × String) : Octets :=
  encodeComponent pair.1 ++ equals :: encodeComponent pair.2

/-- Some pairs. -/
def encode (pairs : List (String × String)) : Octets :=
  [ampersand].intercalate (pairs.map encodePair)

/-- The octets with every percent sign and two digits replaced by the octet they stand for. -/
def percentDecode : Octets → Octets
  | [] => []
  | b :: rest =>
      match b, rest with
      | percent, high :: low :: after =>
          match Octets.hexValue? high, Octets.hexValue? low with
          | some h, some l => UInt8.ofNat (h * 16 + l) :: percentDecode after
          | _, _ => percent :: percentDecode (high :: low :: after)
      | b, rest => b :: percentDecode rest

/-- The text of a name or a value. -/
def decodeComponent (bs : Octets) : String :=
  Octets.lossyText (percentDecode (bs.map fun b => if b == plus then space else b))

/-- The pieces between separators. -/
def pieces (separator : UInt8) : Octets → List Octets
  | [] => [[]]
  | b :: rest =>
      if b == separator then [] :: pieces separator rest
      else
        match pieces separator rest with
        | [] => [[b]]
        | piece :: more => (b :: piece) :: more

/-- A piece as a pair: what stands before the first `=` and what stands after it. -/
def decodePair (piece : Octets) : String × String :=
  let name := piece.takeWhile (· != equals)
  (decodeComponent name, decodeComponent (piece.drop (name.length + 1)))

/-- The pairs of a form. Empty pieces are passed over. -/
def decode (bs : Octets) : List (String × String) :=
  ((pieces ampersand bs).filter (!·.isEmpty)).map decodePair

end PulseBridge.Form
